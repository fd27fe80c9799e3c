/-
  Gadfly.Stage

  The outside of the bot, put together from its parts.

  A `Transport` carries messages and a `Service` writes completions, each with a state of its own.
  Together with the `Commands` they answer all calls (`Stage.react`, `Stage.partner`). A `Stage`
  also keeps the calls made on it, in order, so that one can look afterwards at what was asked
  (`Call.requests`), shown to the commands (`Call.dispatched`) and reported (`Call.notices`).

  Main definitions: `Transport`, `Service`, `Commands`, `Stage`, `Stage.partner`, and the views
  `Call.requests`, `Call.dispatched`, `Call.notices` of a list of calls.
-/

import Gadfly.Serve
import Gadfly.Command

namespace Gadfly

/-- What carries messages, with a state of its own. -/
structure Transport (τ : Type) where
  /-- The bot's own id. -/
  selfId : τ → String
  /-- The newest messages of a channel before a message. -/
  history : τ → (channel before : String) → (limit : Nat) →
    Except TransportFault (List Message) × τ
  typing : τ → (channel : String) → Except TransportFault Unit × τ
  send : τ → Message → (text : String) → Except TransportFault Unit × τ

/-- What writes completions: its answer, if it does not break down, and what it reports. -/
structure Service (σ : Type) where
  complete : σ → Request → Option (Except ServiceFault Response) × List Notice × σ

/-- The commands that people may give, if any (`PrefixCommands`): their mark and the prices that
they quote. -/
abbrev Commands := Option (String × Price.Table)

/-- What the commands say to a message (`Command.reply?`). -/
def Commands.reply? (commands : Commands) (message : Message) : Option String :=
  commands.bind fun (mark, table) => Command.reply? mark table message.content

/-- The outside, with the calls made so far: the state of a `Transport`, that of a `Service`, and
the `Commands`. -/
structure Stage (τ σ : Type) where
  transport : τ
  service : σ
  commands : Commands
  /-- The calls made, in order. -/
  journal : List Call

namespace Stage

variable {τ σ : Type}

/-- A stage on which nothing has happened. -/
def fresh (transport : τ) (service : σ) (commands : Commands) : Stage τ σ :=
  ⟨transport, service, commands, []⟩

/-- Forgets the calls made so far. -/
def cleared (stage : Stage τ σ) : Stage τ σ :=
  { stage with journal := [] }

/-- Answers a `Call`, and takes it down. -/
def react (transport : Transport τ) (service : Service σ) (stage : Stage τ σ) :
    (call : Call) → Option call.Answer × Stage τ σ
  | .history channel before limit =>
    let (answer, t) := transport.history stage.transport channel before limit
    (some answer, { stage with transport := t })
  | .typing channel =>
    let (answer, t) := transport.typing stage.transport channel
    (some answer, { stage with transport := t })
  | .complete request =>
    let (answer, notices, s) := service.complete stage.service request
    (answer, { stage with service := s, journal := stage.journal ++ notices.map .report })
  | .send message text =>
    let (answer, t) := transport.send stage.transport message text
    (some answer, { stage with transport := t })
  | .dispatch message => (some (stage.commands.reply? message), stage)
  | .report _ => (some (), stage)

/-- The stage as a `Partner`, which answers by `react`. -/
def partner (transport : Transport τ) (service : Service σ) : Partner (Stage τ σ) :=
  fun stage call => react transport service { stage with journal := stage.journal ++ [call] } call

end Stage

/-! ## Looking at calls -/

namespace Call

/-- The questions to the completion service. -/
def requests (calls : List Call) : List Request :=
  calls.filterMap fun
    | .complete request => some request
    | _ => none

/-- The messages that the commands got to see. -/
def dispatched (calls : List Call) : List Message :=
  calls.filterMap fun
    | .dispatch message => some message
    | _ => none

/-- What was reported. -/
def notices (calls : List Call) : List Notice :=
  calls.filterMap fun
    | .report notice => some notice
    | _ => none

@[simp] theorem requests_append (first second : List Call) :
    requests (first ++ second) = requests first ++ requests second := by
  simp only [requests, List.filterMap_append]

@[simp] theorem dispatched_append (first second : List Call) :
    dispatched (first ++ second) = dispatched first ++ dispatched second := by
  simp only [dispatched, List.filterMap_append]

@[simp] theorem notices_append (first second : List Call) :
    notices (first ++ second) = notices first ++ notices second := by
  simp only [notices, List.filterMap_append]

end Call

end Gadfly
