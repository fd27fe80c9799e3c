/-
  Gadfly.Router

  How the bot handles a message.

  `Router.handle` passes over messages by bots. For any other message one `transcript` is made
  (`assemble`), and every question to a model is asked about it (`Router.ask`, the metered call).
  Somebody who addressed the bot gets a critique (`direct`, which is `direct_reply`), somebody who
  greeted it gets an acknowledgement (`greet`, which is `presence_reply`). When either fails, the
  message is treated like one that merely goes by (`passive`, which is `passive_reply`): the cheap
  model is asked whether it is wrong (`gate`), and only then the expensive one for a critique,
  which it may withhold. `comment` is that attempt by itself (`try_passive`), whose failures
  `passive` reports. Whatever happened, the commands see the message last (`command`, which is
  `dispatch_command`).

  Main definitions: `Transcript.gather`, `Outcome`, `Router`, `Router.gate`, `Router.critique`,
  `Router.presence`, `Router.direct`, `Router.greet`, `Router.comment`, `Router.passive`,
  `Router.answer`, `Router.command`, `Router.handle`.
-/

import Gadfly.Dialogue
import Gadfly.Prompt
import Gadfly.Transcript

namespace Gadfly

open Dialogue

/-! ## Transcripts -/

/-- The transcript of a message, with up to `count` earlier messages (`assemble`). The transport is
asked for them once, by `history`; when that fails, or when `count` is zero, the message stands
alone. -/
def Transcript.gather (most count : Nat) (message : Message) : Dialogue Transcript :=
  if count = 0 then return .build most 0 message []
  else do
    match ← history message.channel message.id count with
    | .ok messages => return .build most count message messages
    | .error fault =>
      report (.noHistory message fault)
      return .build most count message []

/-- What became of a message that was handled. -/
inductive Outcome where
  /-- It came from a bot. -/
  | ignored
  /-- An answer was delivered. -/
  | replied (mode : Mode) (text : String)
  /-- No answer was delivered. -/
  | silent (mode : Mode)
  deriving Repr, DecidableEq

/-- The bot at work: what a `MessageRouter` is made of, but for what it calls. -/
structure Router where
  settings : Settings
  /-- The bot's own id on the transport. -/
  selfId : String
  prices : Price.Table

namespace Router

variable (router : Router)

/-- The transcript of a message (`Transcript.gather`), within the bounds of the settings. -/
def transcript (message : Message) : Dialogue Transcript :=
  Transcript.gather router.settings.truncateLength router.settings.historyCount message

/-! ## Questions to the models -/

/-- Asks a model, and reports as `Notice.cost` what the answer cost. This is the metered `call`: an
answer is priced before anything is made of it, a failure is not. -/
def ask (purpose : Price.Purpose) (model prompt messageId : String) :
    Dialogue (Except ServiceFault Completion) := do
  match ← complete ⟨model, prompt⟩ with
  | .error fault => return .error fault
  | .ok response =>
    let completion := response.normal
    report (.cost messageId
      (Price.record router.prices purpose model completion.inputTokens completion.outputTokens))
    return .ok completion

/-- Whether the cheap model finds the last line wrong (`should_critique_transcript`): its answer
`isAffirmative`. -/
def gate (message : Message) (transcript : String) : Dialogue (Except ServiceFault Bool) := do
  match ← router.ask .gate router.settings.cheapModel (Prompt.gate transcript) message.id with
  | .error fault => return .error fault
  | .ok completion => return .ok (isAffirmative completion.text)

/-- The name by which the bot goes in prompts (`Prompt.persona`). -/
def persona : String :=
  Prompt.persona router.settings.botName

/-- What the expensive model has to say about the last line (`critique_transcript`). It may stay
silent unless `forced`. -/
def critique (message : Message) (transcript : String) (forced : Bool) :
    Dialogue (Except ServiceFault String) := do
  match ← router.ask .critique router.settings.expensiveModel
      (Prompt.critique router.persona transcript forced) message.id with
  | .error fault => return .error fault
  | .ok completion => return .ok completion.text

/-- How the expensive model answers a greeting (`presence_for_transcript`); with
`Prompt.presenceFallback` when it says nothing. -/
def presence (message : Message) (transcript : String) :
    Dialogue (Except ServiceFault String) := do
  match ← router.ask .presence router.settings.expensiveModel
      (Prompt.presence router.persona transcript) message.id with
  | .error fault => return .error fault
  | .ok completion =>
    return .ok (if completion.text = "" then Prompt.presenceFallback else completion.text)

/-- Puts a `question` about a message, with a transcript made for it: the forms `should_critique`,
`craft_critique` and `craft_presence`, which gather their own context. -/
def consult {α : Type} (question : Message → String → Dialogue α) (message : Message) :
    Dialogue α := do
  let transcript ← router.transcript message
  question message transcript.render

/-! ## Answers to messages -/

/-- Delivers an answer by `send`, whose failure is a `Fault.transport`. -/
def deliver (message : Message) (text : String) : Dialogue (Except Fault (Option String)) := do
  match ← send message text with
  | .error fault => return .error (.transport fault)
  | .ok () => return .ok (some text)

/-- The answer to somebody who addressed the bot (`direct_reply`): a forced `critique` without the
sentinel. One with nothing left of it is no failure, but is reported. -/
def direct (message : Message) (transcript : String) :
    Dialogue (Except Fault (Option String)) := do
  typing message.channel
  match ← router.critique message transcript true with
  | .error fault => return .error (.service fault)
  | .ok raw =>
    let text := stripSentinel raw
    if text = "" then
      report (.emptyCritique message.id)
      return .ok none
    else deliver message text

/-- The answer to somebody who greeted the bot (`presence_reply`). -/
def greet (message : Message) (transcript : String) :
    Dialogue (Except Fault (Option String)) := do
  typing message.channel
  match ← router.presence message transcript with
  | .error fault => return .error (.service fault)
  | .ok text => deliver message text

/-- The answer to a message that goes by, if it deserves one (`try_passive`): the `gate` has to be
open, and the `critique` not withheld (`isSuppressed`). -/
def comment (message : Message) (transcript : String) :
    Dialogue (Except Fault (Option String)) := do
  match ← router.gate message transcript with
  | .error fault => return .error (.service fault)
  | .ok false => return .ok none
  | .ok true =>
    typing message.channel
    match ← router.critique message transcript false with
    | .error fault => return .error (.service fault)
    | .ok text =>
      if isSuppressed text then return .ok none else deliver message text.trimmed

/-- The answer to a message that goes by (`passive_reply`): failures of `comment` are reported and
go no further. -/
def passive (message : Message) (transcript : String) : Dialogue (Option String) := do
  match ← router.comment message transcript with
  | .ok reply => return reply
  | .error fault =>
    report (.passiveFailed message fault)
    return none

/-- The answer to a message in a mode. When `direct` or `greet` fails, the message is answered like
one that goes by (`passive`). -/
def answer (mode : Mode) (message : Message) (transcript : String) : Dialogue (Option String) :=
  match mode with
  | .direct => do
    match ← router.direct message transcript with
    | .ok reply => return reply
    | .error fault =>
      report (.directFailed message.id fault)
      router.passive message transcript
  | .greeting => do
    match ← router.greet message transcript with
    | .ok reply => return reply
    | .error fault =>
      report (.greetingFailed message.id fault)
      router.passive message transcript
  | .passive => router.passive message transcript

/-- Lets the commands see a message (`dispatch_command`), and delivers their answer if they have
one. -/
def command (message : Message) : Dialogue Unit := do
  match ← dispatch message with
  | none => return ()
  | some reply =>
    match ← send message reply with
    | .ok () => return ()
    | .error fault => report (.commandFailed message.id fault)

/-- The mode of a message (`Mode.classify`). -/
def classify (message : Message) : Mode :=
  .classify router.settings router.selfId message

/-- What became of a message with a mode and perhaps a delivered answer. -/
def outcome (mode : Mode) : Option String → Outcome
  | some text => .replied mode text
  | none => .silent mode

/-- Handles a message: `transcript`, `answer`, and `command` last. A message by a bot is
`Outcome.ignored`. -/
def handle (message : Message) : Dialogue Outcome :=
  if message.fromBot then return .ignored
  else do
    let mode := router.classify message
    report (.routing message mode)
    let transcript ← router.transcript message
    let reply ← router.answer mode message transcript.render
    command message
    return outcome mode reply

/-- A message by a bot causes no call. -/
theorem handle_of_fromBot {message : Message} (h : message.fromBot = true) :
    router.handle message = .done .ignored := by
  simp [handle, h]

end Router

end Gadfly
