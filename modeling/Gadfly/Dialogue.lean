/-
  Gadfly.Dialogue

  Computations that talk to the outside.

  Whatever the bot does to the world it does by a `Call`, and all that it learns from the world
  are the answers (`Call.Answer`). A `Dialogue` is a computation written as a tree: it is `done`,
  or it makes one call (`ask`) and goes on according to the answer. A `Partner` is the other side,
  with a state of its own; it may break off, in which case `Dialogue.run` ends without a result.

  Main definitions: `Call`, `Call.Answer`, `Dialogue`, `Dialogue.bind`, `Partner`, `Dialogue.run`.
-/

import Gadfly.Notice
import Gadfly.Completion

namespace Gadfly

/-! ## Calls -/

/-- What the bot can ask of the outside: of its transport, its completion service and its commands,
and what it reports. -/
inductive Call where
  /-- The newest messages of a channel before a message, at most `limit`. -/
  | history (channel before : String) (limit : Nat)
  /-- Show in a channel that an answer is being written. -/
  | typing (channel : String)
  /-- Ask the completion service. -/
  | complete (request : Request)
  /-- Answer a message. -/
  | send (message : Message) (text : String)
  /-- Let the commands look at a message; they may have an answer. -/
  | dispatch (message : Message)
  /-- Report something. -/
  | report (notice : Notice)

/-- What comes back from a `Call`. -/
abbrev Call.Answer : Call → Type
  | .history .. => Except TransportFault (List Message)
  | .typing .. => Except TransportFault Unit
  | .complete .. => Except ServiceFault Response
  | .send .. => Except TransportFault Unit
  | .dispatch .. => Option String
  | .report .. => Unit

/-! ## Dialogues -/

/-- A computation that makes calls and ends with a value. -/
inductive Dialogue (α : Type) : Type where
  | done (value : α)
  | ask (call : Call) (next : call.Answer → Dialogue α)

namespace Dialogue

variable {α β γ σ : Type}

/-- Goes on with a second computation after the first. -/
def bind : Dialogue α → (α → Dialogue β) → Dialogue β
  | .done value, f => f value
  | .ask call next, f => .ask call fun answer => (next answer).bind f

instance : Monad Dialogue where
  pure := .done
  bind := bind

@[simp] theorem pure_eq (value : α) : (pure value : Dialogue α) = .done value := rfl

@[simp] theorem bind_eq (d : Dialogue α) (f : α → Dialogue β) : d >>= f = d.bind f := rfl

@[simp] theorem done_bind (value : α) (f : α → Dialogue β) : (done value).bind f = f value := rfl

@[simp] theorem ask_bind (call : Call) (next : call.Answer → Dialogue α) (f : α → Dialogue β) :
    (ask call next).bind f = ask call fun answer => (next answer).bind f := rfl

/-- Ending right away changes nothing. -/
@[simp] theorem bind_done (d : Dialogue α) : d.bind done = d := by
  induction d with
  | done value => rfl
  | ask call next ih => simp [ih]

/-- It does not matter how three computations in a row are grouped. -/
theorem bind_assoc (d : Dialogue α) (f : α → Dialogue β) (g : β → Dialogue γ) :
    (d.bind f).bind g = d.bind fun a => (f a).bind g := by
  induction d with
  | done value => rfl
  | ask call next ih => simp [ih]

/-! ## Single calls -/

/-- Makes one call. -/
def call (c : Call) : Dialogue c.Answer :=
  .ask c .done

/-- The newest messages before a message (`fetch_history`). -/
def history (channel before : String) (limit : Nat) :
    Dialogue (Except TransportFault (List Message)) :=
  call (.history channel before limit)

/-- Shows that an answer is being written (`send_typing`). Failing to show it has no consequence. -/
def typing (channel : String) : Dialogue Unit :=
  (call (.typing channel)).bind fun _ => .done ()

/-- Asks the completion service (`create`). -/
def complete (request : Request) : Dialogue (Except ServiceFault Response) :=
  call (.complete request)

/-- Answers a message (`send_reply`). -/
def send (message : Message) (text : String) : Dialogue (Except TransportFault Unit) :=
  call (.send message text)

/-- Lets the commands look at a message. -/
def dispatch (message : Message) : Dialogue (Option String) :=
  call (.dispatch message)

/-- Reports something. -/
def report (notice : Notice) : Dialogue Unit :=
  call (.report notice)

end Dialogue

/-! ## The other side -/

/-- The other side of a dialogue: a state that answers calls. Without an answer it breaks off. -/
abbrev Partner (σ : Type) : Type :=
  σ → (call : Call) → Option call.Answer × σ

namespace Dialogue

variable {α β σ : Type}

/-- Holds a dialogue with a `Partner`. There is no value when the partner breaks off. -/
def run (partner : Partner σ) : Dialogue α → σ → Option α × σ
  | .done value, s => (some value, s)
  | .ask call next, s =>
    match partner s call with
    | (some answer, s) => (next answer).run partner s
    | (none, s) => (none, s)

@[simp] theorem run_done (partner : Partner σ) (value : α) (s : σ) :
    (done value).run partner s = (some value, s) := rfl

theorem run_ask (partner : Partner σ) (call : Call) (next : call.Answer → Dialogue α) (s : σ) :
    (ask call next).run partner s =
      match partner s call with
      | (some answer, s) => (next answer).run partner s
      | (none, s) => (none, s) := by
  rw [run]

/-- Two computations in a row are held one after the other, the second only if the first came
to its end. -/
theorem run_bind (partner : Partner σ) (d : Dialogue α) (f : α → Dialogue β) (s : σ) :
    (d.bind f).run partner s =
      match d.run partner s with
      | (some value, s) => (f value).run partner s
      | (none, s) => (none, s) := by
  induction d generalizing s with
  | done value => rfl
  | ask call next ih =>
    simp only [ask_bind, run_ask]
    split <;> simp_all

end Dialogue

end Gadfly
