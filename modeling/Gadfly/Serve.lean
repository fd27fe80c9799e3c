/-
  Gadfly.Serve

  Handling a stream of events to its end.

  An `Event` is a message, or a failure of the transport between messages. `Serve.intake` reports
  failures as they come. `Serve.handleAll` handles messages each on its own, once the stream has
  ended, in the order in which they came; a partner that breaks off while one message is handled
  does not keep the others from being handled.

  Main definitions: `Event`, `Serve.failures`, `Serve.messages`, `Serve.intake`,
  `Serve.handleAll`, `serve`.
-/

import Gadfly.Router

namespace Gadfly

open Dialogue

/-- What comes in from a transport: a message, or why there may be none for a while. -/
abbrev Event := Except TransportFault Message

namespace Serve

/-- The failures among events. -/
def failures (events : List Event) : List TransportFault :=
  events.filterMap fun
    | .error fault => some fault
    | .ok _ => none

/-- The messages among events. -/
def messages (events : List Event) : List Message :=
  events.filterMap fun
    | .error _ => none
    | .ok message => some message

/-- Reports each failure, and then that the stream has ended. -/
def reportAll : List TransportFault → (inFlight : Nat) → Dialogue Unit
  | [], inFlight => report (.inboundClosed inFlight)
  | fault :: faults, inFlight => do
    report (.transportFailed fault)
    reportAll faults inFlight

/-- Takes in the events: all of `serve` but the handling of the messages. -/
def intake (events : List Event) : Dialogue Unit :=
  reportAll (failures events) (messages events).length

/-- Handles messages one after the other, by `Router.handle`. -/
def handleAll {σ : Type} (partner : Partner σ) (router : Router) :
    List Message → σ → List (Option Outcome) × σ
  | [], s => ([], s)
  | message :: rest, s =>
    let (outcome, s) := (router.handle message).run partner s
    let (outcomes, s) := handleAll partner router rest s
    (outcome :: outcomes, s)

end Serve

/-- Handles a stream of events: `intake`, and then `handleAll` for its `messages`. There is one
outcome for each message, none where the partner broke off. -/
def serve {σ : Type} (partner : Partner σ) (router : Router) (events : List Event) (s : σ) :
    List (Option Outcome) × σ :=
  let (_, s) := (Serve.intake events).run partner s
  Serve.handleAll partner router (Serve.messages events) s

end Gadfly
