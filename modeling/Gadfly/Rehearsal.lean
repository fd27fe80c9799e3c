/-
  Gadfly.Rehearsal

  A transport and a service that follow a script.

  The `transport` of a `Channel` has a fixed history and a result for each answer to be sent; the
  `service` has a list of `Turn`s and uses up one for each question. Both succeed, or fail, as
  written.

  Main definitions: `Rehearsal.Channel`, `Rehearsal.transport`, `Rehearsal.Turn`,
  `Rehearsal.service`, `Rehearsal.partner`.
-/

import Gadfly.Stage

namespace Gadfly.Rehearsal

/-- The script of a transport. -/
structure Channel where
  selfId : String
  /-- The history, newest first, or why there is none. -/
  history : Except TransportFault (List Message)
  /-- Whether the whole history is handed out, however little was asked for. -/
  ignoresLimit : Bool
  typing : Except TransportFault Unit
  /-- The results of sending, in order; then sending succeeds. -/
  sends : List (Except TransportFault Unit)

/-- A `Transport` that follows its script. -/
def transport : Transport Channel where
  selfId := (·.selfId)
  history c _ _ limit :=
    (c.history.map fun messages => if c.ignoresLimit then messages else messages.take limit, c)
  typing c _ := (c.typing, c)
  send c _ _ :=
    match c.sends with
    | [] => (.ok (), c)
    | result :: rest => (result, { c with sends := rest })

/-- One turn of a service. -/
inductive Turn where
  | answer (result : Except ServiceFault Response)
  /-- The service breaks down. -/
  | breakdown

/-- What a service says that has no turn left. -/
def exhausted : ServiceFault := .unconfigured "script exhausted"

/-- A `Service` that follows its script (`ScriptedService`). -/
def service : Service (List Turn) where
  complete turns _ :=
    match turns with
    | [] => (some (.error exhausted), [], [])
    | .answer result :: rest => (some result, [], rest)
    | .breakdown :: rest => (none, [], rest)

/-- A `Stage` with a scripted transport and a scripted service. -/
abbrev Set := Stage Channel (List Turn)

/-- The other side of a dialogue, as scripted. -/
def partner : Partner Set :=
  Stage.partner transport service

end Gadfly.Rehearsal
