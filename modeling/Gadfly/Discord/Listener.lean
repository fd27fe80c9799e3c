/-
  Gadfly.Discord.Listener

  Listening to the chat platform.

  A `Listener` keeps one connection to the gateway. It waits to be greeted (`Moment.greet`), says
  who it is, and from then on passes messages on (`Moment.hear`, `Moment.dispatch`) and sends a
  heartbeat at regular times (`Moment.beat`). A heartbeat that was not acknowledged when the next
  one is due means that the connection is dead. When a connection ends (`Ending`), another one is
  tried after a while: after a second if it ended in good order, and after twice the last wait, up
  to a minute, if it failed (`Moment.conclude`). Some ways of closing a connection mean that
  trying again is pointless (`isFatalCode`).

  `Listener.step` takes a `Signal`, at a time in milliseconds, to the next state, the frames to
  send and the events to deliver (`Reaction`). It does one thing at a time: when several
  heartbeats are due, a frame may come between two of them. That a connection is broken shows when
  it is read from (`Signal.dropped`), or when a frame is to be written on it (`Signal.unwritten`):
  then the frame is not sent, and the connection has failed with the reason.

  Main definitions: `Discord.Outgoing`, `Discord.Signal`, `Discord.Ending`, `Discord.Session`,
  `Discord.Phase`, `Discord.Listener`, `Discord.Moment`, `Discord.Listener.step`.
-/

import Gadfly.Discord.Rest
import Gadfly.Http.Status
import Gadfly.Serve

namespace Gadfly.Discord

/-! ## Frames -/

/-- Something has happened on the platform. -/
def opDispatch : Nat := 0

/-- A sign of life, or the wish for one. -/
def opHeartbeat : Nat := 1

/-- The bot says who it is. -/
def opIdentify : Nat := 2

/-- The bot is to connect again. -/
def opReconnect : Nat := 7

/-- The session is not valid any more. -/
def opInvalidSession : Nat := 9

/-- The greeting. -/
def opHello : Nat := 10

/-- A heartbeat has been noticed. -/
def opAcknowledge : Nat := 11

/-- A frame that the listener sends. -/
inductive Outgoing where
  /-- Who the bot is and what it wants to hear of. -/
  | identify (token : String) (intents : Nat)
  /-- A sign of life, with the last running number seen. -/
  | heartbeat (sequence : Option Nat)
  deriving Repr, DecidableEq

/-- A frame as JSON (`identify_frame`, `heartbeat_frame`). -/
def Outgoing.toJson : Outgoing → Json
  | .identify token intents =>
    .object [("op", .ofNat opIdentify),
      ("d", .object [("token", .string token), ("intents", .ofNat intents),
        ("properties", .object [("os", .string "linux"), ("browser", .string "snoid"),
          ("device", .string "snoid")])])]
  | .heartbeat sequence =>
    .object [("op", .ofNat opHeartbeat), ("d", (sequence.map Json.ofNat).getD .null)]

/-- The `Frame` that a text spells. -/
def readFrame? (text : String) : Option Frame :=
  (Json.read? text).bind Frame.ofJson?

/-- The time between heartbeats that a greeting asks for under `heartbeat_interval`, in
milliseconds. It is not zero. -/
def heartbeatInterval? (frame : Frame) : Option Nat :=
  match (frame.data.member "heartbeat_interval").natural? 0x10000000000000000 with
  | some ms => if 0 < ms then some ms else none
  | none => none

/-- The message in a frame, if it announces one that can be read (`decode_dispatch`): the frame is a
`MESSAGE_CREATE`, and its data a `Post`. -/
def announced? (frame : Frame) : Option Message :=
  if frame.name = some "MESSAGE_CREATE" then (Post.ofJson? frame.data).map Post.toMessage else none

/-- The codes of closing after which trying again is pointless (`is_fatal_close`). -/
def isFatalCode (code : Nat) : Bool :=
  code == 4004 || (4010 ≤ code && code ≤ 4014)

/-! ## States -/

/-- A connection after the greeting: what `session` keeps between two frames. -/
structure Session where
  /-- The time between heartbeats. -/
  interval : Nat
  /-- When the next heartbeat is due. -/
  nextBeat : Nat
  /-- The last running number seen. -/
  sequence : Option Nat
  /-- Whether the last heartbeat still has to be acknowledged. -/
  awaiting : Bool
  deriving Repr, DecidableEq

/-- Takes note of the running number of a frame (`sequence`), if it has one. -/
def Session.note (session : Session) (frame : Frame) : Session :=
  { session with sequence := frame.sequence.or session.sequence }

/-- What the listener is doing (`run`, and `session` in it). -/
inductive Phase where
  /-- It wants to connect. -/
  | dialing
  /-- It is connected and waits to be greeted. -/
  | greeting
  /-- It is connected and has been greeted. -/
  | listening (session : Session)
  /-- It waits until a time before it connects again. -/
  | resting (wakeAt : Nat)
  /-- It has stopped for good. -/
  | over
  deriving Repr, DecidableEq

/-- Whether there is a connection. -/
def Phase.isConnected : Phase → Bool
  | .greeting | .listening _ => true
  | _ => false

/-- The listener: its `Phase`, and how long it waits after a failure. -/
structure Listener where
  phase : Phase
  /-- How many seconds the next wait after a failure takes. -/
  backoff : Nat
  deriving Repr, DecidableEq

/-- The shortest wait in seconds (`INITIAL_BACKOFF`). -/
def minBackoff : Nat := 1

/-- The longest wait in seconds (`MAX_BACKOFF`). -/
def maxBackoff : Nat := 60

namespace Listener

/-- A listener at its start. -/
def fresh : Listener := ⟨.dialing, minBackoff⟩

/-- A listener that has stopped. -/
def stopped : Listener := ⟨.over, minBackoff⟩

/-- Whether it has a connection. -/
def isConnected (listener : Listener) : Bool :=
  listener.phase.isConnected

end Listener

/-! ## What happens -/

/-- What can happen to the listener. A signal that its `Phase` does not wait for changes nothing. -/
inductive Signal where
  /-- The connection is made. -/
  | accepted
  /-- The connection is refused. -/
  | rejected (status : Nat)
  | text (content : String)
  | binary
  /-- The other side closes the connection in good order. -/
  | closed (code : Option Nat)
  /-- The connection breaks. -/
  | dropped
  /-- A frame cannot be written. This stands for what called for the frame as well: a greeting, the
  wish for a sign of life, or a heartbeat that is due. -/
  | unwritten (reason : String)
  /-- The listener looks at the clock, and does the first thing that is due, if any. -/
  | clock
  deriving Repr, DecidableEq

/-- How a connection ends (`SessionEnd`, or an error of `session`). -/
inductive Ending where
  /-- In good order. -/
  | reconnect
  | failed (fault : TransportFault)
  /-- Such that trying again is pointless. -/
  | fatal (fault : TransportFault)
  /-- Because nobody takes the messages any more. -/
  | deserted
  deriving Repr, DecidableEq

/-- The listener after something has happened, what it sent, and what it delivered. -/
structure Reaction where
  listener : Listener
  sent : List Outgoing
  delivered : List Event

/-- Where and when something happens: the account, whether anybody takes what is delivered, and
the time. -/
structure Moment where
  account : Account
  taken : Bool
  now : Nat

namespace Moment

variable (moment : Moment)

/-- A wait of some seconds. -/
def rest (seconds : Nat) : Phase :=
  .resting (moment.now + 1000 * seconds)

/-- Ends a connection: the next wait is `minBackoff` after `Ending.reconnect` and `backoff` after
`Ending.failed`, which is delivered as an error and doubles the wait after it. The other endings
stop the listener, of which `Ending.fatal` is delivered. -/
def conclude (backoff : Nat) (sent : List Outgoing) : Ending → Reaction
  | .reconnect => ⟨⟨moment.rest minBackoff, min (2 * minBackoff) maxBackoff⟩, sent, []⟩
  | .failed fault =>
    if moment.taken then
      ⟨⟨moment.rest backoff, min (2 * backoff) maxBackoff⟩, sent, [.error fault]⟩
    else ⟨.stopped, sent, []⟩
  | .fatal fault => ⟨.stopped, sent, if moment.taken then [.error fault] else []⟩
  | .deserted => ⟨.stopped, sent, []⟩

/-- How a connection ends that breaks (`Signal.dropped`). -/
def broken : Ending :=
  .failed (.connectionLost "WebSocket protocol error: Connection reset without closing handshake")

/-- How a connection ends on which a frame cannot be written (`Signal.unwritten`). -/
def unwritten (reason : String) : Ending :=
  .failed (.connectionLost reason)

/-- What is wrong with an answer to the wish for a connection that does not make one
(`Signal.rejected`). Status 101 promises a connection, but such an answer does not say of which
kind. -/
def rejection (status : Nat) : String :=
  if status = 101 then "WebSocket protocol error: No \"Upgrade: websocket\" header"
  else "HTTP error: " ++ Http.describeStatus status

/-- How a refused connection ends (`Signal.rejected`). -/
def refused (status : Nat) : Ending :=
  .failed (.connectionLost ("gateway connect: " ++ rejection status))

/-- How a connection ends on which something else than frames comes before the greeting. -/
def unreadable : Ending :=
  .failed (.invalidPayload "not a gateway frame")

/-- How a connection ends whose greeting does not say when heartbeats are due. -/
def unmeasured : Ending :=
  .failed (.invalidPayload "HELLO without heartbeat_interval")

/-- How a closed connection ends, after a code that `isFatalCode` or not. -/
def closing : Option Nat → Ending
  | some code =>
    if isFatalCode code then
      .fatal (.unauthorized ("gateway closed with code " ++ toString code))
    else .reconnect
  | none => .reconnect

/-- Takes a frame before the greeting. A greeting with a `heartbeatInterval?` is answered by
`Outgoing.identify`; frames with another `op` are passed over. -/
def greet (backoff : Nat) (text : String) : Reaction :=
  match readFrame? text with
  | none => moment.conclude backoff [] unreadable
  | some frame =>
    if frame.op = opHello then
      match heartbeatInterval? frame with
      | some interval =>
        ⟨⟨.listening ⟨interval, moment.now + interval, none, false⟩, backoff⟩,
          [.identify moment.account.token moment.account.intents], []⟩
      | none => moment.conclude backoff [] unmeasured
    else ⟨⟨.greeting, backoff⟩, [], []⟩

/-- Goes on with a session. -/
def goOn (backoff : Nat) (session : Session) (sent : List Outgoing) (delivered : List Event) :
    Reaction :=
  ⟨⟨.listening session, backoff⟩, sent, delivered⟩

/-- Takes a message that a frame announces (`announced?`): it is delivered if it is on a channel
that the account `listensTo`. -/
def dispatch (backoff : Nat) (session : Session) (frame : Frame) : Reaction :=
  match announced? frame with
  | none => goOn backoff session [] []
  | some message =>
    if !moment.account.listensTo message.channel then goOn backoff session [] []
    else if moment.taken then goOn backoff session [] [.ok message]
    else moment.conclude backoff [] .deserted

/-- Takes a frame after the greeting, by its `op`. What cannot be read (`readFrame?`) is passed
over. -/
def hear (backoff : Nat) (session : Session) (text : String) : Reaction :=
  match readFrame? text with
  | none => goOn backoff session [] []
  | some frame =>
    let session := session.note frame
    if frame.op = opDispatch then moment.dispatch backoff session frame
    else if frame.op = opHeartbeat then
      goOn backoff session [.heartbeat session.sequence] []
    else if frame.op = opAcknowledge then
      goOn backoff { session with awaiting := false } [] []
    else if frame.op = opReconnect ∨ frame.op = opInvalidSession then
      moment.conclude backoff [] .reconnect
    else goOn backoff session [] []

/-- Looks at the clock in a session. When `nextBeat` has come, a heartbeat is sent; but if the one
before it is still `awaiting` an acknowledgement, the connection ends. -/
def beat (backoff : Nat) (session : Session) : Reaction :=
  if moment.now < session.nextBeat then goOn backoff session [] []
  else if session.awaiting then moment.conclude backoff [] .reconnect
  else
    goOn backoff
      { session with awaiting := true, nextBeat := session.nextBeat + session.interval }
      [.heartbeat session.sequence] []

end Moment

/-- What the listener does in a `Moment` upon a `Signal`: `Moment.greet` before the greeting, and
then `Moment.hear` and `Moment.beat`. -/
def Listener.step (moment : Moment) (listener : Listener) (signal : Signal) : Reaction :=
  let same : Reaction := ⟨listener, [], []⟩
  match listener.phase, signal with
  | .dialing, .accepted => ⟨⟨.greeting, listener.backoff⟩, [], []⟩
  | .dialing, .rejected status => moment.conclude listener.backoff [] (Moment.refused status)
  | .greeting, .text content => moment.greet listener.backoff content
  | .greeting, .closed _ => moment.conclude listener.backoff [] .reconnect
  | .greeting, .dropped => moment.conclude listener.backoff [] Moment.broken
  | .greeting, .unwritten reason =>
    moment.conclude listener.backoff [] (Moment.unwritten reason)
  | .listening session, .text content => moment.hear listener.backoff session content
  | .listening _, .closed code => moment.conclude listener.backoff [] (Moment.closing code)
  | .listening _, .dropped => moment.conclude listener.backoff [] Moment.broken
  | .listening _, .unwritten reason =>
    moment.conclude listener.backoff [] (Moment.unwritten reason)
  | .listening session, .clock => moment.beat listener.backoff session
  | .resting wakeAt, .clock =>
    if wakeAt ≤ moment.now then ⟨⟨.dialing, listener.backoff⟩, [], []⟩ else same
  | _, _ => same

end Gadfly.Discord
