/-
  Gadfly.Discord.Encounter

  A listener and a gateway that follows a script.

  In an `Encounter` time is a number of milliseconds and moves only where the script says so.
  `happen` and `go` let things happen (`Happening`) to the listener and around it. A `Move` of the
  script is carried out to its end before the next (`play`), and is answered by a `Sighting`, what
  could be seen of it: what the listener sent and delivered, and in which state it is. Nobody
  looks at what is sent while the gateway waits in vain (`await`); it is seen after the next move.

  Main definitions: `Discord.Encounter`, `Discord.Happening`, `Discord.Encounter.go`,
  `Discord.Move`, `Discord.Sighting`, `Discord.Encounter.play`.
-/

import Gadfly.Discord.Listener

namespace Gadfly.Discord

/-- A `Listener`, whether anybody takes what it delivers, and the time. -/
structure Encounter where
  account : Account
  listener : Listener
  taken : Bool
  now : Nat
  /-- What the listener has sent and nobody has seen yet. -/
  unseen : List Outgoing

/-- What can happen to a listener and around it: a `Signal`, time, or that it is stopped or no
longer heard. -/
inductive Happening where
  /-- Something happens to the listener. -/
  | signal (signal : Signal)
  /-- Time passes. -/
  | elapse (ms : Nat)
  /-- Those who take what is delivered go away. -/
  | leave
  /-- The listener is stopped. -/
  | stop
  deriving Repr, DecidableEq

/-- A move of the gateway, or of those who use the listener. A move may take time, in which more
than one `Happening` can occur. -/
inductive Move where
  /-- Wait for the listener to connect, and let it. -/
  | accept
  /-- Wait for the listener to connect, and refuse it. -/
  | reject (status : Nat)
  | send (texts : List String)
  | binary
  | close (code : Option Nat)
  | drop
  | advance (ms : Nat)
  /-- Take nothing any more of what is delivered. -/
  | leave
  /-- Start the listener anew. -/
  | restart
  | stop

/-- What can be seen of a `Move` (`observe`): what was sent and delivered, and how the listener
stands. -/
inductive Sighting where
  /-- What was sent and delivered, how many seconds it took the listener to come, whether there
  is a connection, and whether nothing will be delivered any more. -/
  | seen (sent : List Outgoing) (delivered : List Event) (waited : Option Nat)
      (connected ended : Bool)
  /-- The listener did not come. -/
  | noShow (ended : Bool)

namespace Encounter

/-- An encounter at its start. -/
def start (account : Account) : Encounter :=
  ⟨account, .fresh, true, 0, []⟩

/-- The `Moment` at which things happen now. -/
def moment (e : Encounter) : Moment :=
  ⟨e.account, e.taken, e.now⟩

/-- Whether those who take what is delivered know that nothing more will come. -/
def ended (e : Encounter) : Bool :=
  e.taken && e.listener.phase = .over

/-- Lets something happen (`Listener.step` for a `Signal`): the encounter after it, what was sent
and what was delivered. -/
def happen (e : Encounter) : Happening → Encounter × List Outgoing × List Event
  | .signal s =>
    let reaction := e.listener.step e.moment s
    ({ e with listener := reaction.listener }, reaction.sent, reaction.delivered)
  | .elapse ms => ({ e with now := e.now + ms }, [], [])
  | .leave => ({ e with taken := false }, [], [])
  | .stop => ({ e with listener := .stopped }, [], [])

/-- Lets several things happen, one after the other, by `happen`. -/
def go (e : Encounter) : List Happening → Encounter × List Outgoing × List Event
  | [] => (e, [], [])
  | happening :: rest =>
    let (e, sent, delivered) := e.happen happening
    let (e, moreSent, moreDelivered) := e.go rest
    (e, sent ++ moreSent, delivered ++ moreDelivered)

/-- Time that passes in one jump. What is due then is done at once: a heartbeat, and after it the
end of the connection when the next one is due as well. -/
def jump (ms : Nat) : List Happening :=
  [.elapse ms, .signal .clock, .signal .clock]

/-- How many seconds the gateway waits for the listener to come. -/
def patience : Nat := 64

/-- Lets a second pass in which nobody looks: the clock is the only `Signal`. -/
def tick (e : Encounter) : Encounter :=
  let (e, sent, _) := e.go (jump 1000)
  { e with unseen := e.unseen ++ sent }

/-- Waits, second by second, until the listener wants to connect: the seconds that took, or
nothing if it did not come in time. -/
def await : (left waited : Nat) → Encounter → Option Nat × Encounter
  | left, waited, e =>
    if e.listener.phase = .dialing then (some waited, e)
    else
      match left with
      | 0 => (none, e)
      | left + 1 => await left (waited + 1) e.tick

/-- What is seen after a move. -/
def observe (waited : Option Nat) : Encounter × List Outgoing × List Event → Sighting × Encounter
  | (e, sent, delivered) =>
    (.seen (e.unseen ++ sent) delivered waited e.listener.isConnected e.ended,
      { e with unseen := [] })

/-- Answers the listener when it comes (`await`). What it sent on an earlier connection is lost by
then. -/
def receive (e : Encounter) (s : Signal) : Sighting × Encounter :=
  match await patience 0 e with
  | (some waited, e) =>
    observe (some waited) (({ e with unseen := [] } : Encounter).happen (.signal s))
  | (none, e) => (.noShow e.ended, e)

/-- Carries out a `Move`, and tells what is seen of it. -/
def play (e : Encounter) : Move → Sighting × Encounter
  | .accept => e.receive .accepted
  | .reject status => e.receive (.rejected status)
  | .send texts => observe none (e.go (texts.map fun text => .signal (.text text)))
  | .binary => observe none (e.happen (.signal .binary))
  | .close code => observe none (e.happen (.signal (.closed code)))
  | .drop => observe none (e.happen (.signal .dropped))
  | .advance ms => observe none (e.go (jump ms))
  | .leave => observe none (e.happen .leave)
  | .restart => observe none ({ e with listener := .fresh, taken := true }, [], [])
  | .stop => observe none (e.happen .stop)

/-- Carries out moves one after the other, by `play`. -/
def playAll (e : Encounter) : List Move → List Sighting
  | [] => []
  | move :: rest =>
    let (sighting, e) := e.play move
    sighting :: e.playAll rest

end Encounter

end Gadfly.Discord
