/-
  Gadfly.Proofs.Gateway.Restart

  Starting anew, and stopping.

  A listener counts time from when it was started: an encounter that is later by some time
  (`Encounter.shift`) goes the same way, later by that time. So an encounter in which the listener
  is started anew (`Move.restart`) goes on like one that has just begun, whatever had happened
  before. A listener that has stopped (`Move.stop`) is not seen any more, and those who wait for
  it wait in vain (`Encounter.IsQuiet`).

  Main definitions: `Encounter.shift`, `Encounter.playedAll`, `Sighting.IsQuiet`,
  `Encounter.IsQuiet`.
  Main statements: `Encounter.go_shift`, `Encounter.playAll_shift`, `Encounter.playAll_restart`,
  `Encounter.IsQuiet.playAll`, `Encounter.playAll_stop`.
-/

import Gadfly.Proofs.Gateway.Image
import Gadfly.Proofs.Gateway.Stop

namespace Gadfly.Discord

/-! ## Later by some time -/

def Session.shift (d : Nat) (session : Session) : Session :=
  { session with nextBeat := session.nextBeat + d }

def Phase.shift (d : Nat) : Phase → Phase
  | .listening session => .listening (session.shift d)
  | .resting wakeAt => .resting (wakeAt + d)
  | phase => phase

def Listener.shift (d : Nat) (listener : Listener) : Listener :=
  { listener with phase := listener.phase.shift d }

def Moment.shift (d : Nat) (moment : Moment) : Moment :=
  { moment with now := moment.now + d }

def Reaction.shift (d : Nat) (reaction : Reaction) : Reaction :=
  { reaction with listener := reaction.listener.shift d }

/-- An encounter, later by some time. -/
def Encounter.shift (d : Nat) (e : Encounter) : Encounter :=
  { e with listener := e.listener.shift d, now := e.now + d }

@[simp] theorem Phase.isConnected_shift (d : Nat) (phase : Phase) :
    (phase.shift d).isConnected = phase.isConnected := by
  cases phase <;> rfl

@[simp] theorem Phase.shift_eq_dialing {d : Nat} {phase : Phase} :
    phase.shift d = .dialing ↔ phase = .dialing := by
  cases phase <;> simp [Phase.shift]

@[simp] theorem Phase.shift_eq_over {d : Nat} {phase : Phase} :
    phase.shift d = .over ↔ phase = .over := by
  cases phase <;> simp [Phase.shift]

section Step

variable (d : Nat) (moment : Moment) (backoff : Nat)

theorem Moment.rest_shift (seconds : Nat) :
    (moment.shift d).rest seconds = (moment.rest seconds).shift d := by
  rw [rest, rest, Phase.shift, shift, Nat.add_right_comm]

theorem Moment.conclude_shift (sent : List Outgoing) (ending : Ending) :
    (moment.shift d).conclude backoff sent ending =
      (moment.conclude backoff sent ending).shift d := by
  cases ending with
  | reconnect =>
    rw [conclude, conclude, rest_shift]
    rfl
  | failed fault =>
    have htaken : (moment.shift d).taken = moment.taken := rfl
    rw [conclude, conclude, htaken, rest_shift]
    split <;> rfl
  | _ => rfl

theorem Moment.greet_shift (text : String) :
    (moment.shift d).greet backoff text = (moment.greet backoff text).shift d := by
  rw [greet, greet]
  split
  · exact moment.conclude_shift d backoff _ _
  · split
    · split
      · rename_i interval _
        rw [show (moment.shift d).now + interval = moment.now + interval + d from
          Nat.add_right_comm _ _ _]
        rfl
      · exact moment.conclude_shift d backoff _ _
    · rfl

theorem Moment.dispatch_shift (session : Session) (frame : Frame) :
    (moment.shift d).dispatch backoff (session.shift d) frame =
      (moment.dispatch backoff session frame).shift d := by
  have haccount : (moment.shift d).account = moment.account := rfl
  have htaken : (moment.shift d).taken = moment.taken := rfl
  rw [dispatch, dispatch, haccount, htaken]
  split
  · rfl
  · split
    · rfl
    · split
      · rfl
      · exact moment.conclude_shift d backoff _ _

theorem Moment.hear_shift (session : Session) (text : String) :
    (moment.shift d).hear backoff (session.shift d) text =
      (moment.hear backoff session text).shift d := by
  rw [hear, hear]
  split
  · rfl
  · rename_i frame _
    rw [show (session.shift d).note frame = (session.note frame).shift d from rfl]
    simp only [dispatch_shift, conclude_shift]
    split_ifs <;> rfl

theorem Moment.beat_shift (session : Session) :
    (moment.shift d).beat backoff (session.shift d) = (moment.beat backoff session).shift d := by
  have hdue : (moment.shift d).now < (session.shift d).nextBeat ↔ moment.now < session.nextBeat :=
    Nat.add_lt_add_iff_right
  have hawaiting : (session.shift d).awaiting = session.awaiting := rfl
  have hnext : (session.shift d).nextBeat + session.interval =
    session.nextBeat + session.interval + d := Nat.add_right_comm _ _ _
  rw [beat, beat, conclude_shift, hawaiting]
  simp only [hdue]
  split_ifs
  · rfl
  · rfl
  · exact congrArg (fun nextBeat => goOn backoff
      { session with awaiting := true, nextBeat } [.heartbeat session.sequence] []) hnext

/-- A step of a listener that is later, is the same step, later. -/
theorem Listener.step_shift (listener : Listener) (signal : Signal) :
    (listener.shift d).step (moment.shift d) signal = (listener.step moment signal).shift d := by
  obtain ⟨phase, backoff⟩ := listener
  -- Times are compared with times only: the next heartbeat and the end of a wait move along.
  cases phase with
  | dialing =>
    cases signal with
    | rejected status => exact moment.conclude_shift d backoff [] (Moment.refused status)
    | _ => rfl
  | greeting =>
    cases signal with
    | text content => exact moment.greet_shift d backoff content
    | closed code => exact moment.conclude_shift d backoff [] .reconnect
    | dropped => exact moment.conclude_shift d backoff [] Moment.broken
    | unwritten reason => exact moment.conclude_shift d backoff [] (Moment.unwritten reason)
    | _ => rfl
  | listening session =>
    cases signal with
    | text content => exact moment.hear_shift d backoff session content
    | closed code => exact moment.conclude_shift d backoff [] (Moment.closing code)
    | dropped => exact moment.conclude_shift d backoff [] Moment.broken
    | unwritten reason => exact moment.conclude_shift d backoff [] (Moment.unwritten reason)
    | clock => exact moment.beat_shift d backoff session
    | _ => rfl
  | resting wakeAt =>
    cases signal with
    | clock =>
      have hwake : wakeAt + d ≤ (moment.shift d).now ↔ wakeAt ≤ moment.now :=
        Nat.add_le_add_iff_right
      simp only [step, shift, Phase.shift, hwake]
      split_ifs <;> rfl
    | _ => rfl
  | «over» => cases signal <;> rfl

end Step

namespace Encounter

variable (d : Nat) (e : Encounter)

theorem happen_shift (happening : Happening) :
    (e.shift d).happen happening = ((e.happen happening).1.shift d, (e.happen happening).2) := by
  cases happening with
  | signal signal =>
    have hstep := e.listener.step_shift d e.moment signal
    rw [happen, happen, show (e.shift d).moment = e.moment.shift d from rfl,
      show (e.shift d).listener = e.listener.shift d from rfl, hstep]
    rfl
  | elapse ms =>
    rw [happen, happen, shift, Nat.add_right_comm]
    rfl
  | _ => rfl

/-- An encounter that is later goes the same way. -/
theorem image_shift : Image (shift d) id where
  happen_eq e happening := by rw [happen_shift, List.map_id]
  dialing_iff _ := Phase.shift_eq_dialing
  isConnected_eq _ := Phase.isConnected_shift d _
  ended_eq e := by
    rw [ended, ended]
    exact congrArg (e.taken && ·) (decide_eq_decide.2 Phase.shift_eq_over)
  unseen_eq e unseen := by
    rw [List.map_id]
    rfl
  restart_eq _ := rfl

/-- Whatever happens, a later encounter (`shift`) goes the same way, later. -/
theorem go_shift (happenings : List Happening) :
    (e.shift d).go happenings = ((e.go happenings).1.shift d, (e.go happenings).2) := by
  rw [(image_shift d).go, List.map_id]

/-- Whatever the moves, the same is seen of a later encounter (`shift`). -/
theorem playAll_shift (moves : List Move) : (e.shift d).playAll moves = e.playAll moves := by
  rw [(image_shift d).playAll]
  exact List.map_id'' Sighting.mapSent_id _

/-! ## Moves -/

/-- The encounter after some moves. -/
def playedAll (e : Encounter) (moves : List Move) : Encounter :=
  moves.foldl (fun e move => (e.play move).2) e

variable {e}

theorem playAll_append (e : Encounter) (first second : List Move) :
    e.playAll (first ++ second) = e.playAll first ++ (e.playedAll first).playAll second := by
  induction first generalizing e with
  | nil => rfl
  | cons move rest ih =>
    simp only [List.cons_append, playAll, ih]
    rfl

theorem go_singleton (e : Encounter) (happening : Happening) :
    e.go [happening] = e.happen happening := by
  simp only [go, List.append_nil]

/-- What happens changes neither whose listener it is nor what nobody has seen. -/
theorem go_keeps (e : Encounter) (happenings : List Happening) :
    (e.go happenings).1.account = e.account ∧ (e.go happenings).1.unseen = e.unseen := by
  induction happenings generalizing e with
  | nil => exact ⟨rfl, rfl⟩
  | cons happening rest ih =>
    have hfirst : (e.happen happening).1.account = e.account ∧
        (e.happen happening).1.unseen = e.unseen := by
      cases happening <;> exact ⟨rfl, rfl⟩
    obtain ⟨haccount, hunseen⟩ := ih (e.happen happening).1
    exact ⟨haccount.trans hfirst.1, hunseen.trans hfirst.2⟩

theorem account_await (left waited : Nat) (e : Encounter) :
    (await left waited e).2.account = e.account := by
  induction left generalizing waited e with
  | zero =>
    rw [await]
    split_ifs <;> rfl
  | succ left ih =>
    rw [await]
    split_ifs
    · rfl
    · exact (ih (waited + 1) e.tick).trans (e.go_keeps (jump 1000)).1

theorem account_receive (e : Encounter) (signal : Signal) :
    (e.receive signal).2.account = e.account := by
  have hawait := account_await patience 0 e
  rw [receive]
  generalize await patience 0 e = answer at hawait
  obtain ⟨_ | waited, e'⟩ := answer <;> exact hawait

theorem account_play (e : Encounter) (move : Move) : (e.play move).2.account = e.account := by
  cases move with
  | accept => exact e.account_receive _
  | reject status => exact e.account_receive _
  | send texts => exact (e.go_keeps _).1
  | advance ms => exact (e.go_keeps (jump ms)).1
  | _ => rfl

theorem account_playedAll (e : Encounter) (moves : List Move) :
    (e.playedAll moves).account = e.account := by
  induction moves generalizing e with
  | nil => rfl
  | cons move rest ih => exact (ih (e.play move).2).trans (e.account_play move)

/-- An encounter whose listener is started anew has just begun, only later. -/
theorem play_restart (e : Encounter) :
    e.play .restart = (.seen e.unseen [] none false false, (start e.account).shift e.now) := by
  have hlater : (start e.account).shift e.now = ⟨e.account, .fresh, true, e.now, []⟩ := by
    rw [shift, start, Nat.zero_add]
    rfl
  rw [hlater, play, observe, List.append_nil]
  rfl

/-- When the listener is started anew (`Move.restart`), the same is seen as if nothing had been
before. -/
theorem playAll_restart (account : Account) (moves more : List Move) :
    (start account).playAll (moves ++ .restart :: more) =
      (start account).playAll moves ++
        .seen ((start account).playedAll moves).unseen [] none false false ::
          (start account).playAll more := by
  rw [playAll_append, playAll, play_restart, account_playedAll]
  exact congrArg (_ ++ _ :: ·) (playAll_shift _ (start account) more)

end Encounter

/-- Nothing is sent, nothing is delivered, and nobody comes. -/
def Sighting.IsQuiet : Sighting → Prop
  | .seen sent delivered waited connected _ =>
    sent = [] ∧ delivered = [] ∧ waited = none ∧ connected = false
  | .noShow _ => True

/-- The listener has stopped, and all that it sent has been seen. -/
structure Encounter.IsQuiet (e : Encounter) : Prop where
  phase_eq : e.listener.phase = .over
  unseen : e.unseen = []

namespace Encounter

variable {e : Encounter}

theorem IsQuiet.go (h : e.IsQuiet) (happenings : List Happening) :
    (e.go happenings).1.IsQuiet ∧ e.go happenings = ((e.go happenings).1, [], []) := by
  obtain ⟨hover, hsilent⟩ := go_of_over h.phase_eq happenings
  exact ⟨⟨hover, (e.go_keeps happenings).2.trans h.unseen⟩, Prod.ext rfl hsilent⟩

theorem IsQuiet.observe (h : e.IsQuiet) :
    (observe none (e, [], [])).1.IsQuiet ∧ (Encounter.observe none (e, [], [])).2.IsQuiet := by
  have hconnected : e.listener.isConnected = false := by rw [Listener.isConnected, h.phase_eq]; rfl
  exact ⟨⟨List.append_eq_nil_iff.2 ⟨h.unseen, rfl⟩, rfl, rfl, hconnected⟩, h.phase_eq, rfl⟩

/-- Whoever waits for a listener that has stopped, waits in vain. -/
theorem IsQuiet.await (h : e.IsQuiet) (left waited : Nat) :
    (await left waited e).1 = none ∧ (Encounter.await left waited e).2.IsQuiet := by
  have hdialing : e.listener.phase ≠ .dialing := by rw [h.phase_eq]; nofun
  induction left generalizing waited e with
  | zero =>
    rw [Encounter.await, if_neg hdialing]
    exact ⟨rfl, h⟩
  | succ left ih =>
    rw [Encounter.await, if_neg hdialing]
    obtain ⟨hquiet, hsilent⟩ := h.go (jump 1000)
    have htick : e.tick.IsQuiet := by
      refine ⟨hquiet.phase_eq, ?_⟩
      rw [tick, hsilent]
      exact List.append_eq_nil_iff.2 ⟨hquiet.unseen, rfl⟩
    exact ih htick (waited + 1) (by rw [htick.phase_eq]; nofun)

theorem IsQuiet.receive (h : e.IsQuiet) (signal : Signal) :
    (e.receive signal).1.IsQuiet ∧ (e.receive signal).2.IsQuiet := by
  obtain ⟨hnone, hquiet⟩ := h.await patience 0
  rw [Encounter.receive]
  generalize Encounter.await patience 0 e = answer at hnone hquiet
  obtain ⟨_ | waited, e'⟩ := answer
  · exact ⟨trivial, hquiet⟩
  · cases hnone

theorem IsQuiet.play (h : e.IsQuiet) {move : Move} (hmove : move ≠ .restart) :
    (e.play move).1.IsQuiet ∧ (e.play move).2.IsQuiet := by
  have hgo (happenings : List Happening) :
      (Encounter.observe none (e.go happenings)).1.IsQuiet ∧
        (Encounter.observe none (e.go happenings)).2.IsQuiet := by
    obtain ⟨hquiet, hsilent⟩ := h.go happenings
    rw [hsilent]
    exact hquiet.observe
  have hhappen (happening : Happening) :
      (Encounter.observe none (e.happen happening)).1.IsQuiet ∧
        (Encounter.observe none (e.happen happening)).2.IsQuiet := by
    rw [← e.go_singleton happening]
    exact hgo [happening]
  cases move with
  | accept => exact h.receive _
  | reject status => exact h.receive _
  | send texts => exact hgo _
  | advance ms => exact hgo _
  | restart => exact absurd rfl hmove
  | _ => exact hhappen _

/-- When the listener has stopped, all is quiet (`Sighting.IsQuiet`) until it is started anew. -/
theorem IsQuiet.playAll (h : e.IsQuiet) {moves : List Move} (hmoves : .restart ∉ moves) :
    ∀ sighting ∈ e.playAll moves, sighting.IsQuiet := by
  induction moves generalizing e with
  | nil => nofun
  | cons move rest ih =>
    rw [List.mem_cons, not_or] at hmoves
    obtain ⟨hsighting, hquiet⟩ := h.play fun hrestart => hmoves.1 hrestart.symm
    intro sighting hmem
    obtain rfl | hrest := List.mem_cons.1 hmem
    · exact hsighting
    · exact ih hquiet hmoves.2 sighting hrest

theorem play_stop (e : Encounter) :
    e.play .stop = (.seen e.unseen [] none false e.taken,
      { e with listener := .stopped, unseen := [] }) := by
  have hended : ({ e with listener := .stopped } : Encounter).ended = e.taken := Bool.and_true _
  rw [play, happen, observe, hended, List.append_nil]
  rfl

/-- From when the listener is stopped (`Move.stop`) until it is started anew, all is quiet. -/
theorem playAll_stop (e : Encounter) (moves : List Move) {more : List Move}
    (hmore : .restart ∉ more) :
    ∃ later, e.playAll (moves ++ .stop :: more) =
        e.playAll moves ++
          .seen (e.playedAll moves).unseen [] none false (e.playedAll moves).taken :: later ∧
      ∀ sighting ∈ later, sighting.IsQuiet := by
  refine ⟨((e.playedAll moves).play .stop).2.playAll more, ?_, ?_⟩
  · rw [playAll_append, Encounter.playAll, play_stop]
  · have hquiet : ((e.playedAll moves).play .stop).2.IsQuiet := by
      rw [play_stop]
      exact ⟨rfl, rfl⟩
    exact hquiet.playAll hmore

end Encounter

end Gadfly.Discord
