/-
  Gadfly.Proofs.Gateway.Retry

  How a listener tries again.

  After every session that does not stop it, a listener waits and then connects again
  (`Encounter.ConnectsAt`): for a second if the session ended in good order, and after a failure
  for a time that doubles with every failure in a row, up to a minute. How long (`wait`) can be
  told from how the sessions have ended (`failures`).

  Main definitions: `failures`, `wait`, `Encounter.ConnectsAt`, `Perseveres`.
  Main statements: `Chronicle.patient_of`, `Encounter.connectsAt_of_resting`, `perseveres_of_run`.
-/

import Mathlib.Algebra.Ring.Nat
import Gadfly.Proofs.Gateway.Stop

namespace Gadfly.Discord

variable {account : Account} {log : Log} {entry : Entry}

/-! ## How long a wait takes -/

/-- Whether a session ended by a failure after which it makes sense to try again. -/
def Ending.isFailure : Ending → Bool
  | .failed _ => true
  | .reconnect | .fatal _ | .deserted => false

/-- How many sessions have failed in a row. -/
def failures (endings : List Ending) : Nat := (endings.rtakeWhile Ending.isFailure).length

/-- How many seconds a listener waits when sessions have ended in some ways: one after an end in
good order, and otherwise a time that doubles with every failure in a row. It starts at one if
there has been no end in good order yet, and at two otherwise. -/
def wait (endings : List Ending) : Nat :=
  if endings.getLast? = some .reconnect then 1
  else if .reconnect ∈ endings then min (2 ^ failures endings) 60
  else min (2 ^ (failures endings - 1)) 60

/-- How many seconds a listener waits after one more failure. -/
def nextWait (endings : List Ending) : Nat :=
  min (2 ^ (failures endings + if .reconnect ∈ endings then 1 else 0)) 60

variable {endings : List Ending} {fault : TransportFault}

theorem failures_append_failed : failures (endings ++ [.failed fault]) = failures endings + 1 := by
  simp [failures, List.rtakeWhile_concat, Ending.isFailure]

theorem failures_append_reconnect : failures (endings ++ [.reconnect]) = 0 := by
  simp [failures, Ending.isFailure]

theorem reconnect_mem_append_failed :
    .reconnect ∈ endings ++ [.failed fault] ↔ .reconnect ∈ endings := by
  simp

theorem wait_append_reconnect : wait (endings ++ [.reconnect]) = 1 := by
  simp [wait]

theorem wait_append_failed : wait (endings ++ [.failed fault]) = nextWait endings := by
  rw [wait, nextWait, failures_append_failed, List.getLast?_concat, if_neg nofun]
  simp only [reconnect_mem_append_failed]
  by_cases hreconnect : .reconnect ∈ endings
  · rw [if_pos hreconnect, if_pos hreconnect]
  · rw [if_neg hreconnect, if_neg hreconnect, Nat.add_sub_cancel, Nat.add_zero]

/-- Doubling a wait that has reached its bound, or not. -/
theorem min_two_mul_min (n : Nat) : min (2 * min (2 ^ n) 60) 60 = min (2 ^ (n + 1)) 60 := by
  rw [Nat.pow_succ]
  omega

theorem nextWait_append_failed :
    nextWait (endings ++ [.failed fault]) = min (2 * nextWait endings) 60 := by
  rw [nextWait, nextWait, min_two_mul_min, failures_append_failed]
  simp only [reconnect_mem_append_failed]
  rw [Nat.add_right_comm]

theorem nextWait_append_reconnect : nextWait (endings ++ [.reconnect]) = 2 := by
  simp [nextWait, failures_append_reconnect]

/-- A wait takes a second at least and a minute at most. -/
theorem wait_bounds (endings : List Ending) : 1 ≤ wait endings ∧ wait endings ≤ 60 := by
  have hpow (n : Nat) : 1 ≤ min (2 ^ n) 60 ∧ min (2 ^ n) 60 ≤ 60 :=
    ⟨Nat.le_min.2 ⟨Nat.one_le_two_pow, by decide⟩, Nat.min_le_right _ _⟩
  rw [wait]
  split
  · decide
  · split
    · exact hpow _
    · exact hpow _

/-! ## What a listener has learned of the sessions -/

/-- How the sessions have ended. -/
def results (logs : List Log) : List Ending := logs.filterMap Log.result?

theorem results_append {ending : Ending} (logs : List Log) (h : log.ending? entry = some ending) :
    results (logs ++ [log ++ [entry]]) = results logs ++ [ending] := by
  rw [results, List.filterMap_append, List.filterMap_cons, Log.result?_append, h]
  rfl

/-- The listener waits as long as it should: the wait that comes next is the one after a failure,
and after each session there has been a wait, unless the listener has stopped. -/
structure Chronicle.Patient (c : Chronicle) : Prop where
  backoff : c.encounter.listener.phase ≠ .over →
    c.encounter.listener.backoff = nextWait (results c.earlier)
  rests : ∀ logs past last, logs ++ [past ++ [last]] <+: c.earlier →
    last.after.listener.phase ≠ .over →
    last.after.listener.phase =
      .resting (last.now + 1000 * wait (results (logs ++ [past ++ [last]])))

/-- As long as a session goes on, the next wait stays the same. -/
theorem Entry.backoff_of_goes_on (hends : entry.endsSession = false)
    (hover : entry.after.listener.phase ≠ .over) :
    entry.after.listener.backoff = entry.before.listener.backoff := by
  obtain ⟨signal, hwhat⟩ | ⟨-, -, hsame, -⟩ | ⟨-, hstopped, -⟩ := entry.signal_or_idle_or_stop
  · obtain ⟨reaction, hturn, hafter, -, -⟩ := entry.exists_turn hwhat
    generalize hphase : entry.phase = phase at hturn
    rw [hafter]
    cases hturn with
    | ended hend =>
      exact absurd (hphase ▸ hend) (entry.not_ends hends (congrArg Encounter.listener hafter))
    | _ => rfl
  · rw [hsame]
  · rw [hstopped] at hover
    exact absurd rfl hover

/-- A session that ends without stopping the listener makes it wait, for as long as it should if it
knew how long. -/
theorem Tracks.rests_of_endsSession {logs : List Log} (h : Tracks log entry.phase)
    (hends : entry.endsSession = true) (hover : entry.after.listener.phase ≠ .over)
    (hbackoff : entry.before.listener.backoff = nextWait (results logs)) :
    entry.after.listener =
      ⟨.resting (entry.now + 1000 * wait (results (logs ++ [log ++ [entry]]))),
        nextWait (results (logs ++ [log ++ [entry]]))⟩ := by
  obtain ⟨ending, hending, hended⟩ | ⟨-, hgoesOn | hstop⟩ := h.ends_or_goes_on
  · rw [results_append logs hending, hended.after_eq]
    -- The two endings that do not stop the listener are those that `wait` tells apart.
    cases ending with
    | reconnect =>
      rw [wait_append_reconnect, nextWait_append_reconnect]
      rfl
    | failed fault =>
      have htaken : entry.before.moment.taken = true := by
        by_contra hdeserted
        exact hover (hended.over_iff.2 ⟨by rintro ⟨⟩, fun htaken => absurd htaken hdeserted⟩)
      rw [wait_append_failed, nextWait_append_failed, ← hbackoff, Moment.conclude, if_pos htaken]
      rfl
    | fatal fault =>
      exact absurd (hended.over_iff.2 ⟨by rintro ⟨⟩, by rintro _ _ ⟨⟩⟩) hover
    | deserted =>
      exact absurd (hended.over_iff.2 ⟨by rintro ⟨⟩, by rintro _ _ ⟨⟩⟩) hover
  · rw [hends] at hgoesOn
    cases hgoesOn
  · refine absurd ?_ hover
    rw [Entry.after, hstop]
    rfl

theorem Chronicle.Patient.record {c : Chronicle} (h : c.Patient) (hsound : c.Sound account)
    (happening : Happening) : (c.record happening).Patient := by
  have htracks : Tracks c.current (c.next happening).phase := hsound.tracks
  -- A listener that goes on now had not stopped before.
  have hbackoff (hover : (c.next happening).after.listener.phase ≠ .over) :
      (c.next happening).before.listener.backoff = nextWait (results c.earlier) :=
    h.backoff fun hbefore =>
      hover (Entry.idle_of_over (show (c.next happening).phase = .over from hbefore)).1
  rcases hends : (c.next happening).endsSession with _ | _
  · rw [Chronicle.record_of_not_endsSession hends]
    refine ⟨fun hover => ?_, h.rests⟩
    exact (Entry.backoff_of_goes_on hends hover).trans (hbackoff hover)
  · rw [Chronicle.record_of_endsSession hends]
    have hrests (hover : (c.next happening).after.listener.phase ≠ .over) :=
      htracks.rests_of_endsSession hends hover (hbackoff hover)
    refine ⟨fun hover => congrArg Listener.backoff (hrests hover), ?_⟩
    intro logs past last hstart hover
    obtain hlast | hearlier := List.prefix_concat_iff.1 hstart
    · obtain ⟨rfl, hlog⟩ := List.append_inj' hlast rfl
      obtain ⟨rfl, hentry⟩ := List.append_inj' (List.cons.inj hlog).1 rfl
      obtain rfl := (List.cons.inj hentry).1
      exact congrArg Listener.phase (hrests hover)
    · exact h.rests logs past last hearlier hover

theorem Chronicle.patient_of (account : Account) (happenings : List Happening) :
    (Chronicle.of account happenings).Patient := by
  induction happenings using List.reverseRecOn with
  | nil =>
    refine ⟨fun _ => rfl, fun logs past last hstart => ?_⟩
    exact absurd (List.prefix_nil.1 hstart)
      (List.append_ne_nil_of_right_ne_nil _ (List.cons_ne_nil _ _))
  | append_singleton happenings happening ih =>
    rw [Chronicle.of_append]
    exact ih.record (Chronicle.sound_of account happenings) happening

/-! ## Connecting again -/

/-- Things that happen, from some time on, to a listener that waits for another time: nobody stops
it, and nobody looks at the clock when the other time has come. -/
def Idle (time : Nat) : (now : Nat) → List Happening → Prop
  | _, [] => True
  | now, .elapse ms :: rest => Idle time (now + ms) rest
  | now, .signal .clock :: rest => now < time ∧ Idle time now rest
  | now, .signal _ :: rest => Idle time now rest
  | now, .leave :: rest => Idle time now rest
  | _, .stop :: _ => False

/-- Unless it is stopped, the listener does nothing until a time has come, whatever happens, and
wants to connect as soon as the clock is looked at then. -/
structure Encounter.ConnectsAt (e : Encounter) (time : Nat) : Prop where
  idle : ∀ happenings, Idle time e.now happenings →
    (e.go happenings).1.listener.phase ≠ .dialing ∧ (e.go happenings).2 = ([], [])
  connects : ∀ happenings, Idle time e.now happenings → time ≤ (e.go happenings).1.now →
    (e.go (happenings ++ [.signal .clock])).1.listener.phase = .dialing

variable {e : Encounter} {time : Nat}

/-- A listener that waits takes no notice of anything but the right time. -/
theorem Entry.resting_after {rest : List Happening} (h : entry.phase = .resting time)
    (hidle : Idle time entry.now (entry.what :: rest)) :
    entry.after.listener.phase = .resting time ∧ entry.sent = [] ∧ entry.delivered = [] ∧
      Idle time entry.after.now rest := by
  rcases hwhat : entry.what with signal | ms | _ | _
  · obtain ⟨reaction, hturn, hafter, hsent, hdelivered⟩ := entry.exists_turn hwhat
    rw [hafter, hsent, hdelivered]
    rw [h] at hturn
    rw [hwhat] at hidle
    cases hturn with
    | ended hends => cases hends
    | woken hwake => exact absurd hidle.1 (Nat.not_lt_of_le hwake)
    | unmoved _ =>
      refine ⟨rfl, rfl, rfl, ?_⟩
      cases signal with
      | clock => exact hidle.2
      | _ => exact hidle
  · rw [hwhat] at hidle
    rw [Entry.after, Entry.sent, Entry.delivered, hwhat]
    exact ⟨h, rfl, rfl, hidle⟩
  · rw [hwhat] at hidle
    rw [Entry.after, Entry.sent, Entry.delivered, hwhat]
    exact ⟨h, rfl, rfl, hidle⟩
  · rw [hwhat] at hidle
    cases hidle

/-- When the right time has come, it wants to connect. -/
theorem Entry.dialing_after (h : entry.phase = .resting time)
    (hwhat : entry.what = .signal .clock) (htime : time ≤ entry.now) :
    entry.after.listener.phase = .dialing := by
  obtain ⟨reaction, hturn, hafter, -, -⟩ := entry.exists_turn hwhat
  rw [hafter]
  rw [h] at hturn
  cases hturn with
  | ended hends => cases hends
  | woken _ => rfl
  | unmoved hunmoved =>
    cases hunmoved with
    | unconnected _ hincoming => cases hincoming
    | asleep hasleep => exact absurd htime (Nat.not_le_of_lt hasleep)
    | timeless hphase => rcases hphase with hphase | hphase | hphase <;> cases hphase

/-- A listener that waits goes on waiting until the right time. -/
theorem Encounter.go_of_resting {happenings : List Happening}
    (h : e.listener.phase = .resting time) (hidle : Idle time e.now happenings) :
    (e.go happenings).1.listener.phase = .resting time ∧ (e.go happenings).2 = ([], []) := by
  induction happenings generalizing e with
  | nil => exact ⟨h, rfl⟩
  | cons happening rest ih =>
    obtain ⟨hafter, hsent, hdelivered, hidle⟩ :=
      Entry.resting_after (show (Entry.mk e happening).phase = .resting time from h) hidle
    obtain ⟨hrest, hsilent⟩ := ih hafter hidle
    refine ⟨hrest, ?_⟩
    simp only [Encounter.go_cons, hsent, hdelivered, hsilent, List.append_nil]

theorem Encounter.connectsAt_of_resting (h : e.listener.phase = .resting time) :
    e.ConnectsAt time := by
  refine ⟨fun happenings hidle => ?_, fun happenings hidle htime => ?_⟩
  · obtain ⟨hresting, hsilent⟩ := e.go_of_resting h hidle
    rw [hresting]
    exact ⟨nofun, hsilent⟩
  · obtain ⟨hresting, -⟩ := e.go_of_resting h hidle
    let last : Entry := ⟨(e.go happenings).1, .signal .clock⟩
    have hdialing : last.after.listener.phase = .dialing := last.dialing_after hresting rfl htime
    rw [Encounter.go_append]
    exact hdialing

/-! ## Runs -/

/-- What there is to say of how a listener goes on and stops. -/
structure Perseveres (account : Account) (happenings : List Happening) : Prop where
  /-- It has stopped just if it was told to, if nobody took what it had to deliver, or if a
  connection was closed after the greeting in a way that makes trying again pointless. -/
  stops : ((Encounter.start account).go happenings).1.listener.phase = .over ↔
    ∃ past entry, (Chronicle.of account happenings).At past entry ∧ Stops account past entry
  /-- Those who still take what is delivered then know that nothing more will come. -/
  ended : ((Encounter.start account).go happenings).1.taken = true →
    (((Encounter.start account).go happenings).1.ended = true ↔
      ((Encounter.start account).go happenings).1.listener.phase = .over)
  /-- Nothing is sent or delivered any more, whatever happens. -/
  closed : ((Encounter.start account).go happenings).1.listener.phase = .over → ∀ more,
    ((Encounter.start account).go (happenings ++ more)).1.listener.phase = .over ∧
      ((Encounter.start account).go (happenings ++ more)).2 =
        ((Encounter.start account).go happenings).2
  /-- When a connection was closed for good, that is delivered last, and nothing like it before. -/
  dismissed : ∀ past entry code, (Chronicle.of account happenings).At past entry →
    past.ClosedFor entry code → entry.before.taken = true →
    ∃ items, ((Encounter.start account).go happenings).2.2 =
        items ++ [.error (.unauthorized ("gateway closed with code " ++ toString code))] ∧
      ∀ text, .error (.unauthorized text) ∉ items
  /-- After every other end of a session it connects again when it has waited. -/
  retries : ∀ logs log, logs ++ [log] <+: (Chronicle.of account happenings).earlier →
    ∃ past last, log = past ++ [last] ∧
      (Stops account past last ∨
        last.after.ConnectsAt (last.now + 1000 * wait (results (logs ++ [log]))))
  /-- It waits for a second at least and for a minute at most. -/
  bounded : ∀ logs, logs <+: (Chronicle.of account happenings).earlier →
    1 ≤ wait (results logs) ∧ wait (results logs) ≤ 60

/-- A session that has ended has a last entry. If the listener was not told to stop by it, it ended
the session. -/
theorem Chronicle.exists_last {happenings : List Happening} {logs : List Log}
    (hstart : logs ++ [log] <+: (of account happenings).earlier) :
    ∃ past last, log = past ++ [last] ∧ (of account happenings).At past last ∧
      (last.what ≠ .stop → last.endsSession = true) := by
  have hmem : log ∈ (of account happenings).earlier :=
    hstart.subset (List.mem_append_right _ (List.mem_singleton_self _))
  have hfinished := (divided_of account happenings).finished log hmem
  obtain rfl | ⟨past, last, rfl⟩ := List.eq_nil_or_concat' log
  · obtain hsome | hsome := hfinished <;> cases hsome
  · have hat : (of account happenings).At past last :=
      ⟨_, List.mem_append_left _ hmem, List.prefix_refl _⟩
    refine ⟨past, last, rfl, hat, fun hwhat => ?_⟩
    rw [Log.result?_append, List.getLast?_concat, Option.map_some, Option.some.injEq] at hfinished
    obtain hsome | hstop := hfinished
    · obtain ⟨ending, hending⟩ := Option.isSome_iff_exists.1 hsome
      exact ((tracks_of_at hat).2.endsBy_of_ending? hending).endsSession
    · exact absurd hstop hwhat

theorem Entry.phase_ne_over (h : entry.endsSession = true) : entry.phase ≠ .over := by
  intro hover
  rw [endsSession, hover] at h
  cases h

/-- In every run a listener goes on and stops as it should (`Perseveres`). -/
theorem perseveres_of_run (account : Account) (happenings : List Happening) :
    Perseveres account happenings := by
  have hover := Chronicle.over_iff account happenings
  have hgo := Chronicle.go_eq account happenings
  refine ⟨?_, ?_, ?_, ?_, ?_, fun logs _ => wait_bounds (results logs)⟩
  · rw [hgo]
    exact hover
  · intro htaken
    rw [Encounter.ended, htaken, Bool.true_and, decide_eq_true_iff]
  · intro hstopped more
    obtain ⟨hstays, hsilent⟩ := Encounter.go_of_over hstopped more
    rw [Encounter.go_append]
    refine ⟨hstays, ?_⟩
    simp only [hsilent, List.append_nil]
  · rw [hgo]
    exact (Chronicle.dismissed_of account happenings).said
  · intro logs log hstart
    obtain ⟨past, last, rfl, hat, hends⟩ := Chronicle.exists_last hstart
    obtain ⟨rfl, htracks⟩ := Chronicle.tracks_of_at hat
    refine ⟨past, last, rfl, ?_⟩
    -- A session that ends without a reason to stop is followed by a wait.
    by_cases hstops : Stops last.before.account past last
    · exact .inl hstops
    · refine .inr (Encounter.connectsAt_of_resting ?_)
      refine (Chronicle.patient_of _ happenings).rests logs past last hstart fun hlast => hstops ?_
      exact (htracks.over_iff (Entry.phase_ne_over (hends (hstops ∘ .told)))).1 hlast

end Gadfly.Discord
