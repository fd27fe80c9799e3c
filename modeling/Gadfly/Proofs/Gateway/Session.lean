/-
  Gadfly.Proofs.Gateway.Session

  What a listener knows of its session.

  The log of a session tells whether the greeting has come, which running number was the last one
  after it, whether a heartbeat is unanswered and when the next one is due (`Log.Tells`). The
  invariant `Tracks` says that the listener knows just that, and nothing from before the greeting
  or from an earlier session. With it the ways in which a session ends (`Ends`) can be told from
  its log: `Log.ending?`.

  Main definitions: `Log.Tells`, `Tracks`, `Log.ending?`, `Entry.EndsBy`.
  Main statements: `Tracks.append`, `Chronicle.sound_of`, `Tracks.ends_or_goes_on`.
-/

import Gadfly.Proofs.Gateway.Chronicle

namespace Gadfly.Discord

/-- What the log of a session tells is what the listener knows of it. -/
structure Log.Tells (log : Log) (session : Session) : Prop where
  interval : log.greeting?.bind Entry.interval? = some session.interval
  nextBeat : log.nextBeat? = some session.nextBeat
  sequence : log.afterGreeting.sequence? = session.sequence
  awaiting : log.afterGreeting.isPending = session.awaiting

/-- The listener has been greeted just if the log says so, and then knows what it tells. -/
def Tracks (log : Log) : Phase → Prop
  | .listening session => log.Tells session
  | _ => log.greeting? = none

variable {log : Log} {entry : Entry} {session : Session}

/-! ## One more entry -/

theorem Log.Tells.exists_greeting (h : log.Tells session) :
    ∃ hello, log.greeting? = some hello ∧ hello.interval? = some session.interval :=
  Option.bind_eq_some_iff.1 h.interval

/-- An entry changes what the log tells by its running number, by being an acknowledgement and by
being a heartbeat of the clock. -/
theorem Log.Tells.append {session' : Session} (h : log.Tells session)
    (hinterval : session'.interval = session.interval)
    (hnextBeat : session'.nextBeat =
      session.nextBeat + if entry.isBeat then session.interval else 0)
    (hsequence : session'.sequence = (entry.frame?.bind Frame.sequence).or session.sequence)
    (hawaiting : session'.awaiting =
      if entry.isAcknowledgement then false else session.awaiting || entry.isBeat) :
    Log.Tells (log ++ [entry]) session' := by
  obtain ⟨hello, hhello, hello_interval⟩ := h.exists_greeting
  have hafter := Log.afterGreeting_append_of_some hhello entry
  have hdue := h.nextBeat
  rw [Log.nextBeat?, hhello, Option.bind_some, hello_interval, Option.map_some,
    Option.some.injEq] at hdue
  constructor
  · rw [Log.greeting?_append_of_some hhello entry, Option.bind_some, hello_interval, hinterval]
  · rw [Log.nextBeat?, Log.greeting?_append_of_some hhello entry, Option.bind_some, hello_interval,
      Option.map_some, hafter, Log.beats_append, hnextBeat, ← hdue]
    -- A heartbeat of the clock moves the next one by an interval.
    cases entry.isBeat with
    | false => simp
    | true =>
      rw [if_pos rfl, if_pos rfl, Nat.mul_succ, Nat.add_assoc]
  · rw [hafter, Log.sequence?_append, h.sequence, hsequence]
  · rw [hafter, Log.isPending_append, h.awaiting, hawaiting]

/-- An entry without a frame and without a heartbeat changes nothing. -/
theorem Log.Tells.append_of_quiet (h : log.Tells session) (hframe : entry.frame? = none)
    (hbeat : entry.isBeat = false) : Log.Tells (log ++ [entry]) session := by
  refine h.append rfl ?_ ?_ ?_
  · rw [hbeat]
    rfl
  · rw [hframe]
    rfl
  · rw [Entry.isAcknowledgement_of_frame? hframe, hbeat, Bool.or_false]
    rfl

/-- The greeting itself tells the interval and nothing else. -/
theorem Log.tells_of_greeting {interval : Nat} (h : log.greeting? = none)
    (hinterval : entry.interval? = some interval) :
    Log.Tells (log ++ [entry]) ⟨interval, entry.now + interval, none, false⟩ := by
  have hgreeting : Log.greeting? (log ++ [entry]) = some entry := by
    rw [Log.greeting?_append_of_none h, hinterval]
    rfl
  have hafter := Log.afterGreeting_append_of_none h entry
  constructor
  · rw [hgreeting, Option.bind_some, hinterval]
  · rw [Log.nextBeat?, hgreeting, Option.bind_some, hinterval, hafter, Option.map_some]
    simp [Log.beats]
  · rw [hafter]
    rfl
  · rw [hafter]
    rfl

theorem Log.greeting?_append_of_quiet (h : log.greeting? = none)
    (hinterval : entry.interval? = none) : Log.greeting? (log ++ [entry]) = none := by
  rw [Log.greeting?_append_of_none h, hinterval]
  rfl

/-- A listener that has been greeted knows what the log tells. -/
theorem Tracks.exists_session {phase : Phase} (h : Tracks log phase)
    (hgreeting : log.greeting? ≠ none) :
    ∃ session, phase = .listening session ∧ log.Tells session := by
  cases phase with
  | listening session => exact ⟨session, rfl, h⟩
  | _ => exact absurd h hgreeting

/-- A new session starts without knowledge. -/
theorem tracks_nil {phase : Phase} (hphase : phase.isBusy = false) : Tracks [] phase := by
  cases phase with
  | resting wakeAt => exact rfl
  | «over» => exact rfl
  | _ => cases hphase

/-! ## All that can happen in a session -/

theorem Entry.endsSession_of_ends {moment : Moment} {signal : Signal} {ending : Ending}
    {backoff : Nat} {sent : List Outgoing} (hends : Ends moment entry.phase signal ending)
    (hafter : entry.after.listener = (moment.conclude backoff sent ending).listener) :
    entry.endsSession = true := by
  rw [endsSession, hends.isBusy, hafter, Moment.isBusy_conclude]
  rfl

theorem Entry.not_ends {moment : Moment} {signal : Signal} {ending : Ending} {backoff : Nat}
    {sent : List Outgoing} (hgoesOn : entry.endsSession = false)
    (hafter : entry.after.listener = (moment.conclude backoff sent ending).listener) :
    ¬Ends moment entry.phase signal ending := by
  intro hends
  rw [endsSession_of_ends hends hafter] at hgoesOn
  cases hgoesOn

/-- A frame after the greeting is noted. -/
theorem Log.Tells.append_of_frame {frame : Frame} (h : log.Tells session)
    (hframe : entry.frame? = some frame) (hbeat : entry.isBeat = false) :
    Log.Tells (log ++ [entry])
      { session.note frame with
        awaiting := if frame.op = opAcknowledge then false else session.awaiting } := by
  refine h.append rfl ?_ ?_ ?_
  · rw [hbeat]
    rfl
  · rw [hframe]
    rfl
  · rw [Entry.isAcknowledgement, hframe, hbeat, Bool.or_false, Option.any_some]
    simp only [beq_iff_eq]

/-- An entry without a frame and without a heartbeat leaves the listener where it was. -/
theorem Tracks.append_of_quiet (h : Tracks log entry.phase) (hframe : entry.frame? = none)
    (hbeat : entry.isBeat = false) : Tracks (log ++ [entry]) entry.phase := by
  generalize entry.phase = phase at h
  cases phase with
  | listening session => exact Log.Tells.append_of_quiet h hframe hbeat
  | _ => exact Log.greeting?_append_of_quiet h (Entry.interval?_of_frame? hframe)

/-- Nothing that the listener takes no notice of changes what the log tells. -/
theorem Tracks.append_of_unmoved {moment : Moment} {signal : Signal} (h : Tracks log entry.phase)
    (hwhat : entry.what = .signal signal) (hunmoved : Unmoved moment entry.phase signal)
    (hsent : entry.sent = []) : Tracks (log ++ [entry]) entry.phase := by
  have hquiet (hframe : entry.frame? = none) : Tracks (log ++ [entry]) entry.phase :=
    h.append_of_quiet hframe (Entry.isBeat_of_sent hsent)
  generalize hphase : entry.phase = phase at hunmoved
  cases hunmoved with
  | unconnected hconnected _ =>
    have htext := Entry.text?_of_not_connected (hphase ▸ hconnected)
    exact hphase ▸ hquiet (Entry.frame?_of_text? htext)
  | @early content frame hread hop =>
    -- A frame comes before the greeting, and is none.
    rw [hphase] at h
    refine Log.greeting?_append_of_quiet h ?_
    rw [Entry.interval?, Entry.text?_of_connected hwhat (hphase ▸ rfl), Option.bind_some, greeting?,
      hread, Option.bind_some, if_neg hop]
  | garbled hread =>
    refine hphase ▸ hquiet ?_
    rw [Entry.frame?_of_connected hwhat (hphase ▸ rfl), hread]
  | _ =>
    have htext := Entry.text?_of_signal hwhat (by rintro _ ⟨⟩)
    exact hphase ▸ hquiet (Entry.frame?_of_text? htext)

/-- While a session goes on, the listener knows what its log tells. -/
theorem Tracks.append_of_signal {signal : Signal} (h : Tracks log entry.phase)
    (hwhat : entry.what = .signal signal) (hends : entry.endsSession = false) :
    Tracks (log ++ [entry]) entry.after.listener.phase := by
  obtain ⟨reaction, hturn, hafter, hsent, -⟩ := entry.exists_turn hwhat
  rw [hafter]
  generalize hphase : entry.phase = phase at hturn
  rw [hphase] at h
  have hnoted {session : Session} {content : String} {frame : Frame}
      (h : log.Tells session) (htext : signal = .text content)
      (hconnected : phase.isConnected = true) (hread : readFrame? content = some frame) :
      Log.Tells (log ++ [entry])
        { session.note frame with
          awaiting := if frame.op = opAcknowledge then false else session.awaiting } := by
    rw [htext] at hwhat
    refine h.append_of_frame ?_ (Entry.isBeat_of_what_ne (by rw [hwhat]; nofun))
    rw [Entry.frame?_of_connected hwhat (hphase ▸ hconnected), hread]
  have hsilent (htext : ∀ content, signal ≠ .text content) : entry.interval? = none :=
    Entry.interval?_of_frame? (Entry.frame?_of_text? (Entry.text?_of_signal hwhat htext))
  -- What the log tells changes with a greeting, with a frame and with a heartbeat of the clock.
  cases hturn with
  | ended hend =>
    exact absurd (hphase ▸ hend) (entry.not_ends hends (congrArg Encounter.listener hafter))
  | accepted => exact Log.greeting?_append_of_quiet h (hsilent nofun)
  | woken _ => exact Log.greeting?_append_of_quiet h (hsilent nofun)
  | greeted hgreeting =>
    refine Log.tells_of_greeting h ?_
    rw [Entry.interval?, Entry.text?_of_connected hwhat (hphase ▸ rfl), Option.bind_some, hgreeting]
  | announced hread hop _ _ =>
    have htells := hnoted h rfl rfl hread
    rw [if_neg (by rw [hop]; decide)] at htells
    exact htells
  | requested hread hop =>
    have htells := hnoted h rfl rfl hread
    rw [if_neg (by rw [hop]; decide)] at htells
    exact htells
  | acknowledged hread hop =>
    have htells := hnoted h rfl rfl hread
    rw [if_pos hop] at htells
    exact htells
  | noted hread _ _ hacknowledge _ =>
    have htells := hnoted h rfl rfl hread
    rw [if_neg hacknowledge] at htells
    exact htells
  | struck hdue hawaiting =>
    have hbeat : entry.isBeat = true := by
      rw [Entry.isBeat, hwhat, hsent]
      rfl
    have hframe := Entry.frame?_of_isBeat hbeat
    refine h.append rfl ?_ ?_ ?_
    · rw [hbeat]
      rfl
    · rw [hframe]
      rfl
    · rw [hbeat, Entry.isAcknowledgement_of_frame? hframe, Bool.or_true]
      rfl
  | unmoved hunmoved =>
    have hstays := Tracks.append_of_unmoved (hphase ▸ h) hwhat (hphase ▸ hunmoved) hsent
    rw [hphase] at hstays
    exact hstays

/-- While a session goes on, the listener `Tracks` its log, whatever happens. -/
theorem Tracks.append (h : Tracks log entry.phase) (hends : entry.endsSession = false) :
    Tracks (log ++ [entry]) entry.after.listener.phase := by
  have hquiet (hwhat : ∀ signal, entry.what ≠ .signal signal) :
      Tracks (log ++ [entry]) entry.phase :=
    h.append_of_quiet (Entry.frame?_of_text? (Entry.text?_of_signal_ne fun _ => hwhat _))
      (Entry.isBeat_of_what_ne (hwhat _))
  obtain ⟨signal, hwhat⟩ | ⟨hwhat, -, hsame, -, -⟩ | ⟨hwhat, hstopped, -, -⟩ :=
    entry.signal_or_idle_or_stop
  · exact h.append_of_signal hwhat hends
  · rw [hsame]
    exact hquiet hwhat
  · -- A listener that is stopped without ending a session had none.
    have hstays := hquiet fun _ => by rw [hwhat]; nofun
    rw [Entry.endsSession, hstopped] at hends
    rw [hstopped]
    generalize entry.phase = phase at hends hstays
    cases phase with
    | resting wakeAt => exact hstays
    | «over» => exact hstays
    | _ => cases hends

namespace Chronicle

/-- What holds of every chronicle of a run. -/
structure Sound (account : Account) (c : Chronicle) : Prop where
  account_eq : c.encounter.account = account
  tracks : Tracks c.current c.encounter.listener.phase

theorem account_after (entry : Entry) : entry.after.account = entry.before.account := by
  rw [Entry.after]
  cases entry.what <;> rfl

theorem Sound.record {account : Account} {c : Chronicle} (h : Sound account c)
    (happening : Happening) : Sound account (c.record happening) := by
  refine ⟨?_, ?_⟩
  · rw [encounter_record, account_after]
    exact h.account_eq
  · rcases hends : (c.next happening).endsSession with _ | _
    · rw [record_of_not_endsSession hends]
      exact Tracks.append h.tracks hends
    · rw [record_of_endsSession hends]
      rw [Entry.endsSession, Bool.and_eq_true, Bool.not_eq_true'] at hends
      exact tracks_nil hends.2

/-- In every run the listener knows of its session what the log of it tells (`Sound`). -/
theorem sound_of (account : Account) (happenings : List Happening) :
    Sound account (of account happenings) :=
  of_induction (P := Sound account) ⟨rfl, rfl⟩ (fun _ happening h => h.record happening) happenings

/-- What holds of an empty log, and of a log with one more entry if it holds of the log, holds of
the sessions of all runs. -/
theorem forall_sessions {account : Account} {P : Log → Prop} (hnil : P [])
    (happend : ∀ log entry, entry.before.account = account → Tracks log entry.phase → P log →
      P (log ++ [entry])) (happenings : List Happening) :
    ∀ log ∈ (of account happenings).sessions, P log := by
  -- Whatever happens adds an entry to the last session, which may end with it.
  induction happenings using List.reverseRecOn with
  | nil =>
    intro log hlog
    rw [List.mem_singleton.1 hlog]
    exact hnil
  | append_singleton happenings happening ih =>
    have hsound := sound_of account happenings
    have hcurrent := happend _ ((of account happenings).next happening) hsound.account_eq
      hsound.tracks (ih _ (List.mem_append_right _ (List.mem_singleton_self _)))
    rw [of_append]
    intro log hlog
    obtain hlog | rfl | rfl := mem_sessions_record hlog
    · exact ih log (List.mem_append_left _ hlog)
    · exact hcurrent
    · exact hnil

/-- At every entry of a run the listener knows what the log before it tells. -/
theorem tracks_of_at {account : Account} {happenings : List Happening} {past : Log} {entry : Entry}
    (h : (of account happenings).At past entry) :
    entry.before.account = account ∧ Tracks past entry.phase := by
  induction happenings using List.reverseRecOn with
  | nil => exact absurd h (not_at_start account past entry)
  | append_singleton happenings happening ih =>
    rw [of_append] at h
    obtain hearlier | ⟨rfl, rfl⟩ := at_record_iff.1 h
    · exact ih hearlier
    · have hsound := sound_of account happenings
      exact ⟨hsound.account_eq, hsound.tracks⟩

end Chronicle

/-! ## How a session ends -/

/-- How something that comes before the greeting ends a session. -/
def earlyEnding? : Signal → Option Ending
  | .text content =>
    match readFrame? content with
    | none => some Moment.unreadable
    | some frame =>
      if frame.op = opHello ∧ heartbeatInterval? frame = none then some Moment.unmeasured
      else none
  | .closed _ => some .reconnect
  | .dropped => some Moment.broken
  | .unwritten reason => some (Moment.unwritten reason)
  | _ => none

/-- How something that comes after the greeting ends a session. -/
def lateEnding? (moment : Moment) : Signal → Option Ending
  | .text content =>
    match readFrame? content with
    | none => none
    | some frame =>
      if frame.op = opReconnect ∨ frame.op = opInvalidSession then some .reconnect
      else if (announcement? moment.account content).isSome ∧ moment.taken = false then
        some .deserted
      else none
  | .closed code => some (Moment.closing code)
  | .dropped => some Moment.broken
  | .unwritten reason => some (Moment.unwritten reason)
  | _ => none

namespace Log

/-- Whether the next heartbeat is due. -/
def isDue (log : Log) (now : Nat) : Bool := log.nextBeat?.any (· ≤ now)

/-- How an entry ends a session, by the log of the session before it: a connection is refused,
something comes that ends it, or a heartbeat is due while another one is unanswered. -/
def ending? (log : Log) (entry : Entry) : Option Ending :=
  match entry.what with
  | .signal (.rejected status) =>
    if entry.phase = .dialing then some (Moment.refused status) else none
  | .signal .clock =>
    if log.isDue entry.now && log.afterGreeting.isPending then some .reconnect else none
  | .signal signal =>
    if entry.phase.isConnected then
      if log.greeting?.isSome then lateEnding? entry.before.moment signal else earlyEnding? signal
    else none
  | _ => none

end Log

theorem Log.Tells.isSome_greeting? (h : log.Tells session) : log.greeting?.isSome = true := by
  obtain ⟨hello, hhello, -⟩ := h.exists_greeting
  rw [hhello]
  rfl

theorem Log.Tells.isDue_eq (h : log.Tells session) (now : Nat) :
    log.isDue now = decide (session.nextBeat ≤ now) := by
  rw [Log.isDue, h.nextBeat, Option.any_some]

theorem Log.not_isDue_of_greeting? (h : log.greeting? = none) (now : Nat) :
    log.isDue now = false := by
  rw [Log.isDue, Log.nextBeat?, h]
  rfl

section

variable {signal : Signal} {ending : Ending}

theorem Log.ending?_incoming (hwhat : entry.what = .signal signal)
    (hincoming : signal.isIncoming = true) :
    log.ending? entry =
      if entry.phase.isConnected then
        if log.greeting?.isSome then lateEnding? entry.before.moment signal
        else earlyEnding? signal
      else none := by
  rw [ending?, hwhat]
  cases signal with
  | text content => rfl
  | binary => rfl
  | closed code => rfl
  | dropped => rfl
  | unwritten reason => rfl
  | _ => cases hincoming

theorem Log.ending?_early (h : log.greeting? = none) (hphase : entry.phase = .greeting)
    (hwhat : entry.what = .signal signal) (hincoming : signal.isIncoming = true) :
    log.ending? entry = earlyEnding? signal := by
  rw [ending?_incoming hwhat hincoming, hphase, h]
  rfl

theorem Log.Tells.ending?_late (h : log.Tells session) (hphase : entry.phase = .listening session)
    (hwhat : entry.what = .signal signal) (hincoming : signal.isIncoming = true) :
    log.ending? entry = lateEnding? entry.before.moment signal := by
  rw [Log.ending?_incoming hwhat hincoming, hphase, h.isSome_greeting?]
  rfl

theorem Log.ending?_unconnected (hphase : entry.phase.isConnected = false)
    (hwhat : entry.what = .signal signal) (hincoming : signal.isIncoming = true) :
    log.ending? entry = none := by
  rw [ending?_incoming hwhat hincoming, hphase, if_neg Bool.false_ne_true]

theorem Log.ending?_clock (hwhat : entry.what = .signal .clock) :
    log.ending? entry =
      if log.isDue entry.now && log.afterGreeting.isPending then some .reconnect else none := by
  rw [ending?, hwhat]

theorem Log.ending?_rejected {status : Nat} (hwhat : entry.what = .signal (.rejected status)) :
    log.ending? entry =
      if entry.phase = .dialing then some (Moment.refused status) else none := by
  rw [ending?, hwhat]

/-- How a session ends can be told from its log. -/
theorem Tracks.ending?_of_ends (h : Tracks log entry.phase) (hwhat : entry.what = .signal signal)
    (hends : Ends entry.before.moment entry.phase signal ending) :
    log.ending? entry = some ending := by
  generalize hphase : entry.phase = phase at hends h
  -- The log knows the phase, and with it what the signal means.
  cases hends with
  | refused status => rw [Log.ending?_rejected hwhat, if_pos hphase]
  | unreadable hread => rw [Log.ending?_early h hphase hwhat rfl, earlyEnding?, hread]
  | unmeasured hread hop hinterval =>
    rw [Log.ending?_early h hphase hwhat rfl, earlyEnding?, hread]
    exact if_pos ⟨hop, hinterval⟩
  | closedEarly code => exact Log.ending?_early h hphase hwhat rfl
  | brokenEarly => exact Log.ending?_early h hphase hwhat rfl
  | unwrittenEarly reason => exact Log.ending?_early h hphase hwhat rfl
  | dismissed hread hop =>
    rw [Log.Tells.ending?_late h hphase hwhat rfl, lateEnding?, hread]
    exact if_pos hop
  | deserted hmessage htaken =>
    obtain ⟨frame, hread, hop⟩ := exists_frame_of_announcement? hmessage
    rw [Log.Tells.ending?_late h hphase hwhat rfl, lateEnding?, hread, hmessage]
    simp only [hop, htaken]
    rfl
  | closed session code => exact Log.Tells.ending?_late h hphase hwhat rfl
  | broken session => exact Log.Tells.ending?_late h hphase hwhat rfl
  | unwritten session reason => exact Log.Tells.ending?_late h hphase hwhat rfl
  | @unanswered session hdue hawaiting =>
    have hisDue : log.isDue entry.now = true :=
      (Log.Tells.isDue_eq h entry.now).trans (decide_eq_true hdue)
    rw [Log.ending?_clock hwhat, hisDue, Log.Tells.awaiting h, hawaiting]
    rfl

/-- What the listener takes no notice of ends no session. -/
theorem Tracks.ending?_of_unmoved (h : Tracks log entry.phase) (hwhat : entry.what = .signal signal)
    (hunmoved : Unmoved entry.before.moment entry.phase signal) : log.ending? entry = none := by
  generalize hphase : entry.phase = phase at hunmoved h
  -- Where nobody has been greeted, no heartbeat is due.
  have hclock (hgreeting : log.greeting? = none) (hclock : entry.what = .signal .clock) :
      log.ending? entry = none := by
    rw [Log.ending?_clock hclock, Log.not_isDue_of_greeting? hgreeting, Bool.false_and,
      if_neg Bool.false_ne_true]
  cases hunmoved with
  | accepted _ =>
    rw [Log.ending?, hwhat]
    simp only [earlyEnding?, lateEnding?, ite_self]
  | rejected status hdialing => rw [Log.ending?_rejected hwhat, if_neg (hphase ▸ hdialing)]
  | binary hconnected =>
    rw [Log.ending?_incoming hwhat rfl]
    simp only [earlyEnding?, lateEnding?, ite_self]
  | unconnected hconnected hincoming =>
    exact Log.ending?_unconnected (hphase ▸ hconnected) hwhat hincoming
  | early hread hop =>
    rw [Log.ending?_early h hphase hwhat rfl, earlyEnding?, hread]
    exact if_neg fun hhello => hop hhello.1
  | garbled hread => rw [Log.Tells.ending?_late h hphase hwhat rfl, lateEnding?, hread]
  | @undue session hdue =>
    have hisDue : log.isDue entry.now = false :=
      (Log.Tells.isDue_eq h entry.now).trans (decide_eq_false (Nat.not_le_of_lt hdue))
    rw [Log.ending?_clock hwhat, hisDue, Bool.false_and, if_neg Bool.false_ne_true]
  | asleep _ => exact hclock h hwhat
  | timeless hphase' =>
    refine hclock ?_ hwhat
    obtain rfl | rfl | rfl := hphase'
    · exact h
    · exact h
    · exact h

/-- What the end of a session does: the listener rests or stops, and perhaps complains. -/
structure Entry.EndsBy (entry : Entry) (ending : Ending) : Prop where
  ends : ∃ signal, entry.what = .signal signal ∧
    Ends entry.before.moment entry.phase signal ending
  endsSession : entry.endsSession = true
  after_eq : entry.after = { entry.before with
    listener :=
      (entry.before.moment.conclude entry.before.listener.backoff [] ending).listener }
  sent_eq : entry.sent = []
  delivered_eq : entry.delivered =
    (entry.before.moment.conclude entry.before.listener.backoff [] ending).delivered

/-- A frame after the greeting that does not ask to connect again ends no session while somebody
takes what is delivered, or if there is nothing to deliver. -/
theorem Log.Tells.ending?_of_frame {content : String} {frame : Frame} (h : log.Tells session)
    (hphase : entry.phase = .listening session) (hwhat : entry.what = .signal (.text content))
    (hread : readFrame? content = some frame)
    (hop : ¬(frame.op = opReconnect ∨ frame.op = opInvalidSession))
    (htaken : announcement? entry.before.account content = none ∨ entry.before.taken = true) :
    log.ending? entry = none := by
  rw [h.ending?_late hphase hwhat rfl, lateEnding?, hread]
  simp only [hop, if_false]
  refine if_neg ?_
  rintro ⟨hmessage, hdeserted⟩
  obtain hnone | htaken := htaken
  · rw [show entry.before.moment.account = entry.before.account from rfl, hnone] at hmessage
    cases hmessage
  · rw [show entry.before.moment.taken = entry.before.taken from rfl, htaken] at hdeserted
    cases hdeserted

/-- A session ends by what the log of it says, or goes on. -/
theorem Tracks.ends_or_goes_on_of_signal (h : Tracks log entry.phase)
    (hwhat : entry.what = .signal signal) :
    (∃ ending, log.ending? entry = some ending ∧ entry.EndsBy ending) ∨
      (log.ending? entry = none ∧ entry.endsSession = false) := by
  obtain ⟨reaction, hturn, hafter, hsent, hdelivered⟩ := entry.exists_turn hwhat
  have hgoesOn (hbusy : reaction.listener.phase.isBusy = true) : entry.endsSession = false := by
    rw [Entry.endsSession, hafter, hbusy, Bool.not_true, Bool.and_false]
  generalize hphase : entry.phase = phase at hturn
  -- For an ending the log says so; for all else the log must not say that there is one.
  cases hturn with
  | ended hends =>
    have hended := entry.endsSession_of_ends (hphase ▸ hends) (congrArg Encounter.listener hafter)
    rw [Moment.sent_conclude] at hsent
    refine .inl ⟨_, h.ending?_of_ends hwhat (hphase ▸ hends), ?_⟩
    exact ⟨⟨signal, hwhat, hphase ▸ hends⟩, hended, hafter, hsent, hdelivered⟩
  | accepted =>
    refine .inr ⟨?_, hgoesOn rfl⟩
    rw [Log.ending?, hwhat]
    simp only [earlyEnding?, lateEnding?, ite_self]
  | greeted hgreeting =>
    obtain ⟨frame, hread, -, hinterval⟩ := exists_frame_of_greeting? hgreeting
    refine .inr ⟨?_, hgoesOn rfl⟩
    rw [hphase] at h
    rw [Log.ending?_early h hphase hwhat rfl, earlyEnding?, hread]
    simp only [hinterval, reduceCtorEq, and_false, if_false]
  | announced hread hop _ htaken =>
    rw [hphase] at h
    exact .inr ⟨h.ending?_of_frame hphase hwhat hread (by rw [hop]; decide) (.inr htaken),
      hgoesOn rfl⟩
  | requested hread hop =>
    rw [hphase] at h
    exact .inr ⟨h.ending?_of_frame hphase hwhat hread (by rw [hop]; decide)
      (.inl (announcement?_of_op_ne hread (by rw [hop]; decide))), hgoesOn rfl⟩
  | acknowledged hread hop =>
    rw [hphase] at h
    exact .inr ⟨h.ending?_of_frame hphase hwhat hread (by rw [hop]; decide)
      (.inl (announcement?_of_op_ne hread (by rw [hop]; decide))), hgoesOn rfl⟩
  | noted hread hmessage _ _ hdismiss =>
    rw [hphase] at h
    exact .inr ⟨h.ending?_of_frame hphase hwhat hread hdismiss (.inl hmessage), hgoesOn rfl⟩
  | struck _ hawaiting =>
    rw [hphase] at h
    refine .inr ⟨?_, hgoesOn rfl⟩
    rw [Log.ending?_clock hwhat, Log.Tells.awaiting h, hawaiting, Bool.and_false,
      if_neg Bool.false_ne_true]
  | woken _ =>
    rw [hphase] at h
    refine .inr ⟨?_, hgoesOn rfl⟩
    rw [Log.ending?_clock hwhat, Log.not_isDue_of_greeting? h, Bool.false_and,
      if_neg Bool.false_ne_true]
  | unmoved hunmoved =>
    refine .inr ⟨h.ending?_of_unmoved hwhat (hphase ▸ hunmoved), ?_⟩
    rw [Entry.endsSession, hafter, hphase, Bool.and_not_self]

theorem Log.ending?_of_not_signal (h : ∀ signal, entry.what ≠ .signal signal) :
    log.ending? entry = none := by
  rw [ending?]
  cases hwhat : entry.what with
  | signal signal => exact absurd hwhat (h signal)
  | _ => rfl

/-- A session ends by what the log of it says (`ending?`), or because the listener is stopped. -/
theorem Tracks.ends_or_goes_on (h : Tracks log entry.phase) :
    (∃ ending, log.ending? entry = some ending ∧ entry.EndsBy ending) ∨
      (log.ending? entry = none ∧ (entry.endsSession = false ∨ entry.what = .stop)) := by
  obtain ⟨signal, hwhat⟩ | ⟨hwhat, -, hsame, -, -⟩ | ⟨hwhat, -⟩ := entry.signal_or_idle_or_stop
  · obtain hends | ⟨hnone, hgoesOn⟩ := h.ends_or_goes_on_of_signal hwhat
    · exact .inl hends
    · exact .inr ⟨hnone, .inl hgoesOn⟩
  · refine .inr ⟨Log.ending?_of_not_signal hwhat, .inl ?_⟩
    rw [Entry.endsSession, hsame]
    exact Bool.and_not_self _
  · exact .inr ⟨Log.ending?_of_not_signal fun _ => by rw [hwhat]; nofun, .inr hwhat⟩

/-- What looks like the end of a session is its end. -/
theorem Tracks.endsBy_of_ending? (h : Tracks log entry.phase)
    (hending : log.ending? entry = some ending) : entry.EndsBy ending := by
  obtain ⟨ending', hsome, hends⟩ | ⟨hnone, -⟩ := h.ends_or_goes_on
  · rw [hending, Option.some.injEq] at hsome
    exact hsome ▸ hends
  · rw [hending] at hnone
    cases hnone

/-- What does not end a session does not look like it. -/
theorem Tracks.ending?_of_goes_on (h : Tracks log entry.phase) (hends : entry.endsSession = false) :
    log.ending? entry = none := by
  obtain ⟨ending, -, hended⟩ | ⟨hnone, -⟩ := h.ends_or_goes_on
  · have hnot := hended.endsSession
    rw [hends] at hnot
    cases hnot
  · exact hnone

end

end Gadfly.Discord
