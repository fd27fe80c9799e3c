/-
  Gadfly.Proofs.Gateway.Chronicle

  What has happened in the sessions of a listener.

  A `Chronicle` keeps all that happens, an `Entry` each, in order, and divides it into sessions: a
  session goes on until the listener, having wanted a connection or having had one, is left
  without (`Entry.endsSession`). What the `Log` of a session tells — whether the greeting has come
  (`Log.greeting?`), which running number was the last (`Log.sequence?`), whether a heartbeat is
  unanswered (`Log.isPending`), when the next one is due (`Log.nextBeat?`) — is read off the log
  alone.

  Main definitions: `Entry`, `Log`, `Chronicle`, `Chronicle.At`.
  Main statements: `Chronicle.at_record_iff`, `Chronicle.of_induction`, `Chronicle.go_eq`.
-/

import Mathlib.Data.List.DropRight
import Gadfly.Proofs.Gateway.Turn

namespace Gadfly.Discord

/-! ## Entries -/

/-- A `Happening`, and the encounter before it. -/
structure Entry where
  before : Encounter
  what : Happening

namespace Entry

variable (entry : Entry)

/-- The encounter after it. -/
def after : Encounter := (entry.before.happen entry.what).1

/-- The frames that the listener sent then. -/
def sent : List Outgoing := (entry.before.happen entry.what).2.1

/-- What the listener delivered then. -/
def delivered : List Event := (entry.before.happen entry.what).2.2

/-- When it happened. -/
def now : Nat := entry.before.now

/-- What the listener was doing. -/
def phase : Phase := entry.before.listener.phase

/-- Whether it ended a session. -/
def endsSession : Bool :=
  entry.phase.isBusy && !entry.after.listener.phase.isBusy

/-- The text that came over the connection. -/
def text? : Option String :=
  match entry.what with
  | .signal (.text content) => if entry.phase.isConnected then some content else none
  | _ => none

/-- The frame that came over the connection, if it could be read. -/
def frame? : Option Frame := entry.text?.bind readFrame?

/-- The time between heartbeats that was asked for, if it was a greeting. -/
def interval? : Option Nat := entry.text?.bind greeting?

/-- Whether a heartbeat was acknowledged. -/
def isAcknowledgement : Bool := entry.frame?.any (·.op == opAcknowledge)

/-- Whether the clock made the listener send a heartbeat. -/
def isBeat : Bool := entry.what == .signal .clock && !entry.sent.isEmpty

variable {entry}

theorem interval?_of_frame? (h : entry.frame? = none) : entry.interval? = none := by
  rw [frame?] at h
  rw [interval?]
  rcases htext : entry.text? with _ | content
  · rfl
  · rw [htext, Option.bind_some] at h
    rw [Option.bind_some, greeting?, h]
    rfl

theorem isAcknowledgement_of_frame? (h : entry.frame? = none) :
    entry.isAcknowledgement = false := by
  rw [isAcknowledgement, h]
  rfl

theorem what_of_isBeat (h : entry.isBeat = true) : entry.what = .signal .clock := by
  rw [isBeat, Bool.and_eq_true] at h
  exact eq_of_beq h.1

theorem isBeat_of_sent (h : entry.sent = []) : entry.isBeat = false := by
  rw [isBeat, h]
  exact Bool.and_false _

theorem text?_of_signal_ne (h : ∀ content, entry.what ≠ .signal (.text content)) :
    entry.text? = none := by
  rw [text?]
  split
  · rename_i content hwhat
    exact absurd hwhat (h content)
  · rfl

theorem text?_of_signal {signal : Signal} (hwhat : entry.what = .signal signal)
    (h : ∀ content, signal ≠ .text content) : entry.text? = none := by
  refine text?_of_signal_ne fun content hcontent => h content ?_
  rw [hwhat, Happening.signal.injEq] at hcontent
  exact hcontent

theorem frame?_of_text? (h : entry.text? = none) : entry.frame? = none := by
  rw [frame?, h]
  rfl

/-- An entry of the clock brings no frame. -/
theorem frame?_of_isBeat (h : entry.isBeat = true) : entry.frame? = none :=
  frame?_of_text? (text?_of_signal (what_of_isBeat h) nofun)

theorem text?_of_not_connected (h : entry.phase.isConnected = false) : entry.text? = none := by
  rw [text?]
  split
  · rw [h, if_neg Bool.false_ne_true]
  · rfl

theorem text?_of_connected {content : String} (hwhat : entry.what = .signal (.text content))
    (h : entry.phase.isConnected = true) : entry.text? = some content := by
  rw [text?, hwhat]
  exact if_pos h

theorem what_of_text? {content : String} (h : entry.text? = some content) :
    entry.what = .signal (.text content) ∧ entry.phase.isConnected = true := by
  rw [text?] at h
  split at h
  · rename_i content' hwhat
    split at h
    · rename_i hconnected
      exact ⟨Option.some.inj h ▸ hwhat, hconnected⟩
    · cases h
  · cases h

theorem frame?_of_connected {content : String} (hwhat : entry.what = .signal (.text content))
    (h : entry.phase.isConnected = true) : entry.frame? = readFrame? content := by
  rw [frame?, text?_of_connected hwhat h, Option.bind_some]

theorem isBeat_of_what_ne (h : entry.what ≠ .signal .clock) : entry.isBeat = false :=
  eq_false_of_ne_true fun hbeat => h (what_of_isBeat hbeat)

/-- Something happens to the listener, or around it, or it is stopped. -/
theorem signal_or_idle_or_stop :
    (∃ signal, entry.what = .signal signal) ∨
      ((∀ signal, entry.what ≠ .signal signal) ∧ entry.what ≠ .stop ∧
        entry.after.listener = entry.before.listener ∧ entry.sent = [] ∧ entry.delivered = []) ∨
      (entry.what = .stop ∧ entry.after.listener = .stopped ∧ entry.sent = [] ∧
        entry.delivered = []) := by
  rw [after, sent, delivered]
  cases entry.what with
  | signal signal => exact .inl ⟨signal, rfl⟩
  | stop => exact .inr (.inr ⟨rfl, rfl, rfl, rfl⟩)
  | _ => exact .inr (.inl ⟨nofun, nofun, rfl, rfl, rfl⟩)

/-- Only what happens to the listener makes it send or deliver something. -/
theorem signal_or_silent :
    (∃ signal, entry.what = .signal signal) ∨ (entry.sent = [] ∧ entry.delivered = []) := by
  obtain hsignal | ⟨-, -, -, hsilent⟩ | ⟨-, -, hsilent⟩ := entry.signal_or_idle_or_stop
  · exact .inl hsignal
  · exact .inr hsilent
  · exact .inr hsilent

/-- What happens to the listener is one of its turns. -/
theorem exists_turn {signal : Signal} (hwhat : entry.what = .signal signal) :
    ∃ reaction,
      Turn entry.before.moment entry.before.listener.backoff entry.phase signal reaction ∧
      entry.after = { entry.before with listener := reaction.listener } ∧
      entry.sent = reaction.sent ∧ entry.delivered = reaction.delivered := by
  refine ⟨_, turn_step entry.before.moment entry.before.listener signal, ?_, ?_, ?_⟩
  · rw [after, hwhat]
    rfl
  · rw [sent, hwhat]
    rfl
  · rw [delivered, hwhat]
    rfl

end Entry

/-! ## Logs -/

/-- What happened in a session, in order: its entries. -/
abbrev Log := List Entry

namespace Log

variable (log : Log)

/-- The greeting: the first entry that asks for heartbeats (`Entry.interval?`). -/
def greeting? : Option Entry := log.find? (·.interval?.isSome)

/-- What happened after the greeting. -/
def afterGreeting : Log := (log.dropWhile (·.interval?.isNone)).tail

/-- The running number of the last frame that had one. -/
def sequence? : Option Nat := (log.filterMap fun entry => entry.frame?.bind Frame.sequence).getLast?

/-- Whether there has been a heartbeat of the clock since the last acknowledgement. -/
def isPending : Bool := (log.rtakeWhile (!·.isAcknowledgement)).any Entry.isBeat

/-- How many heartbeats the clock has made the listener send. -/
def beats : Nat := log.countP Entry.isBeat

/-- When the next heartbeat is due: as many intervals after the greeting as there have been
heartbeats of the clock, and one more. -/
def nextBeat? : Option Nat :=
  log.greeting?.bind fun hello => hello.interval?.map fun interval =>
    hello.now + interval * (log.afterGreeting.beats + 1)

/-- All that the listener sent. -/
def sent : List Outgoing := log.flatMap Entry.sent

/-- All that the listener delivered. -/
def delivered : List Event := log.flatMap Entry.delivered

@[simp] theorem sent_append (log' : Log) : Log.sent (log ++ log') = log.sent ++ Log.sent log' :=
  List.flatMap_append

@[simp] theorem delivered_append (log' : Log) :
    Log.delivered (log ++ log') = log.delivered ++ Log.delivered log' :=
  List.flatMap_append

@[simp] theorem sent_singleton (entry : Entry) : Log.sent [entry] = entry.sent :=
  List.flatMap_singleton _ _

@[simp] theorem delivered_singleton (entry : Entry) : Log.delivered [entry] = entry.delivered :=
  List.flatMap_singleton _ _

theorem sent_flatten (logs : List Log) : Log.sent logs.flatten = logs.flatMap Log.sent := by
  induction logs with
  | nil => rfl
  | cons log logs ih => rw [List.flatten_cons, sent_append, ih, List.flatMap_cons]

variable {log} {entry : Entry}

theorem greeting?_append_of_some {hello : Entry} (h : log.greeting? = some hello) (entry : Entry) :
    Log.greeting? (log ++ [entry]) = some hello := by
  rw [greeting?] at h
  rw [greeting?, List.find?_append, h]
  rfl

theorem greeting?_append_of_none (h : log.greeting? = none) :
    Log.greeting? (log ++ [entry]) = if entry.interval?.isSome then some entry else none := by
  rw [greeting?] at h
  rw [greeting?, List.find?_append, h, Option.none_or, List.find?_cons]
  cases entry.interval?.isSome <;> rfl

theorem dropWhile_of_greeting? (h : log.greeting? = none) :
    log.dropWhile (·.interval?.isNone) = [] := by
  rw [List.dropWhile_eq_nil_iff]
  intro e he
  have hnot := List.find?_eq_none.1 h e he
  cases hinterval : e.interval? with
  | none => rfl
  | some interval => simp [hinterval] at hnot

theorem afterGreeting_of_none (h : log.greeting? = none) : log.afterGreeting = [] := by
  rw [afterGreeting, dropWhile_of_greeting? h]
  rfl

/-- The entry of the greeting is not one after it. -/
theorem afterGreeting_append_of_none (h : log.greeting? = none) (entry : Entry) :
    Log.afterGreeting (log ++ [entry]) = [] := by
  rw [afterGreeting, List.dropWhile_append, dropWhile_of_greeting? h]
  cases hinterval : entry.interval? <;> simp [hinterval]

theorem afterGreeting_append_of_some {hello : Entry} (h : log.greeting? = some hello)
    (entry : Entry) :
    Log.afterGreeting (log ++ [entry]) = log.afterGreeting ++ [entry] := by
  have hne : log.dropWhile (·.interval?.isNone) ≠ [] := by
    intro hnil
    have hall := List.dropWhile_eq_nil_iff.1 hnil hello (List.mem_of_find?_eq_some h)
    have hsome := List.find?_some h
    rw [Option.isNone_iff_eq_none] at hall
    rw [hall] at hsome
    cases hsome
  rw [afterGreeting, List.dropWhile_append, if_neg (by simpa using hne),
    List.tail_append_of_ne_nil hne]
  rfl

theorem sequence?_append :
    Log.sequence? (log ++ [entry]) = (entry.frame?.bind Frame.sequence).or log.sequence? := by
  rw [sequence?, List.filterMap_append, List.getLast?_append, sequence?]
  rcases hnumber : entry.frame?.bind Frame.sequence with _ | number
  · simp [hnumber]
  · simp [hnumber]

theorem isPending_append :
    Log.isPending (log ++ [entry]) =
      if entry.isAcknowledgement then false else log.isPending || entry.isBeat := by
  rw [isPending, List.rtakeWhile_concat, isPending]
  cases entry.isAcknowledgement <;> simp

theorem beats_append :
    Log.beats (log ++ [entry]) = log.beats + if entry.isBeat then 1 else 0 := by
  rw [beats, List.countP_append, beats, List.countP_singleton]

end Log

/-! ## Chronicles -/

/-- All that has happened, divided into the sessions that have ended and what has happened since,
and the `Encounter` as it is now. -/
structure Chronicle where
  earlier : List Log
  current : Log
  encounter : Encounter

namespace Chronicle

/-- Before anything has happened. -/
def start (account : Account) : Chronicle := ⟨[], [], .start account⟩

/-- The entry for what happens next. -/
def next (c : Chronicle) (happening : Happening) : Entry := ⟨c.encounter, happening⟩

/-- Adds what happens next. -/
def record (c : Chronicle) (happening : Happening) : Chronicle :=
  if (c.next happening).endsSession then
    ⟨c.earlier ++ [c.current ++ [c.next happening]], [], (c.next happening).after⟩
  else ⟨c.earlier, c.current ++ [c.next happening], (c.next happening).after⟩

/-- The chronicle of a run: `record` for each `Happening`. -/
def of (account : Account) (happenings : List Happening) : Chronicle :=
  happenings.foldl record (start account)

/-- The sessions, each with the wait before it; the last one has not ended. -/
def sessions (c : Chronicle) : List Log := c.earlier ++ [c.current]

@[simp] theorem of_append (account : Account) (happenings : List Happening)
    (happening : Happening) :
    of account (happenings ++ [happening]) = (of account happenings).record happening := by
  rw [of, List.foldl_append]
  rfl

variable {c : Chronicle} {happening : Happening}

theorem record_of_endsSession (h : (c.next happening).endsSession = true) :
    c.record happening =
      ⟨c.earlier ++ [c.current ++ [c.next happening]], [], (c.next happening).after⟩ :=
  if_pos h

theorem record_of_not_endsSession (h : (c.next happening).endsSession = false) :
    c.record happening = ⟨c.earlier, c.current ++ [c.next happening], (c.next happening).after⟩ :=
  if_neg (ne_true_of_eq_false h)

@[simp] theorem encounter_record : (c.record happening).encounter = (c.next happening).after := by
  rw [record]
  split <;> rfl

/-- Nothing is lost, and nothing added, when what happened is divided into sessions. -/
theorem flatten_sessions_record :
    (c.record happening).sessions.flatten = c.sessions.flatten ++ [c.next happening] := by
  rcases h : (c.next happening).endsSession with _ | _
  · rw [record_of_not_endsSession h]
    simp [sessions]
  · rw [record_of_endsSession h]
    simp [sessions]

theorem mem_sessions_record {log : Log} (h : log ∈ (c.record happening).sessions) :
    log ∈ c.earlier ∨ log = c.current ++ [c.next happening] ∨ log = [] := by
  rcases hends : (c.next happening).endsSession with _ | _
  · rw [record_of_not_endsSession hends, sessions, List.mem_append, List.mem_singleton] at h
    obtain h | h := h
    · exact .inl h
    · exact .inr (.inl h)
  · rw [record_of_endsSession hends, sessions, List.mem_append, List.mem_append,
      List.mem_singleton, List.mem_singleton] at h
    obtain (h | h) | h := h
    · exact .inl h
    · exact .inr (.inl h)
    · exact .inr (.inr h)

theorem earlier_subset_sessions_record : c.earlier ⊆ (c.record happening).sessions := by
  intro log hlog
  rcases hends : (c.next happening).endsSession with _ | _
  · rw [record_of_not_endsSession hends]
    exact List.mem_append_left _ hlog
  · rw [record_of_endsSession hends]
    exact List.mem_append_left _ (List.mem_append_left _ hlog)

theorem append_mem_sessions_record :
    c.current ++ [c.next happening] ∈ (c.record happening).sessions := by
  rcases hends : (c.next happening).endsSession with _ | _
  · rw [record_of_not_endsSession hends]
    exact List.mem_append_right _ (List.mem_singleton_self _)
  · rw [record_of_endsSession hends]
    exact List.mem_append_left _ (List.mem_append_right _ (List.mem_singleton_self _))

/-- An entry of a chronicle, and what happened before it in its session. -/
def At (c : Chronicle) (past : Log) (entry : Entry) : Prop :=
  ∃ log ∈ c.sessions, past ++ [entry] <+: log

theorem not_at_start (account : Account) (past : Log) (entry : Entry) :
    ¬(start account).At past entry := by
  rintro ⟨log, hlog, hstart⟩
  rw [List.mem_singleton.1 hlog] at hstart
  exact List.append_ne_nil_of_right_ne_nil _ (List.cons_ne_nil _ _) (List.prefix_nil.1 hstart)

/-- An entry of a chronicle (`At`) is an earlier one, or the last one. -/
theorem at_record_iff {past : Log} {entry : Entry} :
    (c.record happening).At past entry ↔
      c.At past entry ∨ (past = c.current ∧ entry = c.next happening) := by
  constructor
  · rintro ⟨log, hlog, hstart⟩
    obtain hlog | rfl | rfl := mem_sessions_record hlog
    · exact .inl ⟨log, List.mem_append_left _ hlog, hstart⟩
    · obtain hlast | hearlier := List.prefix_concat_iff.1 hstart
      · obtain ⟨hpast, hentry⟩ := List.append_inj' hlast rfl
        exact .inr ⟨hpast, (List.cons.inj hentry).1⟩
      · exact .inl ⟨_, List.mem_append_right _ (List.mem_singleton_self _), hearlier⟩
    · exact absurd (List.prefix_nil.1 hstart)
        (List.append_ne_nil_of_right_ne_nil _ (List.cons_ne_nil _ _))
  · rintro (⟨log, hlog, hstart⟩ | ⟨rfl, rfl⟩)
    · obtain hlog | hlog := List.mem_append.1 hlog
      · exact ⟨log, earlier_subset_sessions_record hlog, hstart⟩
      · rw [List.mem_singleton.1 hlog] at hstart
        exact ⟨_, append_mem_sessions_record, hstart.trans (List.prefix_append _ _)⟩
    · exact ⟨_, append_mem_sessions_record, List.prefix_refl _⟩

/-- What holds at the `start` and is preserved by `record`, whatever happens, holds in all runs. -/
theorem of_induction {account : Account} {P : Chronicle → Prop} (hstart : P (start account))
    (hrecord : ∀ c happening, P c → P (c.record happening)) (happenings : List Happening) :
    P (of account happenings) := by
  have hfold (c : Chronicle) (hc : P c) : P (happenings.foldl record c) := by
    induction happenings generalizing c with
    | nil => exact hc
    | cons happening rest ih => exact ih _ (hrecord c happening hc)
  exact hfold _ hstart

end Chronicle

namespace Encounter

/-- Letting one thing happen, and then the others. -/
theorem go_cons (e : Encounter) (happening : Happening) (rest : List Happening) :
    e.go (happening :: rest) =
      let first : Entry := ⟨e, happening⟩
      let others := first.after.go rest
      (others.1, first.sent ++ others.2.1, first.delivered ++ others.2.2) := rfl

/-- Letting things happen in two parts. -/
theorem go_append (e : Encounter) (first second : List Happening) :
    e.go (first ++ second) =
      let part := e.go first
      let others := part.1.go second
      (others.1, part.2.1 ++ others.2.1, part.2.2 ++ others.2.2) := by
  induction first generalizing e with
  | nil => rfl
  | cons happening rest ih => simp only [List.cons_append, go_cons, ih, List.append_assoc]

end Encounter

namespace Chronicle

/-- The chronicle of a run tells where `go` leads, what is sent and what is delivered. -/
theorem go_eq (account : Account) (happenings : List Happening) :
    (Encounter.start account).go happenings =
      ((of account happenings).encounter, Log.sent (of account happenings).sessions.flatten,
        Log.delivered (of account happenings).sessions.flatten) := by
  induction happenings using List.reverseRecOn with
  | nil => rfl
  | append_singleton happenings happening ih =>
    rw [Encounter.go_append, ih, of_append, flatten_sessions_record, Log.sent_append,
      Log.delivered_append, Log.sent_singleton, Log.delivered_singleton, encounter_record]
    simp only [Encounter.go, List.append_nil]
    rfl

end Chronicle

end Gadfly.Discord
