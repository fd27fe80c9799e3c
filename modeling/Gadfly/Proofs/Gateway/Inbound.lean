/-
  Gadfly.Proofs.Gateway.Inbound

  What a listener delivers.

  As long as somebody takes it, the stream of what is delivered is made of the sessions, one after
  the other (`Chronicle.Divided`): from each the messages announced after its greeting, in the
  order in which they came (`Log.announcements`), and then the failure with which it ended, if it
  ended with one (`Log.complaint`).

  Main definitions: `Log.announcements`, `Log.complaint`, `Log.offers`, `Chronicle.Divided`.
  Main statements: `Tracks.delivered_eq`, `Chronicle.divided_of`, `inbound_of_sessions`.
-/

import Gadfly.Proofs.Gateway.Session

namespace Gadfly.Discord

/-! ## What a session has to deliver -/

/-- What is told of the end of a session. -/
def Ending.complaint : Ending → List Event
  | .failed fault | .fatal fault => [.error fault]
  | .reconnect | .deserted => []

namespace Log

/-- The message that an entry brings, after the greeting. -/
def announced? (account : Account) (log : Log) (entry : Entry) : Option Message :=
  if log.greeting?.isSome then entry.text?.bind (announcement? account) else none

/-- The messages that were announced after the greeting (`announced?`). -/
def announcements (account : Account) (log : Log) : List Message :=
  log.afterGreeting.filterMap fun entry => entry.text?.bind (announcement? account)

/-- How the session has ended, if it has. -/
def result? (log : Log) : Option Ending :=
  log.getLast?.bind (ending? log.dropLast)

/-- What is told of the end of the session, if that is an `Ending` of which anything is told. -/
def complaint (log : Log) : List Event :=
  (log.result?.map Ending.complaint).getD []

/-- What the session has to deliver: its announcements, and then its complaint. -/
def items (account : Account) (log : Log) : List Event :=
  (log.announcements account).map .ok ++ log.complaint

/-- What is to be delivered upon an `Entry`. -/
def offers (account : Account) (log : Log) (entry : Entry) : List Event :=
  (log.announced? account entry).toList.map .ok ++
    ((log.ending? entry).map Ending.complaint).getD []

variable {account : Account} {log : Log} {entry : Entry}

theorem result?_append : Log.result? (log ++ [entry]) = log.ending? entry := by
  rw [result?, List.getLast?_concat, Option.bind_some, List.dropLast_concat]

theorem complaint_append :
    Log.complaint (log ++ [entry]) = ((log.ending? entry).map Ending.complaint).getD [] := by
  rw [complaint, result?_append]

theorem announcements_append :
    Log.announcements account (log ++ [entry]) =
      log.announcements account ++ (log.announced? account entry).toList := by
  rw [announcements, announced?]
  rcases hgreeting : log.greeting? with _ | hello
  · rw [afterGreeting_append_of_none hgreeting, announcements, afterGreeting_of_none hgreeting]
    rfl
  · rw [afterGreeting_append_of_some hgreeting, List.filterMap_append, announcements]
    rcases hmessage : entry.text?.bind (announcement? account) with _ | message
    · simp [hmessage]
    · simp [hmessage]

/-- One more entry of a session that has not ended adds what is to be delivered upon it. -/
theorem items_append (h : log.result? = none) :
    Log.items account (log ++ [entry]) = log.items account ++ log.offers account entry := by
  have hcomplaint : log.complaint = [] := by
    rw [complaint, h]
    rfl
  rw [items, items, offers, announcements_append, complaint_append, hcomplaint, List.map_append,
    List.append_nil, List.append_assoc]

theorem announced?_of_greeting? (h : log.greeting? = none) :
    log.announced? account entry = none := by
  rw [announced?, h]
  rfl

theorem announced?_of_text? (h : entry.text? = none) : log.announced? account entry = none := by
  rw [announced?, h, Option.bind_none, ite_self]

theorem announced?_of_announcement? {content : String}
    (hwhat : entry.what = .signal (.text content)) (h : announcement? account content = none) :
    log.announced? account entry = none := by
  rw [announced?, Entry.text?, hwhat]
  cases entry.phase.isConnected with
  | false => exact ite_self _
  | true =>
    simp only [if_true, Option.bind_some, h, ite_self]

end Log

/-! ## What is delivered -/

variable {account : Account} {log : Log} {entry : Entry}

/-- After the greeting a text brings what it announces. -/
theorem Log.Tells.announced?_eq {session : Session} {content : String} (h : log.Tells session)
    (hphase : entry.phase = .listening session) (hwhat : entry.what = .signal (.text content)) :
    log.announced? account entry = announcement? account content := by
  rw [Log.announced?, h.isSome_greeting?, if_pos rfl,
    Entry.text?_of_connected hwhat (hphase ▸ rfl), Option.bind_some]

theorem Moment.delivered_conclude {moment : Moment} (htaken : moment.taken = true) (backoff : Nat)
    (sent : List Outgoing) (ending : Ending) :
    (moment.conclude backoff sent ending).delivered = ending.complaint := by
  cases ending with
  | reconnect => rfl
  | failed fault =>
    rw [Moment.conclude, if_pos htaken]
    rfl
  | fatal fault =>
    rw [Moment.conclude, if_pos htaken]
    rfl
  | deserted => rfl

/-- Nothing that ends a session brings a message, as long as somebody takes it. -/
theorem Tracks.announced?_of_endsBy {ending : Ending} (h : Tracks log entry.phase)
    (hends : entry.EndsBy ending) (htaken : entry.before.taken = true) :
    log.announced? entry.before.account entry = none := by
  obtain ⟨signal, hwhat, hends⟩ := hends.ends
  generalize entry.phase = phase at hends h
  cases hends with
  | unreadable _ => exact Log.announced?_of_greeting? h
  | unmeasured _ _ _ => exact Log.announced?_of_greeting? h
  | dismissed hread hop =>
    refine Log.announced?_of_announcement? hwhat (announcement?_of_op_ne hread ?_)
    intro hdispatch
    rw [hdispatch] at hop
    revert hop
    decide
  | deserted _ hdeserted =>
    rw [show entry.before.moment.taken = entry.before.taken from rfl, htaken] at hdeserted
    cases hdeserted
  | _ => exact Log.announced?_of_text? (Entry.text?_of_signal hwhat (by rintro _ ⟨⟩))

theorem Tracks.announced?_of_unmoved {signal : Signal} (h : Tracks log entry.phase)
    (hwhat : entry.what = .signal signal)
    (hunmoved : Unmoved entry.before.moment entry.phase signal) :
    log.announced? account entry = none := by
  generalize hphase : entry.phase = phase at hunmoved h
  cases hunmoved with
  | unconnected hconnected _ =>
    exact Log.announced?_of_text? (Entry.text?_of_not_connected (hphase ▸ hconnected))
  | early _ _ => exact Log.announced?_of_greeting? h
  | garbled hread =>
    refine Log.announced?_of_announcement? hwhat ?_
    rw [announcement?, hread]
    rfl
  | _ => exact Log.announced?_of_text? (Entry.text?_of_signal hwhat (by rintro _ ⟨⟩))

/-- While a session goes on, just the announced messages are delivered. -/
theorem Tracks.delivered_of_goes_on {signal : Signal} (h : Tracks log entry.phase)
    (hwhat : entry.what = .signal signal) (hends : entry.endsSession = false) :
    entry.delivered = (log.announced? entry.before.account entry).toList.map .ok := by
  obtain ⟨reaction, hturn, hafter, -, hdelivered⟩ := entry.exists_turn hwhat
  have hnothing (hreaction : reaction.delivered = [])
      (hnone : log.announced? entry.before.account entry = none) :
      entry.delivered = (log.announced? entry.before.account entry).toList.map .ok := by
    rw [hdelivered, hreaction, hnone]
    rfl
  generalize hphase : entry.phase = phase at hturn
  -- Only an announcement delivers something; everything else has to be shown to announce nothing.
  cases hturn with
  | ended hend =>
    exact absurd (hphase ▸ hend) (entry.not_ends hends (congrArg Encounter.listener hafter))
  | greeted _ =>
    rw [hphase] at h
    exact hnothing rfl (Log.announced?_of_greeting? h)
  | @announced session content frame message _ _ hmessage _ =>
    rw [hphase] at h
    have hannounced : log.announced? entry.before.account entry = some message :=
      (h.announced?_eq hphase hwhat).trans hmessage
    rw [hdelivered, hannounced]
    rfl
  | requested hread hop =>
    exact hnothing rfl (Log.announced?_of_announcement? hwhat
      (announcement?_of_op_ne hread (by rw [hop]; decide)))
  | acknowledged hread hop =>
    exact hnothing rfl (Log.announced?_of_announcement? hwhat
      (announcement?_of_op_ne hread (by rw [hop]; decide)))
  | noted _ hmessage _ _ _ =>
    exact hnothing rfl (Log.announced?_of_announcement? hwhat hmessage)
  | unmoved hunmoved => exact hnothing rfl (h.announced?_of_unmoved hwhat (hphase ▸ hunmoved))
  | _ =>
    have htext := Entry.text?_of_signal hwhat (by rintro _ ⟨⟩)
    exact hnothing rfl (Log.announced?_of_text? htext)

/-- As long as somebody takes it, all that the log `offers` upon an entry is delivered, and nothing
else. -/
theorem Tracks.delivered_eq (h : Tracks log entry.phase) (htaken : entry.before.taken = true) :
    entry.delivered = log.offers entry.before.account entry := by
  have hidle (hwhat : ∀ signal, entry.what ≠ .signal signal) (hnone : log.ending? entry = none)
      (hdelivered : entry.delivered = []) :
      entry.delivered = log.offers entry.before.account entry := by
    rw [hdelivered, Log.offers, hnone,
      Log.announced?_of_text? (Entry.text?_of_signal_ne fun _ => hwhat _)]
    rfl
  obtain ⟨ending, hending, hended⟩ | ⟨hnone, hgoesOn⟩ := h.ends_or_goes_on
  · rw [hended.delivered_eq, Moment.delivered_conclude htaken, Log.offers,
      h.announced?_of_endsBy hended htaken, hending]
    rfl
  · rcases hwhat : entry.what with signal | ms | _ | _
    · obtain hends | hstop := hgoesOn
      · rw [h.delivered_of_goes_on hwhat hends, Log.offers, hnone]
        exact (List.append_nil _).symm
      · rw [hwhat] at hstop
        cases hstop
    all_goals exact hidle (by rw [hwhat]; rintro _ ⟨⟩) hnone (by rw [Entry.delivered, hwhat]; rfl)

/-! ## What a run delivers -/

namespace Chronicle

/-- Somebody takes what is delivered until they leave. -/
theorem taken_of {happenings : List Happening} (hopen : .leave ∉ happenings) :
    (of account happenings).encounter.taken = true := by
  induction happenings using List.reverseRecOn with
  | nil => rfl
  | append_singleton happenings happening ih =>
    rw [List.mem_append, List.mem_singleton, not_or] at hopen
    have hbefore := ih hopen.1
    rw [of_append, encounter_record, Entry.after, next]
    cases happening with
    | leave => exact absurd rfl hopen.2
    | _ => exact hbefore

theorem Sound.delivered_record {c : Chronicle} (h : Sound account c)
    (htaken : c.encounter.taken = true) (happening : Happening) :
    (c.next happening).delivered = c.current.offers account (c.next happening) := by
  have htracks : Tracks c.current (c.next happening).phase := h.tracks
  rw [htracks.delivered_eq htaken]
  exact congrArg (c.current.offers · (c.next happening)) h.account_eq

/-- What the sessions have to deliver. -/
def items (account : Account) (c : Chronicle) : List Event :=
  c.sessions.flatMap (Log.items account)

/-- How a run is divided into sessions: all that happened is in one of them, the last one has not
ended, and each of the others has ended in one of the ways that there are, or was broken off. -/
structure Divided (happenings : List Happening) (c : Chronicle) : Prop where
  complete : c.sessions.flatten.map Entry.what = happenings
  unfinished : c.current.result? = none
  finished : ∀ log ∈ c.earlier, log.result?.isSome ∨ log.getLast?.map Entry.what = some .stop

variable {c : Chronicle} {happenings : List Happening}

theorem Divided.record (hsound : Sound account c) (h : Divided happenings c)
    (happening : Happening) : Divided (happenings ++ [happening]) (c.record happening) := by
  have htracks : Tracks c.current (c.next happening).phase := hsound.tracks
  refine ⟨?_, ?_, ?_⟩
  · rw [flatten_sessions_record, List.map_append, h.complete]
    rfl
  · rcases hends : (c.next happening).endsSession with _ | _
    · rw [record_of_not_endsSession hends, Log.result?_append]
      exact htracks.ending?_of_goes_on hends
    · rw [record_of_endsSession hends]
      rfl
  · rcases hends : (c.next happening).endsSession with _ | _
    · rw [record_of_not_endsSession hends]
      exact h.finished
    · rw [record_of_endsSession hends]
      intro log hlog
      obtain hlog | hlog := List.mem_append.1 hlog
      · exact h.finished log hlog
      · rw [List.mem_singleton.1 hlog, Log.result?_append, List.getLast?_concat]
        obtain ⟨ending, hending, -⟩ | ⟨-, hgoesOn | hstop⟩ := htracks.ends_or_goes_on
        · exact .inl (by rw [hending]; rfl)
        · rw [hends] at hgoesOn
          cases hgoesOn
        · exact .inr (congrArg some hstop)

theorem divided_of (account : Account) (happenings : List Happening) :
    Divided happenings (of account happenings) := by
  induction happenings using List.reverseRecOn with
  | nil => exact ⟨rfl, rfl, nofun⟩
  | append_singleton happenings happening ih =>
    rw [of_append]
    exact ih.record (sound_of account happenings) happening

theorem items_record (hunfinished : c.current.result? = none) (happening : Happening) :
    items account (c.record happening) =
      items account c ++ c.current.offers account (c.next happening) := by
  rcases hends : (c.next happening).endsSession with _ | _
  · rw [record_of_not_endsSession hends]
    simp [items, sessions, Log.items_append hunfinished]
  · -- The session after it has nothing to deliver yet.
    have hnew : Log.items account [] = [] := rfl
    rw [record_of_endsSession hends]
    simp [items, sessions, Log.items_append hunfinished, hnew]

/-- As long as somebody takes it, what is delivered is what the sessions have to deliver. -/
theorem delivered_eq_items (hopen : .leave ∉ happenings) :
    Log.delivered (of account happenings).sessions.flatten =
      items account (of account happenings) := by
  induction happenings using List.reverseRecOn with
  | nil => rfl
  | append_singleton happenings happening ih =>
    rw [List.mem_append, not_or] at hopen
    rw [of_append, flatten_sessions_record, Log.delivered_append, Log.delivered_singleton,
      ih hopen.1, (sound_of account happenings).delivered_record (taken_of hopen.1),
      items_record (divided_of account happenings).unfinished]

end Chronicle

/-- What a listener delivers while somebody takes it: of each session, in the order of the sessions,
first the `announcements` after the greeting, in the order in which they came, and then one
`complaint` if the session ended by a failure, whether or not it makes sense to try again. The
sessions are those into which the run is `Divided`. -/
theorem inbound_of_sessions (account : Account) (happenings : List Happening)
    (hopen : .leave ∉ happenings) :
    ((Encounter.start account).go happenings).2.2 =
        (Chronicle.of account happenings).sessions.flatMap
          (fun log => (log.announcements account).map .ok ++ log.complaint) ∧
      Chronicle.Divided happenings (Chronicle.of account happenings) := by
  refine ⟨?_, Chronicle.divided_of account happenings⟩
  rw [Chronicle.go_eq]
  exact Chronicle.delivered_eq_items hopen

/-- Two sessions. In the first a message comes before the greeting and once more after it, and the
connection breaks; the second is closed for good, and another message comes too late. -/
def briefTalk : List Happening :=
  let hello := "\x7b\"op\":10,\"d\":\x7b\"heartbeat_interval\":1000\x7d\x7d"
  let post := "\x7b\"op\":0,\"s\":5,\"t\":\"MESSAGE_CREATE\",\"d\":\x7b\"id\":\"1\"," ++
    "\"channel_id\":\"2\",\"author\":\x7b\"id\":\"3\",\"username\":\"a\"\x7d," ++
    "\"timestamp\":\"2024-05-01T12:00:00Z\"\x7d\x7d"
  [.signal .accepted, .signal (.text post), .signal (.text hello), .signal (.text post),
    .signal .dropped, .elapse 1000, .signal .clock, .signal .accepted, .signal (.text hello),
    .signal (.closed (some 4004)), .signal (.text post)]

theorem inbound_of_brief_talk :
    let account : Account := ⟨"token", "", "", 1, ["2"]⟩
    .leave ∉ briefTalk ∧
      ((Encounter.start account).go briefTalk).2.2.map (·.toOption.map Message.id) =
        [some "1", none, none] ∧
      ((Encounter.start account).go briefTalk).2.2 =
        (Chronicle.of account briefTalk).sessions.flatMap
          (fun log => (log.announcements account).map .ok ++ log.complaint) ∧
      Chronicle.Divided briefTalk (Chronicle.of account briefTalk) :=
  ⟨by decide, by decide +kernel, inbound_of_sessions _ briefTalk (by decide)⟩

end Gadfly.Discord
