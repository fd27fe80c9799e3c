/-
  Gadfly.Proofs.Gateway.Heartbeat

  When a listener sends heartbeats, and when it gives a connection up.

  A heartbeat of the clock (`Log.IsTick`) is due one interval after the greeting, and then one
  interval after the time for which the last one was due, however late it was sent. When one is
  due and the one before it has been acknowledged, or it is the first, it is sent; otherwise the
  session ends in good order (`Log.Unanswered`). A heartbeat that the gateway asks for has no part
  in this.

  Main definitions: `Log.IsTick`, `Log.Unanswered`, `Log.Steady`.
  Main statements: `Tracks.tick_of_pending`, `Tracks.tick_of_not_pending`, `Tracks.request`,
  `heartbeats_of_sessions`.
-/

import Gadfly.Proofs.Gateway.Outbound

namespace Gadfly.Discord

variable {log : Log} {entry : Entry}

/-! ## Unanswered heartbeats -/

/-- The last heartbeat of the clock has not been acknowledged (`isPending`). -/
def Log.Unanswered (log : Log) : Prop :=
  ∃ before beat since, log = before ++ beat :: since ∧ beat.isBeat = true ∧
    ∀ e ∈ since, e.isBeat = false ∧ e.isAcknowledgement = false

theorem Entry.isAcknowledgement_of_isBeat (h : entry.isBeat = true) :
    entry.isAcknowledgement = false :=
  isAcknowledgement_of_frame? (frame?_of_isBeat h)

/-- A heartbeat with no acknowledgement since is pending. -/
theorem Log.isPending_of_beat {before since : Log} {beat : Entry} (hbeat : beat.isBeat = true)
    (hsince : ∀ e ∈ since, e.isAcknowledgement = false) :
    Log.isPending (before ++ beat :: since) = true := by
  induction since using List.reverseRecOn with
  | nil =>
    rw [isPending_append, Entry.isAcknowledgement_of_isBeat hbeat, hbeat]
    exact Bool.or_true _
  | append_singleton since e ih =>
    rw [← List.cons_append, ← List.append_assoc, isPending_append,
      hsince e (List.mem_append_right _ (List.mem_singleton_self e)),
      ih fun e' he' => hsince e' (List.mem_append_left _ he')]
    rfl

theorem Log.isPending_iff : log.isPending = true ↔ log.Unanswered := by
  constructor
  · intro h
    induction log using List.reverseRecOn with
    | nil => cases h
    | append_singleton log e ih =>
      rw [isPending_append] at h
      rcases hack : e.isAcknowledgement with _ | _
      · rcases hbeat : e.isBeat with _ | _
        · rw [hack, hbeat, if_neg Bool.false_ne_true, Bool.or_false] at h
          obtain ⟨before, beat, since, rfl, hisBeat, hsince⟩ := ih h
          refine ⟨before, beat, since ++ [e], by simp, hisBeat, fun e' he' => ?_⟩
          obtain he' | he' := List.mem_append.1 he'
          · exact hsince e' he'
          · rw [List.mem_singleton.1 he']
            exact ⟨hbeat, hack⟩
        · exact ⟨log, e, [], rfl, hbeat, nofun⟩
      · rw [hack, if_pos rfl] at h
        cases h
  · rintro ⟨before, beat, since, rfl, hbeat, hsince⟩
    exact isPending_of_beat hbeat fun e he => (hsince e he).2

/-! ## Ticks -/

/-- An entry is a tick when the clock is looked at and the next heartbeat is due (`nextBeat?`). -/
def Log.IsTick (log : Log) (entry : Entry) : Prop :=
  entry.what = .signal .clock ∧ log.isDue entry.now = true

theorem Log.greeting?_of_isDue {now : Nat} (h : log.isDue now = true) : log.greeting? ≠ none := by
  intro hnone
  rw [not_isDue_of_greeting? hnone] at h
  cases h

/-- A tick while a heartbeat is unanswered ends the session in good order (`Ending.reconnect`). -/
theorem Tracks.tick_of_pending (h : Tracks log entry.phase) (htick : log.IsTick entry)
    (hpending : log.afterGreeting.isPending = true) :
    log.ending? entry = some .reconnect ∧ entry.EndsBy .reconnect := by
  have hending : log.ending? entry = some .reconnect := by
    rw [Log.ending?_clock htick.1, htick.2, hpending]
    rfl
  exact ⟨hending, h.endsBy_of_ending? hending⟩

/-- Every other tick (`Log.IsTick`) sends a heartbeat, and the session goes on. -/
theorem Tracks.tick_of_not_pending (h : Tracks log entry.phase) (htick : log.IsTick entry)
    (hpending : log.afterGreeting.isPending = false) :
    entry.sent = [.heartbeat log.afterGreeting.sequence?] ∧ entry.delivered = [] ∧
      entry.endsSession = false := by
  obtain ⟨session, hphase, htells⟩ := h.exists_session (Log.greeting?_of_isDue htick.2)
  have hdue : session.nextBeat ≤ entry.now := by
    have hisDue := htick.2
    rw [htells.isDue_eq] at hisDue
    exact of_decide_eq_true hisDue
  rw [htells.awaiting] at hpending
  obtain ⟨reaction, hturn, hafter, hsent, hdelivered⟩ := entry.exists_turn htick.1
  rw [hphase] at hturn
  rw [Entry.endsSession, hafter, hsent, hdelivered]
  cases hturn with
  | ended hends =>
    cases hends with
    | unanswered _ hawaiting =>
      rw [hpending] at hawaiting
      cases hawaiting
  | struck _ _ =>
    refine ⟨?_, rfl, Bool.and_false _⟩
    rw [htells.sequence]
    rfl
  | unmoved hunmoved =>
    cases hunmoved with
    | unconnected hnot _ => cases hnot
    | undue hundue => exact absurd hdue (Nat.not_le_of_lt hundue)
    | timeless hphase' => rcases hphase' with hphase' | hphase' | hphase' <;> cases hphase'

/-- Looking at the clock at another time does nothing on a connection. -/
theorem Tracks.untimely (h : Tracks log entry.phase) (hwhat : entry.what = .signal .clock)
    (hdue : log.isDue entry.now = false) :
    entry.sent = [] ∧ entry.delivered = [] ∧ entry.endsSession = false := by
  obtain ⟨reaction, hturn, hafter, hsent, hdelivered⟩ := entry.exists_turn hwhat
  rw [Entry.endsSession, hafter, hsent, hdelivered]
  generalize entry.phase = phase at hturn h
  have hundue {session : Session} (htells : log.Tells session) : ¬session.nextBeat ≤ entry.now := by
    rw [htells.isDue_eq] at hdue
    exact of_decide_eq_false hdue
  cases hturn with
  | ended hends =>
    cases hends with
    | unanswered hdue _ => exact absurd hdue (hundue h)
  | struck hdue _ => exact absurd hdue (hundue h)
  | woken _ => exact ⟨rfl, rfl, rfl⟩
  | unmoved _ => exact ⟨rfl, rfl, Bool.and_not_self _⟩

/-- The clock makes the listener send a heartbeat only when none is unanswered. -/
theorem Tracks.isPending_of_isBeat (h : Tracks log entry.phase) (hbeat : entry.isBeat = true) :
    log.afterGreeting.isPending = false := by
  have hwhat := Entry.what_of_isBeat hbeat
  have hsome : entry.sent ≠ [] := by
    intro hsent
    rw [Entry.isBeat_of_sent hsent] at hbeat
    cases hbeat
  rcases hdue : log.isDue entry.now with _ | _
  · exact absurd (h.untimely hwhat hdue).1 hsome
  · rcases hpending : log.afterGreeting.isPending with _ | _
    · rfl
    · exact absurd (h.tick_of_pending ⟨hwhat, hdue⟩ hpending).2.sent_eq hsome

/-- A heartbeat that the gateway asks for is sent, and leaves open what was open. -/
theorem Tracks.request {frame : Frame} (h : Tracks log entry.phase)
    (hgreeting : log.greeting? ≠ none) (hframe : entry.frame? = some frame)
    (hop : frame.op = opHeartbeat) :
    entry.sent = [.heartbeat (Log.sequence? (log.afterGreeting ++ [entry]))] ∧
      Log.isPending (log.afterGreeting ++ [entry]) = log.afterGreeting.isPending ∧
      ∃ session, entry.phase = .listening session ∧
        entry.after.listener.phase = .listening (session.note frame) := by
  obtain ⟨session, hphase, htells⟩ := h.exists_session hgreeting
  obtain ⟨content, htext, hread⟩ := Option.bind_eq_some_iff.1 hframe
  obtain ⟨hwhat, -⟩ := Entry.what_of_text? htext
  have hquiet : entry.isBeat = false := Entry.isBeat_of_what_ne (by rw [hwhat]; nofun)
  have hnot : entry.isAcknowledgement = false := by
    rw [Entry.isAcknowledgement, hframe, Option.any_some, hop]
    rfl
  obtain ⟨reaction, hturn, hafter, hsent, -⟩ := entry.exists_turn hwhat
  rw [hphase] at hturn
  have hsame {frame' : Frame} (hread' : readFrame? content = some frame') : frame' = frame := by
    rw [hread, Option.some.injEq] at hread'
    exact hread'.symm
  suffices hreaction : reaction = Moment.goOn entry.before.listener.backoff (session.note frame)
      [.heartbeat (session.note frame).sequence] [] by
    refine ⟨?_, ?_, session, hphase, by rw [hafter, hreaction]; rfl⟩
    · rw [hsent, hreaction, Log.sequence?_append, htells.sequence, hframe]
      rfl
    · rw [Log.isPending_append, hnot, hquiet, Bool.or_false, if_neg Bool.false_ne_true]
  -- A frame has one operation, and for this one there is one thing to do.
  cases hturn with
  | ended hends =>
    cases hends with
    | dismissed hread' hop' =>
      rw [hsame hread', hop] at hop'
      exact absurd hop' (by decide)
    | deserted hmessage _ =>
      obtain ⟨frame', hread', hop'⟩ := exists_frame_of_announcement? hmessage
      rw [hsame hread', hop] at hop'
      cases hop'
  | announced hread' hop' _ _ =>
    rw [hsame hread', hop] at hop'
    cases hop'
  | requested hread' _ => rw [hsame hread']
  | acknowledged hread' hop' =>
    rw [hsame hread', hop] at hop'
    cases hop'
  | noted hread' _ hop' _ _ =>
    rw [hsame hread'] at hop'
    exact absurd hop hop'
  | unmoved hunmoved =>
    cases hunmoved with
    | unconnected hnot _ => cases hnot
    | garbled hnone =>
      rw [hread] at hnone
      cases hnone

/-! ## The heartbeats of a session -/

/-- Acknowledgements that came after the greeting. -/
def Log.acknowledgements (log : Log) : Nat := log.countP Entry.isAcknowledgement

/-- Heartbeats of the clock alternate with acknowledgements: between two of them there is one, and
there is one heartbeat more at most, which is then unanswered. -/
structure Log.Paced (log : Log) : Prop where
  answered : ∀ before first between second,
    before ++ first :: between ++ [second] <+: log.afterGreeting →
    first.isBeat = true → second.isBeat = true → ∃ e ∈ between, e.isAcknowledgement = true
  counted : log.afterGreeting.beats ≤
    log.afterGreeting.acknowledgements + if log.afterGreeting.isPending then 1 else 0

theorem Log.paced_of_afterGreeting_eq_nil (h : log.afterGreeting = []) : log.Paced := by
  refine ⟨fun before first between second hstart => ?_, ?_⟩
  · rw [h] at hstart
    have hnil := List.prefix_nil.1 hstart
    exact absurd hnil (List.append_ne_nil_of_right_ne_nil _ (List.cons_ne_nil _ _))
  · rw [h]
    exact Nat.zero_le _

theorem Log.Paced.append (h : log.Paced) (htracks : Tracks log entry.phase) :
    Log.Paced (log ++ [entry]) := by
  rcases hgreeting : log.greeting? with _ | hello
  · exact Log.paced_of_afterGreeting_eq_nil (Log.afterGreeting_append_of_none hgreeting entry)
  have hafter := Log.afterGreeting_append_of_some hgreeting entry
  refine ⟨fun before first between second hstart hfirst hsecond => ?_, ?_⟩
  · rw [hafter] at hstart
    -- If the second heartbeat is the new entry, none was pending when it came.
    obtain hlast | hearlier := List.prefix_concat_iff.1 hstart
    · obtain ⟨hlog, he⟩ := List.append_inj' hlast rfl
      obtain rfl : second = entry := (List.cons.inj he).1
      by_contra hnone
      have hpending : Log.isPending (before ++ first :: between) = true :=
        Log.isPending_of_beat hfirst fun e he => eq_false_of_ne_true fun hack => hnone ⟨e, he, hack⟩
      rw [hlog, htracks.isPending_of_isBeat hsecond] at hpending
      cases hpending
    · exact h.answered before first between second hearlier hfirst hsecond
  · have hcounted := h.counted
    rw [hafter, Log.beats_append, Log.isPending_append, Log.acknowledgements, List.countP_append,
      List.countP_singleton]
    rw [Log.acknowledgements] at hcounted
    -- The counts change with a heartbeat or an acknowledgement only, and never with both.
    rcases hbeat : entry.isBeat with _ | _
    · rcases hack : entry.isAcknowledgement with _ | _
      · simpa using hcounted
      · have hle : (if log.afterGreeting.isPending then 1 else 0) ≤ 1 := by split <;> omega
        simp only [Bool.false_eq_true, if_false, if_true]
        omega
    · rw [htracks.isPending_of_isBeat hbeat] at hcounted
      simp only [Bool.false_eq_true, if_false] at hcounted
      rw [Entry.isAcknowledgement_of_isBeat hbeat, Bool.or_true]
      simp only [Bool.false_eq_true, if_false, if_true]
      omega

/-- What there is to say of the heartbeats of a session: one has to be acknowledged before the next
is sent, a tick (`IsTick`) that finds one unanswered ends the session, and those that the gateway
asks for do not count. -/
structure Log.Steady (log : Log) : Prop where
  /-- Between two heartbeats of the clock one has been acknowledged. -/
  answered : ∀ before first between second,
    before ++ first :: between ++ [second] <+: log.afterGreeting →
    first.isBeat = true → second.isBeat = true → ∃ e ∈ between, e.isAcknowledgement = true
  bounded : log.afterGreeting.beats ≤ log.afterGreeting.acknowledgements + 1
  /-- A tick that finds the last heartbeat of the clock unanswered sends nothing, delivers nothing
  and ends the session in good order: the next attempt comes after a second. -/
  unanswered : ∀ (past : Log) (entry : Entry), past ++ [entry] <+: log →
    past.IsTick entry → past.afterGreeting.Unanswered →
    entry.sent = [] ∧ entry.delivered = [] ∧ entry.endsSession = true ∧
      past.ending? entry = some .reconnect ∧
      entry.after.listener.phase = .resting (entry.now + 1000)
  /-- Every other tick sends one heartbeat and the session goes on. -/
  struck : ∀ (past : Log) (entry : Entry), past ++ [entry] <+: log →
    past.IsTick entry → ¬past.afterGreeting.Unanswered →
    entry.sent = [.heartbeat past.afterGreeting.sequence?] ∧ entry.delivered = [] ∧
      entry.endsSession = false
  /-- Looking at the clock between ticks does nothing. -/
  untimely : ∀ (past : Log) (entry : Entry), past ++ [entry] <+: log →
    entry.what = .signal .clock → ¬past.IsTick entry →
    entry.sent = [] ∧ entry.delivered = [] ∧ entry.endsSession = false
  /-- A heartbeat that the gateway asks for is sent, and neither makes an acknowledgement due nor
  takes the place of one. -/
  requested : ∀ (past : Log) (entry : Entry) (frame : Frame), past ++ [entry] <+: log →
    past.greeting? ≠ none → entry.frame? = some frame → frame.op = 1 →
    entry.sent = [.heartbeat (Log.sequence? (past.afterGreeting ++ [entry]))] ∧
      (Log.Unanswered (past.afterGreeting ++ [entry]) ↔ past.afterGreeting.Unanswered) ∧
      ∃ session session', entry.phase = .listening session ∧
        entry.after.listener.phase = .listening session' ∧ session'.awaiting = session.awaiting

/-- In every session of every run the heartbeats are as they should be (`Log.Steady`). -/
theorem heartbeats_of_sessions (account : Account) (happenings : List Happening) :
    ∀ log ∈ (Chronicle.of account happenings).sessions, Log.Steady log := by
  intro log hlog
  have hpaced : log.Paced :=
    Chronicle.forall_sessions (Log.paced_of_afterGreeting_eq_nil rfl)
      (fun _ _ _ htracks h => h.append htracks) happenings log hlog
  -- At each entry the listener knows what the log before it tells; the rest is about one entry.
  have htracks (past : Log) (entry : Entry) (hstart : past ++ [entry] <+: log) :
      Tracks past entry.phase :=
    (Chronicle.tracks_of_at ⟨log, hlog, hstart⟩).2
  refine ⟨hpaced.answered, ?_, ?_, ?_, ?_, ?_⟩
  · refine hpaced.counted.trans (Nat.add_le_add_left ?_ _)
    split <;> omega
  · intro past entry hstart htick hunanswered
    obtain ⟨hending, hends⟩ :=
      (htracks past entry hstart).tick_of_pending htick (Log.isPending_iff.2 hunanswered)
    refine ⟨hends.sent_eq, hends.delivered_eq, hends.endsSession, hending, ?_⟩
    rw [hends.after_eq]
    rfl
  · intro past entry hstart htick hanswered
    exact (htracks past entry hstart).tick_of_not_pending htick
      (eq_false_of_ne_true fun hpending => hanswered (Log.isPending_iff.1 hpending))
  · intro past entry hstart hwhat hnot
    exact (htracks past entry hstart).untimely hwhat
      (eq_false_of_ne_true fun hdue => hnot ⟨hwhat, hdue⟩)
  · intro past entry frame hstart hgreeting hframe hop
    obtain ⟨hsent, hpending, session, hphase, hafter⟩ :=
      (htracks past entry hstart).request hgreeting hframe hop
    refine ⟨hsent, ?_, session, _, hphase, hafter, rfl⟩
    rw [← Log.isPending_iff, ← Log.isPending_iff, hpending]

/-- A session with a jump over two intervals, in which a heartbeat is asked for and none is
acknowledged. -/
def silentGateway : List Happening :=
  [.signal .accepted, .signal (.text "\x7b\"op\":10,\"d\":\x7b\"heartbeat_interval\":1000\x7d\x7d"),
    .elapse 2500, .signal .clock, .signal (.text "\x7b\"op\":1,\"s\":7\x7d"), .signal .clock]

theorem heartbeats_of_silent_gateway :
    let sessions := (Chronicle.of ⟨"token", "", "", 1, []⟩ silentGateway).sessions
    ∃ log ∈ sessions,
      log.sent = [.identify "token" 1, .heartbeat none, .heartbeat (some 7)] ∧
        log.afterGreeting.beats = 1 ∧ log.afterGreeting.Unanswered ∧ Log.Steady log := by
  have hmem := List.head_mem (l := (Chronicle.of ⟨"token", "", "", 1, []⟩ silentGateway).sessions)
    (by decide +kernel)
  refine ⟨_, hmem, by decide +kernel, by decide +kernel, ?_, heartbeats_of_sessions _ _ _ hmem⟩
  rw [← Log.isPending_iff]
  decide +kernel

end Gadfly.Discord
