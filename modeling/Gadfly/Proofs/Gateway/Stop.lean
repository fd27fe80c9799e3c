/-
  Gadfly.Proofs.Gateway.Stop

  When a listener stops.

  A listener `Stops` when it is told to, when nobody takes what it wants to deliver, and when a
  connection is closed after the greeting in a way that makes trying again pointless. In the last
  case that is what it tells last (`dismissal`). Whoever has stopped does nothing any more.

  Main definitions: `Stops`, `dismissal`.
  Main statements: `Tracks.over_iff`, `Chronicle.over_iff`, `Chronicle.dismissed_of`.
-/

import Gadfly.Proofs.Gateway.Inbound

namespace Gadfly.Discord

variable {account : Account} {log : Log} {entry : Entry}

/-! ## Why a listener stops -/

/-- The codes of closing after which trying again is pointless. -/
def pointlessCodes : List Nat := [4004, 4010, 4011, 4012, 4013, 4014]

/-- After the greeting the connection is closed with such a code. -/
structure Log.ClosedFor (log : Log) (entry : Entry) (code : Nat) : Prop where
  greeted : log.greeting? ≠ none
  connected : entry.phase.isConnected = true
  closed : entry.what = .signal (.closed (some code))
  pointless : code ∈ pointlessCodes

/-- The reasons for which a listener stops. -/
inductive Stops (account : Account) (log : Log) (entry : Entry) : Prop
  | told (h : entry.what = .stop)
  | deserted (htaken : entry.before.taken = false) (hoffers : log.offers account entry ≠ [])
  | pointless {code : Nat} (h : log.ClosedFor entry code)

theorem isFatalCode_iff (code : Nat) : isFatalCode code = true ↔ code ∈ pointlessCodes := by
  simp only [isFatalCode, pointlessCodes, Bool.or_eq_true, beq_iff_eq, Bool.and_eq_true,
    decide_eq_true_eq, List.mem_cons, List.not_mem_nil, or_false]
  omega

/-- What is told of a connection that is closed with such a code. -/
def dismissal (code : Nat) : TransportFault :=
  .unauthorized ("gateway closed with code " ++ toString code)

/-- A connection is closed in good order, or with such a code. -/
theorem Moment.closing_cases (code : Option Nat) :
    Moment.closing code = .reconnect ∨
      ∃ n, code = some n ∧ n ∈ pointlessCodes ∧
        Moment.closing code = .fatal (dismissal n) := by
  cases code with
  | none => exact .inl rfl
  | some n =>
    rw [closing]
    by_cases hfatal : isFatalCode n = true
    · exact .inr ⟨n, rfl, (isFatalCode_iff n).1 hfatal, if_pos hfatal⟩
    · exact .inl (if_neg hfatal)

theorem Log.ClosedFor.ending?_eq {code : Nat} (h : log.ClosedFor entry code) :
    log.ending? entry = some (.fatal (dismissal code)) := by
  rw [Log.ending?_incoming h.closed rfl, if_pos h.connected,
    if_pos (Option.isSome_iff_ne_none.2 h.greeted), lateEnding?, Moment.closing,
    if_pos ((isFatalCode_iff code).2 h.pointless)]
  rfl

/-- An end that is pointless to follow by another attempt is such a closing. -/
theorem Entry.EndsBy.exists_closedFor {fault : TransportFault} (htracks : Tracks log entry.phase)
    (h : entry.EndsBy (.fatal fault)) :
    ∃ code, log.ClosedFor entry code ∧ fault = dismissal code := by
  obtain ⟨signal, hwhat, hends⟩ := h.ends
  generalize hending : Ending.fatal fault = ending at hends
  generalize hphase : entry.phase = phase at hends htracks
  cases hends with
  | closed session code =>
    obtain hclosing | ⟨n, rfl, hpointless, hclosing⟩ := Moment.closing_cases code
    · rw [hclosing] at hending
      cases hending
    · rw [hclosing, Ending.fatal.injEq] at hending
      refine ⟨n, ⟨?_, by rw [hphase]; rfl, hwhat, hpointless⟩, hending⟩
      exact Option.isSome_iff_ne_none.1 htracks.isSome_greeting?
  | _ => cases hending

/-- Whoever has stopped does nothing any more. -/
theorem Entry.idle_of_over (h : entry.phase = .over) :
    entry.after.listener.phase = .over ∧ entry.sent = [] ∧ entry.delivered = [] := by
  obtain ⟨signal, hwhat⟩ | ⟨-, -, hsame, hsilent⟩ | ⟨-, hstopped, hsilent⟩ :=
    entry.signal_or_idle_or_stop
  · obtain ⟨reaction, hturn, hafter, hsent, hdelivered⟩ := entry.exists_turn hwhat
    rw [hafter, hsent, hdelivered]
    rw [h] at hturn
    cases hturn with
    | ended hends => cases hends
    | unmoved _ => exact ⟨rfl, rfl, rfl⟩
  · rw [hsame]
    exact ⟨h, hsilent⟩
  · rw [hstopped]
    exact ⟨rfl, hsilent⟩

/-- What cannot be delivered ends the session, and not in good order. -/
theorem Tracks.ending?_of_deserted (h : Tracks log entry.phase)
    (htaken : entry.before.taken = false) (hoffers : log.offers entry.before.account entry ≠ []) :
    ∃ ending, log.ending? entry = some ending ∧ ending ≠ .reconnect := by
  rcases hmessage : log.announced? entry.before.account entry with _ | message
  · rcases hending : log.ending? entry with _ | ending
    · rw [Log.offers, hmessage, hending] at hoffers
      exact absurd rfl hoffers
    · refine ⟨ending, rfl, ?_⟩
      rintro rfl
      rw [Log.offers, hmessage, hending] at hoffers
      exact hoffers rfl
  · -- A message has come after the greeting.
    rw [Log.announced?] at hmessage
    split at hmessage
    · rename_i hgreeting
      obtain ⟨content, htext, hannounced⟩ := Option.bind_eq_some_iff.1 hmessage
      obtain ⟨hwhat, hconnected⟩ := Entry.what_of_text? htext
      obtain ⟨session, hphase, htells⟩ := h.exists_session (Option.isSome_iff_ne_none.1 hgreeting)
      exact ⟨.deserted, h.ending?_of_ends hwhat (hphase ▸ .deserted hannounced htaken),
        by rintro ⟨⟩⟩
    · cases hmessage

/-- The end of a session stops the listener unless it is in good order, or somebody takes the
failure and it makes sense to try again. -/
theorem Moment.over_conclude (moment : Moment) (backoff : Nat) (sent : List Outgoing)
    (ending : Ending) :
    (moment.conclude backoff sent ending).listener.phase = .over ↔
      ending ≠ .reconnect ∧ (moment.taken = true → ∀ fault, ending ≠ .failed fault) := by
  cases ending with
  | reconnect => exact ⟨by rintro ⟨⟩, fun h => absurd rfl h.1⟩
  | failed fault =>
    rw [Moment.conclude]
    cases moment.taken with
    | false => exact ⟨fun _ => ⟨by rintro ⟨⟩, by rintro ⟨⟩⟩, fun _ => rfl⟩
    | true => exact ⟨by rintro ⟨⟩, fun h => absurd rfl (h.2 rfl fault)⟩
  | fatal fault => exact ⟨fun _ => ⟨by rintro ⟨⟩, by rintro _ _ ⟨⟩⟩, fun _ => rfl⟩
  | deserted => exact ⟨fun _ => ⟨by rintro ⟨⟩, by rintro _ _ ⟨⟩⟩, fun _ => rfl⟩

theorem Entry.EndsBy.over_iff {ending : Ending} (h : entry.EndsBy ending) :
    entry.after.listener.phase = .over ↔
      ending ≠ .reconnect ∧ (entry.before.taken = true → ∀ fault, ending ≠ .failed fault) := by
  rw [h.after_eq]
  exact Moment.over_conclude _ _ _ _

/-- While a session goes on, or none is there, nobody stops but who is told to. -/
theorem Entry.not_over_of_goes_on (hends : entry.endsSession = false) (hne : entry.phase ≠ .over)
    (hstop : entry.what ≠ .stop) : entry.after.listener.phase ≠ .over := by
  obtain ⟨signal, hwhat⟩ | ⟨-, -, hsame, -⟩ | ⟨hwhat, -⟩ := entry.signal_or_idle_or_stop
  · obtain ⟨reaction, hturn, hafter, -, -⟩ := entry.exists_turn hwhat
    generalize hphase : entry.phase = phase at hturn hne
    rw [hafter]
    cases hturn with
    | ended hend =>
      exact absurd (hphase ▸ hend) (entry.not_ends hends (congrArg Encounter.listener hafter))
    | unmoved _ => exact hne
    | _ => nofun
  · rw [hsame]
    exact hne
  · exact absurd hwhat hstop

theorem Entry.EndsBy.offers_of_deserted (htracks : Tracks log entry.phase)
    (h : entry.EndsBy .deserted) :
    entry.before.taken = false ∧ log.offers entry.before.account entry ≠ [] := by
  obtain ⟨signal, hwhat, hends⟩ := h.ends
  generalize hending : Ending.deserted = ending at hends
  generalize hphase : entry.phase = phase at hends htracks
  cases hends with
  | @deserted session content message hmessage htaken =>
    refine ⟨htaken, ?_⟩
    have hannounced : log.announced? entry.before.account entry = some message :=
      (htracks.announced?_eq hphase hwhat).trans hmessage
    rw [Log.offers, hannounced]
    exact List.cons_ne_nil _ _
  | closed session code =>
    obtain hclosing | ⟨n, -, -, hclosing⟩ := Moment.closing_cases code
    · rw [hclosing] at hending
      cases hending
    · rw [hclosing] at hending
      cases hending
  | _ => cases hending

/-- A listener stops for one of the reasons (`Stops`), and for each of them. -/
theorem Tracks.over_iff (h : Tracks log entry.phase) (hne : entry.phase ≠ .over) :
    entry.after.listener.phase = .over ↔ Stops entry.before.account log entry := by
  constructor
  · intro hover
    -- Each ending that stops the listener has its reason, and without an ending it was told to.
    obtain ⟨ending, hending, hends⟩ | ⟨-, hgoesOn | hstop⟩ := h.ends_or_goes_on
    · obtain ⟨hreconnect, hfailed⟩ := hends.over_iff.1 hover
      cases ending with
      | reconnect => exact absurd rfl hreconnect
      | failed fault =>
        have htaken : entry.before.taken = false :=
          eq_false_of_ne_true fun htaken => hfailed htaken fault rfl
        refine .deserted htaken ?_
        rw [Log.offers, hending]
        exact List.append_ne_nil_of_right_ne_nil _ (List.cons_ne_nil _ _)
      | fatal fault =>
        obtain ⟨code, hclosed, -⟩ := hends.exists_closedFor h
        exact .pointless hclosed
      | deserted =>
        obtain ⟨htaken, hoffers⟩ := hends.offers_of_deserted h
        exact .deserted htaken hoffers
    · by_cases hstop : entry.what = .stop
      · exact .told hstop
      · exact absurd hover (entry.not_over_of_goes_on hgoesOn hne hstop)
    · exact .told hstop
  · intro hstops
    cases hstops with
    | told hwhat =>
      rw [Entry.after, hwhat]
      rfl
    | deserted htaken hoffers =>
      obtain ⟨ending, hending, hreconnect⟩ := h.ending?_of_deserted htaken hoffers
      refine (h.endsBy_of_ending? hending).over_iff.2 ⟨hreconnect, fun htaken' => ?_⟩
      rw [htaken] at htaken'
      cases htaken'
    | pointless hclosed =>
      exact (h.endsBy_of_ending? hclosed.ending?_eq).over_iff.2 ⟨by rintro ⟨⟩, by rintro _ _ ⟨⟩⟩

/-- A listener has stopped just if there was a reason (`Stops`). -/
theorem Chronicle.over_iff (account : Account) (happenings : List Happening) :
    (Chronicle.of account happenings).encounter.listener.phase = .over ↔
      ∃ past entry, (Chronicle.of account happenings).At past entry ∧ Stops account past entry := by
  -- From the end of the run: what has happened before is the chronicle that the last entry is added
  -- to.
  induction happenings using List.reverseRecOn with
  | nil =>
    refine ⟨nofun, ?_⟩
    rintro ⟨past, entry, hat, -⟩
    exact absurd hat (Chronicle.not_at_start account past entry)
  | append_singleton happenings happening ih =>
    have hsound := Chronicle.sound_of account happenings
    rw [Chronicle.of_append, Chronicle.encounter_record]
    generalize Chronicle.of account happenings = c at ih hsound
    by_cases hover : (c.next happening).phase = .over
    · -- It had stopped before, and the reason is still there.
      obtain ⟨past, entry, hat, hstops⟩ := ih.1 hover
      exact ⟨fun _ => ⟨past, entry, Chronicle.at_record_iff.2 (.inl hat), hstops⟩,
        fun _ => (Entry.idle_of_over hover).1⟩
    · have htracks : Tracks c.current (c.next happening).phase := hsound.tracks
      have haccount : (c.next happening).before.account = account := hsound.account_eq
      rw [htracks.over_iff hover, haccount]
      constructor
      · intro hstops
        exact ⟨_, _, Chronicle.at_record_iff.2 (.inr ⟨rfl, rfl⟩), hstops⟩
      · rintro ⟨past, entry, hat, hstops⟩
        obtain hearlier | ⟨rfl, rfl⟩ := Chronicle.at_record_iff.1 hat
        · exact absurd (ih.2 ⟨past, entry, hearlier, hstops⟩) hover
        · exact hstops

/-! ## What is told last -/

/-- A session that fails does not fail for want of authority. -/
theorem Ends.ne_unauthorized {moment : Moment} {phase : Phase} {signal : Signal} {text : String}
    (h : Ends moment phase signal (.failed (.unauthorized text))) : False := by
  generalize hending : Ending.failed (.unauthorized text) = ending at h
  cases h with
  | closed session code =>
    obtain hclosing | ⟨n, -, -, hclosing⟩ := Moment.closing_cases code
    · rw [hclosing] at hending
      cases hending
    · rw [hclosing] at hending
      cases hending
  | _ => cases hending

/-- Whoever tells of a want of authority stops. -/
theorem Tracks.over_of_unauthorized {text : String} (h : Tracks log entry.phase)
    (hmem : .error (.unauthorized text) ∈ entry.delivered) :
    entry.after.listener.phase = .over := by
  obtain ⟨ending, -, hended⟩ | ⟨-, hgoesOn⟩ := h.ends_or_goes_on
  · refine hended.over_iff.2 ?_
    rw [hended.delivered_eq] at hmem
    cases ending with
    | reconnect => cases hmem
    | failed fault =>
      refine ⟨nofun, fun htaken => ?_⟩
      rw [Moment.delivered_conclude htaken] at hmem
      obtain ⟨rfl⟩ := Except.error.inj (List.mem_singleton.1 hmem)
      obtain ⟨signal, -, hends⟩ := hended.ends
      exact hends.ne_unauthorized.elim
    | fatal fault => exact ⟨nofun, fun _ => nofun⟩
    | deserted => cases hmem
  · -- Where the session goes on, nothing but messages is delivered.
    obtain ⟨signal, hwhat⟩ | ⟨-, hsilent⟩ := entry.signal_or_silent
    · obtain hends | hstop := hgoesOn
      · rw [h.delivered_of_goes_on hwhat hends, List.mem_map] at hmem
        obtain ⟨message, -, hmessage⟩ := hmem
        cases hmessage
      · rw [hwhat] at hstop
        cases hstop
    · rw [hsilent] at hmem
      cases hmem

/-- What is told of a connection that was closed for good, is told last and once. -/
structure Chronicle.Dismissed (c : Chronicle) : Prop where
  /-- A listener that has not stopped has told of no want of authority. -/
  unsaid : c.encounter.listener.phase ≠ .over →
    ∀ text, .error (.unauthorized text) ∉ Log.delivered c.sessions.flatten
  said : ∀ past entry code, c.At past entry → past.ClosedFor entry code →
    entry.before.taken = true →
    ∃ items, Log.delivered c.sessions.flatten = items ++ [.error (dismissal code)] ∧
      ∀ text, .error (.unauthorized text) ∉ items

theorem Log.ClosedFor.delivered_eq {code : Nat} (h : log.ClosedFor entry code)
    (htracks : Tracks log entry.phase) (htaken : entry.before.taken = true) :
    entry.delivered = [.error (dismissal code)] := by
  rw [(htracks.endsBy_of_ending? h.ending?_eq).delivered_eq, Moment.delivered_conclude htaken]
  rfl

theorem Chronicle.dismissed_of (account : Account) (happenings : List Happening) :
    (Chronicle.of account happenings).Dismissed := by
  induction happenings using List.reverseRecOn with
  | nil =>
    refine ⟨fun _ _ => nofun, fun past entry code hat => ?_⟩
    exact absurd hat (Chronicle.not_at_start account past entry)
  | append_singleton happenings happening ih =>
    have hsound := Chronicle.sound_of account happenings
    have hiff := Chronicle.over_iff account happenings
    rw [Chronicle.of_append]
    generalize Chronicle.of account happenings = c at ih hsound hiff
    have htracks : Tracks c.current (c.next happening).phase := hsound.tracks
    refine ⟨?_, ?_⟩
    · rw [Chronicle.encounter_record, Chronicle.flatten_sessions_record, Log.delivered_append,
        Log.delivered_singleton]
      intro hover text hmem
      obtain hmem | hmem := List.mem_append.1 hmem
      · refine ih.unsaid (fun hbefore => hover ?_) text hmem
        exact (Entry.idle_of_over (show (c.next happening).phase = .over from hbefore)).1
      · exact hover (htracks.over_of_unauthorized hmem)
    · rw [Chronicle.flatten_sessions_record, Log.delivered_append, Log.delivered_singleton]
      intro past entry code hat hclosed htaken
      obtain hearlier | ⟨rfl, rfl⟩ := Chronicle.at_record_iff.1 hat
      · -- Nothing is told after it.
        have hover : (c.next happening).phase = .over :=
          hiff.2 ⟨past, entry, hearlier, .pointless hclosed⟩
        rw [(Entry.idle_of_over hover).2.2, List.append_nil]
        exact ih.said past entry code hearlier hclosed htaken
      · refine ⟨_, congrArg _ (hclosed.delivered_eq htracks htaken), ih.unsaid ?_⟩
        intro hover
        have hconnected := hclosed.connected
        rw [show (c.next happening).phase = .over from hover] at hconnected
        cases hconnected

/-! ## After the end -/

/-- Whatever happens to a listener that has stopped, it does nothing any more. -/
theorem Encounter.go_of_over {e : Encounter} (h : e.listener.phase = .over)
    (happenings : List Happening) :
    (e.go happenings).1.listener.phase = .over ∧ (e.go happenings).2 = ([], []) := by
  induction happenings generalizing e with
  | nil => exact ⟨h, rfl⟩
  | cons happening rest ih =>
    obtain ⟨hover, hsent, hdelivered⟩ :=
      Entry.idle_of_over (show (Entry.mk e happening).phase = .over from h)
    obtain ⟨hrest, hsilent⟩ := ih hover
    refine ⟨hrest, ?_⟩
    simp only [Encounter.go_cons, hsent, hdelivered, hsilent, List.append_nil]

end Gadfly.Discord
