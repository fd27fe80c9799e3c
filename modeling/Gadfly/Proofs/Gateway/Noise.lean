/-
  Gadfly.Proofs.Gateway.Noise

  Frames that say nothing.

  A gateway may send what the listener cannot read or has no use for (`Happening.IsNoise`): binary
  frames, texts that are no frames, frames with an unknown operation, and dispatches that announce
  no message. As long as such a frame has no running number, a listener that has been greeted goes
  on as if it had not come. So noise can be put into a run at any point at which no greeting is
  awaited (`Noisy`), and all else in the chronicle of the run stays what it was: every entry is
  found again, in the same session, at the same time and with the same consequences.

  Main definitions: `Happening.IsNoise`, `Padded`, `Chronicle.Settled`, `Noisy`, `Entry.Inert`.
  Main statements: `Entry.inert_of_isNoise`, `Noisy.resembles`, `Noisy.append_padded`,
  `noise_changes_nothing`.
-/

import Mathlib.Data.List.Forall2
import Gadfly.Proofs.Gateway.Session

namespace Gadfly.Discord

/-! ## Noise -/

/-- What says nothing to a listener that has been greeted. -/
inductive Happening.IsNoise : Happening → Prop
  | garbled {content : String} (hread : readFrame? content = none) :
      IsNoise (.signal (.text content))
  | binary : IsNoise (.signal .binary)
  | unknown {content : String} {frame : Frame} (hread : readFrame? content = some frame)
      (hsequence : frame.sequence = none) (hop : frame.op ∉ [0, 1, 7, 9, 11]) :
      IsNoise (.signal (.text content))
  | irrelevant {content : String} {frame : Frame} (hread : readFrame? content = some frame)
      (hsequence : frame.sequence = none) (hop : frame.op = 0)
      (hpost : frame.name ≠ some "MESSAGE_CREATE" ∨ Post.ofJson? frame.data = none) :
      IsNoise (.signal (.text content))

variable {account : Account} {entry : Entry} {content : String} {frame : Frame}

/-- A frame that is noise brings neither a running number nor a message, and asks for nothing. -/
theorem Happening.IsNoise.of_frame (h : IsNoise (.signal (.text content)))
    (account : Account) (hread : readFrame? content = some frame) :
    frame.sequence = none ∧ frame.op ∉ [1, 7, 9, 11] ∧ announcement? account content = none := by
  generalize hwhat : Happening.signal (.text content) = what at h
  cases h with
  | garbled hnone =>
    cases hwhat
    rw [hread] at hnone
    cases hnone
  | binary => cases hwhat
  | unknown hread' hsequence hop =>
    cases hwhat
    obtain rfl := Option.some.inj (hread.symm.trans hread')
    rw [List.mem_cons, not_or] at hop
    exact ⟨hsequence, hop.2, announcement?_of_op_ne hread hop.1⟩
  | irrelevant hread' hsequence hop hpost =>
    cases hwhat
    obtain rfl := Option.some.inj (hread.symm.trans hread')
    refine ⟨hsequence, by rw [hop]; decide, ?_⟩
    rw [announcement?_of_op_eq account hread hop, announced?]
    obtain hname | hdata := hpost
    · rw [if_neg hname]
      rfl
    · rw [hdata, Option.map_none, ite_self]
      rfl

/-- Noise does not end a session. -/
theorem Ends.not_isNoise {moment : Moment} {phase : Phase} {signal : Signal} {ending : Ending}
    (h : Ends moment phase signal ending) (hphase : phase ≠ .greeting) :
    ¬Happening.IsNoise (.signal signal) := by
  intro hnoise
  cases h with
  | dismissed hread hop =>
    obtain ⟨-, hnone, -⟩ := hnoise.of_frame moment.account hread
    obtain hop | hop := hop <;> exact hnone (by rw [hop]; decide)
  | deserted hmessage _ =>
    obtain ⟨frame, hread, -⟩ := exists_frame_of_announcement? hmessage
    rw [(hnoise.of_frame moment.account hread).2.2] at hmessage
    cases hmessage
  | unreadable _ => exact hphase rfl
  | unmeasured _ _ _ => exact hphase rfl
  | _ => cases hnoise

/-- Unless a greeting is awaited, noise leaves the listener as it was. -/
theorem Turn.eq_of_isNoise {moment : Moment} {backoff : Nat} {phase : Phase} {signal : Signal}
    {reaction : Reaction} (h : Turn moment backoff phase signal reaction)
    (hphase : phase ≠ .greeting) (hnoise : Happening.IsNoise (.signal signal)) :
    reaction = ⟨⟨phase, backoff⟩, [], []⟩ := by
  cases h with
  | ended hends => exact absurd hnoise (hends.not_isNoise hphase)
  | greeted _ => exact absurd rfl hphase
  | announced hread _ hmessage _ =>
    rw [(hnoise.of_frame moment.account hread).2.2] at hmessage
    cases hmessage
  | requested hread hop =>
    obtain ⟨-, hnone, -⟩ := hnoise.of_frame moment.account hread
    exact absurd (by rw [hop]; decide) hnone
  | acknowledged hread hop =>
    obtain ⟨-, hnone, -⟩ := hnoise.of_frame moment.account hread
    exact absurd (by rw [hop]; decide) hnone
  | @noted session _ frame hread _ _ _ _ =>
    -- The frame is noted, but has no running number.
    obtain ⟨hsequence, -, -⟩ := hnoise.of_frame moment.account hread
    have hsame : session.note frame = session := by rw [Session.note, hsequence, Option.none_or]
    rw [hsame]
    rfl
  | unmoved _ => rfl
  | _ => cases hnoise

/-- Upon which nothing is sent, nothing is delivered and nothing changes. -/
structure Entry.Inert (entry : Entry) : Prop where
  isNoise : entry.what.IsNoise
  after_eq : entry.after = entry.before
  sent_eq : entry.sent = []
  delivered_eq : entry.delivered = []

theorem Entry.inert_of_isNoise (hnoise : entry.what.IsNoise) (hphase : entry.phase ≠ .greeting) :
    entry.Inert := by
  have hsignal : ∃ signal, entry.what = .signal signal := by
    generalize entry.what = what at hnoise
    cases hnoise <;> exact ⟨_, rfl⟩
  obtain ⟨signal, hwhat⟩ := hsignal
  obtain ⟨reaction, hturn, hafter, hsent, hdelivered⟩ := entry.exists_turn hwhat
  obtain rfl := hturn.eq_of_isNoise hphase (hwhat ▸ hnoise)
  exact ⟨hnoise, hafter, hsent, hdelivered⟩

theorem Entry.Inert.endsSession_eq (h : entry.Inert) : entry.endsSession = false := by
  rw [Entry.endsSession, h.after_eq, Entry.phase, Bool.and_not_self]

/-! ## Lists with noise in them -/

/-- A list, and the same list with some more elements of a kind put in. -/
inductive Padded {α : Type} (P : α → Prop) : List α → List α → Prop
  | nil : Padded P [] []
  | same (a : α) {plain padded : List α} (rest : Padded P plain padded) :
      Padded P (a :: plain) (a :: padded)
  | extra {a : α} (ha : P a) {plain padded : List α} (rest : Padded P plain padded) :
      Padded P plain (a :: padded)

namespace Padded

variable {α : Type} {P : α → Prop} {plain padded plain' padded' : List α}

theorem refl (list : List α) : Padded P list list := by
  induction list with
  | nil => exact .nil
  | cons a list ih => exact .same a ih

theorem append (h : Padded P plain padded) (h' : Padded P plain' padded') :
    Padded P (plain ++ plain') (padded ++ padded') := by
  induction h with
  | nil => exact h'
  | same a _ ih => exact .same a ih
  | extra ha _ ih => exact .extra ha ih

theorem flatten {plain padded : List (List α)} (h : List.Forall₂ (Padded P) plain padded) :
    Padded P plain.flatten padded.flatten := by
  induction h with
  | nil => exact .nil
  | cons hfirst _ ih => exact hfirst.append ih

/-- Elements of which a function makes nothing can be put in without a trace. -/
theorem flatMap_eq {β : Type} {f : α → List β} (h : Padded P plain padded)
    (hf : ∀ a, P a → f a = []) : padded.flatMap f = plain.flatMap f := by
  induction h with
  | nil => rfl
  | same a _ ih => rw [List.flatMap_cons, List.flatMap_cons, ih]
  | extra ha _ ih => rw [List.flatMap_cons, hf _ ha, ih, List.nil_append]

end Padded

/-! ## Runs with noise in them -/

/-- No greeting is awaited: it has come, or there is no connection. -/
def Chronicle.Settled (c : Chronicle) : Prop :=
  c.current.greeting? ≠ none ∨ c.encounter.listener.isConnected = false

theorem Chronicle.Sound.settled_iff {c : Chronicle} (h : c.Sound account) :
    c.Settled ↔ c.encounter.listener.phase ≠ .greeting := by
  have htracks := h.tracks
  rw [Settled, Listener.isConnected]
  generalize c.encounter.listener.phase = phase at htracks
  cases phase with
  | greeting =>
    refine iff_of_false ?_ (· rfl)
    rintro (hgreeted | hunconnected)
    · exact hgreeted htracks
    · cases hunconnected
  | listening session =>
    have hgreeted := Option.isSome_iff_ne_none.1 htracks.isSome_greeting?
    exact iff_of_true (.inl hgreeted) Phase.noConfusion
  | _ => exact iff_of_true (.inr rfl) Phase.noConfusion

/-- A run, and the same run with noise put in where no greeting is awaited (`Chronicle.Settled`). -/
inductive Noisy (account : Account) : List Happening → List Happening → Prop
  | nil : Noisy account [] []
  | same {plain noisy : List Happening} (h : Noisy account plain noisy) (happening : Happening) :
      Noisy account (plain ++ [happening]) (noisy ++ [happening])
  | noise {plain noisy : List Happening} (h : Noisy account plain noisy) {happening : Happening}
      (hnoise : happening.IsNoise) (hsettled : (Chronicle.of account plain).Settled) :
      Noisy account plain (noisy ++ [happening])

/-- One chronicle is the other with noise in it. -/
structure Chronicle.Resembles (c d : Chronicle) : Prop where
  encounter_eq : d.encounter = c.encounter
  earlier : List.Forall₂ (Padded Entry.Inert) c.earlier d.earlier
  current : Padded Entry.Inert c.current d.current
  last_eq : d.earlier.map List.getLast? = c.earlier.map List.getLast?

namespace Chronicle.Resembles

variable {c d : Chronicle}

theorem record (h : c.Resembles d) (happening : Happening) :
    (c.record happening).Resembles (d.record happening) := by
  have hnext : d.next happening = c.next happening := by rw [next, next, h.encounter_eq]
  have hcurrent : Padded Entry.Inert (c.current ++ [c.next happening])
      (d.current ++ [c.next happening]) := h.current.append (.refl _)
  rcases hends : (c.next happening).endsSession with _ | _
  · rw [record_of_not_endsSession hends, record_of_not_endsSession (hnext ▸ hends), hnext]
    exact ⟨rfl, h.earlier, hcurrent, h.last_eq⟩
  · rw [record_of_endsSession hends, record_of_endsSession (hnext ▸ hends), hnext]
    refine ⟨rfl, List.rel_append h.earlier (.cons hcurrent .nil), .nil, ?_⟩
    -- What ends a session is the last thing in it, with noise or without.
    rw [List.map_append, List.map_append, h.last_eq, List.map_singleton, List.map_singleton,
      List.getLast?_concat, List.getLast?_concat]

theorem record_noise (h : c.Resembles d) {happening : Happening} (hnoise : happening.IsNoise)
    (hphase : c.encounter.listener.phase ≠ .greeting) : c.Resembles (d.record happening) := by
  have hinert : (d.next happening).Inert := by
    refine Entry.inert_of_isNoise hnoise ?_
    rw [Entry.phase, next, h.encounter_eq]
    exact hphase
  rw [record_of_not_endsSession hinert.endsSession_eq]
  refine ⟨hinert.after_eq.trans h.encounter_eq, h.earlier, ?_, h.last_eq⟩
  have hcurrent := h.current.append (.extra hinert .nil)
  rwa [List.append_nil] at hcurrent

theorem sessions (h : c.Resembles d) :
    List.Forall₂ (Padded Entry.Inert) c.sessions d.sessions :=
  List.rel_append h.earlier (.cons h.current .nil)

end Chronicle.Resembles

namespace Noisy

variable {before plain noisy : List Happening}

theorem refl (happenings : List Happening) : Noisy account happenings happenings := by
  induction happenings using List.reverseRecOn with
  | nil => exact .nil
  | append_singleton happenings happening ih => exact ih.same happening

theorem resembles (h : Noisy account plain noisy) :
    (Chronicle.of account plain).Resembles (Chronicle.of account noisy) := by
  induction h with
  | nil => exact ⟨rfl, .nil, .nil, rfl⟩
  | same _ happening ih =>
    rw [Chronicle.of_append, Chronicle.of_append]
    exact ih.record happening
  | noise _ hnoise hsettled ih =>
    rw [Chronicle.of_append]
    exact ih.record_noise hnoise ((Chronicle.sound_of account _).settled_iff.1 hsettled)

end Noisy

/-- Without another connection there is no other greeting to wait for. -/
theorem Entry.phase_after_ne_greeting (hphase : entry.phase ≠ .greeting)
    (hwhat : entry.what ≠ .signal .accepted) : entry.after.listener.phase ≠ .greeting := by
  obtain ⟨signal, hsignal⟩ | ⟨-, -, hsame, -⟩ | ⟨-, hstopped, -⟩ := entry.signal_or_idle_or_stop
  · obtain ⟨reaction, hturn, hafter, -, -⟩ := entry.exists_turn hsignal
    generalize entry.phase = phase at hturn hphase
    rw [hafter]
    cases hturn with
    | ended hends =>
      intro hgreeting
      have hidle := Moment.isBusy_conclude entry.before.moment entry.before.listener.backoff [] ‹_›
      rw [hgreeting] at hidle
      cases hidle
    | accepted => exact absurd hsignal hwhat
    | unmoved _ => exact hphase
    | _ => nofun
  · rw [hsame]
    exact hphase
  · rw [hstopped]
    nofun

/-- After a greeting, noise can be put in at any points (`Padded`), as long as there is no other
connection. -/
theorem Noisy.append_padded {before before' plain noisy : List Happening}
    (hbefore : Noisy account before before')
    (hphase : (Chronicle.of account before).encounter.listener.phase ≠ .greeting)
    (hpadded : Padded Happening.IsNoise plain noisy) (haccepted : .signal .accepted ∉ plain) :
    Noisy account (before ++ plain) (before' ++ noisy) := by
  induction hpadded generalizing before before' with
  | nil => rwa [List.append_nil, List.append_nil]
  | @same happening plain noisy _ ih =>
    rw [List.mem_cons, not_or] at haccepted
    rw [List.append_cons, List.append_cons before']
    refine ih (hbefore.same happening) ?_ haccepted.2
    rw [Chronicle.of_append, Chronicle.encounter_record]
    exact Entry.phase_after_ne_greeting hphase fun h => haccepted.1 h.symm
  | @extra happening hnoise plain noisy _ ih =>
    rw [List.append_cons before']
    have hsettled := (Chronicle.sound_of account before).settled_iff.2 hphase
    exact ih (hbefore.noise hnoise hsettled) hphase haccepted

/-- Noise changes nothing. Put into a run wherever no greeting is awaited (`Noisy`), it leaves the
encounter, what is sent and what is delivered as they were, and each session with the entries it had
and with the same end. After the greeting of a session noise may be put in anywhere, whatever comes
over the connection and whenever, and however the session ends. -/
theorem noise_changes_nothing (account : Account) :
    (∀ plain noisy, Noisy account plain noisy →
      (Encounter.start account).go noisy = (Encounter.start account).go plain ∧
      List.Forall₂ (Padded Entry.Inert) (Chronicle.of account plain).sessions
        (Chronicle.of account noisy).sessions ∧
      (Chronicle.of account noisy).earlier.map List.getLast? =
        (Chronicle.of account plain).earlier.map List.getLast?) ∧
    ∀ before plain noisy, (Chronicle.of account before).current.greeting? ≠ none →
      .signal .accepted ∉ plain → Padded Happening.IsNoise plain noisy →
      Noisy account (before ++ plain) (before ++ noisy) := by
  refine ⟨fun plain noisy h => ?_, fun before plain noisy hgreeted haccepted hpadded => ?_⟩
  · have hresembles := h.resembles
    have hflat := Padded.flatten hresembles.sessions
    refine ⟨?_, hresembles.sessions, hresembles.last_eq⟩
    rw [Chronicle.go_eq, Chronicle.go_eq, hresembles.encounter_eq, Log.sent, Log.sent,
      Log.delivered, Log.delivered, hflat.flatMap_eq fun _ => Entry.Inert.sent_eq,
      hflat.flatMap_eq fun _ => Entry.Inert.delivered_eq]
  · have hphase := (Chronicle.sound_of account before).settled_iff.1 (.inl hgreeted)
    exact (Noisy.refl before).append_padded hphase hpadded haccepted

section Rustle

/-- A connection with a greeting. -/
def welcome : List Happening :=
  [.signal .accepted, .signal (.text "\x7b\"op\":10,\"d\":\x7b\"heartbeat_interval\":1000\x7d\x7d")]

/-- A frame with a running number, two heartbeats, of which the second comes too late to save the
connection, and a wait. -/
def lonelyHour : List Happening :=
  [.signal (.text "\x7b\"op\":0,\"s\":5,\"t\":\"READY\",\"d\":\x7b\x7d\x7d"), .elapse 1000,
    .signal .clock, .elapse 1000, .signal .clock, .elapse 1000, .signal .clock]

/-- The same with a text that is no frame, a frame with an unknown operation, a dispatch without a
message, and a binary frame after the connection has ended. -/
def rustlingHour : List Happening :=
  [.signal (.text "rustle"),
    .signal (.text "\x7b\"op\":0,\"s\":5,\"t\":\"READY\",\"d\":\x7b\x7d\x7d"), .elapse 1000,
    .signal (.text "\x7b\"op\":42\x7d"), .signal .clock, .elapse 1000,
    .signal (.text "\x7b\"op\":0,\"t\":\"MESSAGE_CREATE\"\x7d"), .signal .clock, .signal .binary,
    .elapse 1000, .signal .clock]

theorem padded_rustlingHour : Padded Happening.IsNoise lonelyHour rustlingHour := by
  have hgarbled : Happening.IsNoise (.signal (.text "rustle")) :=
    .garbled (Option.isNone_iff_eq_none.1 (by decide +kernel))
  have hunknown : Happening.IsNoise (.signal (.text "\x7b\"op\":42\x7d")) := by
    obtain ⟨frame, hread, hframe⟩ : ∃ frame, readFrame? "\x7b\"op\":42\x7d" = some frame ∧
        (frame.sequence.isNone && frame.op == 42) = true :=
      (Option.any_eq_true _ _).1 (by decide +kernel)
    rw [Bool.and_eq_true, Option.isNone_iff_eq_none, beq_iff_eq] at hframe
    exact .unknown hread hframe.1 (by rw [hframe.2]; decide)
  have hirrelevant : Happening.IsNoise
      (.signal (.text "\x7b\"op\":0,\"t\":\"MESSAGE_CREATE\"\x7d")) := by
    obtain ⟨frame, hread, hframe⟩ : ∃ frame,
        readFrame? "\x7b\"op\":0,\"t\":\"MESSAGE_CREATE\"\x7d" = some frame ∧
        (frame.sequence.isNone && frame.op == 0 && (Post.ofJson? frame.data).isNone) = true :=
      (Option.any_eq_true _ _).1 (by decide +kernel)
    simp only [Bool.and_eq_true, Option.isNone_iff_eq_none, beq_iff_eq] at hframe
    exact .irrelevant hread hframe.1.1 hframe.1.2 (.inr hframe.2)
  exact .extra hgarbled <| .same _ <| .same _ <| .extra hunknown <| .same _ <| .same _ <|
    .extra hirrelevant <| .same _ <| .extra .binary <| .same _ <| .same _ .nil

theorem noise_changes_nothing_in_lonely_hour :
    let account : Account := ⟨"token", "", "", 1, []⟩
    (Chronicle.of account welcome).current.greeting? ≠ none ∧
      .signal .accepted ∉ lonelyHour ∧ Padded Happening.IsNoise lonelyHour rustlingHour ∧
      Noisy account (welcome ++ lonelyHour) (welcome ++ rustlingHour) ∧
      (Encounter.start account).go (welcome ++ rustlingHour) =
        (Encounter.start account).go (welcome ++ lonelyHour) ∧
      ((Encounter.start account).go (welcome ++ rustlingHour)).2.1 =
        [.identify "token" 1, .heartbeat (some 5)] := by
  intro account
  have hgreeted : (Chronicle.of account welcome).current.greeting? ≠ none := by
    have hsome : (Chronicle.of account welcome).current.greeting?.isSome = true := by
      decide +kernel
    exact Option.isSome_iff_ne_none.1 hsome
  have hnoisy := (noise_changes_nothing account).2 welcome lonelyHour rustlingHour hgreeted
    (by decide) padded_rustlingHour
  have hsame := ((noise_changes_nothing account).1 _ _ hnoisy).1
  exact ⟨hgreeted, by decide, padded_rustlingHour, hnoisy, hsame, by decide +kernel⟩

end Rustle

end Gadfly.Discord
