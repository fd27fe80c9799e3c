/-
  Gadfly.Proofs.Gateway.Succession

  One listener after the other.

  Each start makes another listener, which goes on by itself. What keeps two of them from
  listening at the same time is that whoever starts one keeps hold of it and dismisses the one
  kept before (`Act.start`). A `Succession` is made of all the listeners ever started, each with
  those who take what it delivers; what is sent or delivered is told with the place where it comes
  from. So it can be said from which listener a frame or a message comes, and that only the last
  one can still do anything (`Sole`, `Reigns`).

  Main definitions: `Succession`, `Succession.Act`, `Succession.act`, `Succession.run`,
  `Succession.Sole`, `Succession.Reigns`, `StartsAfresh`.
  Main statements: `Succession.Sole.run`, `Succession.Reigns.run`, `starts_afresh`.
-/

import Gadfly.Proofs.Gateway.Restart

namespace Gadfly.Discord

/-- All the listeners that were started, in order, and the place of the one that is kept. -/
structure Succession where
  account : Account
  now : Nat
  started : List Encounter
  kept : Option Nat

namespace Succession

/-- What can happen to a `Succession`. -/
inductive Act where
  /-- Another listener is started. -/
  | start
  /-- The listener that is kept is stopped. -/
  | stop
  /-- Something happens to the listener at a place. -/
  | signal (place : Nat) (what : Signal)
  /-- Time passes for all. -/
  | elapse (ms : Nat)
  /-- Those who take what the listener at a place delivers go away. -/
  | leave (place : Nat)
  deriving Repr, DecidableEq

/-- What an act is to the last listener, at its place. -/
def Act.at? (place : Nat) : Act → Option Happening
  | .start => none
  | .stop => some .stop
  | .signal other what => if other = place then some (.signal what) else none
  | .elapse ms => some (.elapse ms)
  | .leave other => if other = place then some .leave else none

/-- What was sent and delivered, each with the place of the listener from which it comes. -/
abbrev Made := List (Nat × Outgoing) × List (Nat × Event)

/-- What was sent and delivered at a place. -/
def madeAt (place : Nat) (made : List Outgoing × List Event) : Made :=
  (made.1.map (place, ·), made.2.map (place, ·))

/-- Before any listener has been started. -/
def empty (account : Account) : Succession := ⟨account, 0, [], none⟩

/-- A listener that is started now. -/
def newcomer (s : Succession) : Encounter := ⟨s.account, .fresh, true, s.now, []⟩

/-- Lets something happen to the listener at a place, if there is one. -/
def touch (s : Succession) (place : Nat) (happening : Happening) : Succession × Made :=
  match s.started[place]? with
  | some e =>
    ({ s with started := s.started.set place (e.happen happening).1 },
      madeAt place (e.happen happening).2)
  | none => (s, [], [])

/-- Stops a listener that was kept. -/
def dismiss (s : Succession) : Option Nat → Succession
  | some place => (s.touch place .stop).1
  | none => s

/-- Carries out an act. The new listener is there, and is kept, before the one that was kept until
then is dismissed. -/
def act (s : Succession) : Act → Succession × Made
  | .start =>
    let grown : Succession :=
      { s with started := s.started ++ [s.newcomer], kept := some s.started.length }
    (grown.dismiss s.kept, [], [])
  | .stop => ({ s.dismiss s.kept with kept := none }, [], [])
  | .signal place what => s.touch place (.signal what)
  | .elapse ms =>
    ({ s with now := s.now + ms, started := s.started.map fun e => (e.happen (.elapse ms)).1 },
      [], [])
  | .leave place => s.touch place .leave

/-- Carries out acts, one after the other. -/
def run (s : Succession) : List Act → Succession × Made
  | [] => (s, [], [])
  | act :: rest =>
    let (s, sent, delivered) := s.act act
    let (s, moreSent, moreDelivered) := s.run rest
    (s, sent ++ moreSent, delivered ++ moreDelivered)

/-! ## What is touched -/

variable {s : Succession} {place other : Nat} {e e' : Encounter}

/-- Whoever is started is in the same state as after the move by which a listener is started
anew. -/
theorem newcomer_eq (s : Succession) : s.newcomer = (Encounter.start s.account).shift s.now := by
  rw [Encounter.shift, Encounter.start, Nat.zero_add]
  rfl

theorem touch_of_some (h : s.started[place]? = some e) (happening : Happening) :
    s.touch place happening =
      ({ s with started := s.started.set place (e.happen happening).1 },
        madeAt place (e.happen happening).2) := by
  rw [touch, h]

/-- What happens at a place changes the listener there and no other. -/
theorem getElem?_touch (s : Succession) (place : Nat) (happening : Happening) (other : Nat) :
    (s.touch place happening).1.started[other]? =
      s.started[other]?.map fun e => if other = place then (e.happen happening).1 else e := by
  rcases hplace : s.started[place]? with _ | e
  · rw [touch, hplace]
    by_cases hother : other = place
    · rw [hother, hplace]
      rfl
    · simp only [if_neg hother, Option.map_id']
  · rw [touch_of_some hplace]
    by_cases hother : other = place
    · have hlength : place < s.started.length := (List.getElem?_eq_some_iff.1 hplace).1
      rw [hother, List.getElem?_set_self hlength, hplace, Option.map_some, if_pos rfl]
    · simp only [if_neg hother, Option.map_id']
      exact List.getElem?_set_ne fun h => hother h.symm

@[simp] theorem account_touch (s : Succession) (place : Nat) (happening : Happening) :
    (s.touch place happening).1.account = s.account := by
  rw [touch]
  split <;> rfl

@[simp] theorem kept_touch (s : Succession) (place : Nat) (happening : Happening) :
    (s.touch place happening).1.kept = s.kept := by
  rw [touch]
  split <;> rfl

@[simp] theorem length_touch (s : Succession) (place : Nat) (happening : Happening) :
    (s.touch place happening).1.started.length = s.started.length := by
  rw [touch]
  split
  · exact List.length_set
  · rfl

theorem getElem?_dismiss (s : Succession) (kept : Option Nat) (other : Nat) :
    (s.dismiss kept).started[other]? =
      s.started[other]?.map fun e =>
        if kept = some other then { e with listener := .stopped } else e := by
  cases kept with
  | none => simp only [dismiss, reduceCtorEq, if_false, Option.map_id']
  | some place =>
    rw [dismiss, getElem?_touch]
    simp only [Option.some.injEq, eq_comm (a := place)]
    rfl

@[simp] theorem account_dismiss (s : Succession) (kept : Option Nat) :
    (s.dismiss kept).account = s.account := by
  cases kept with
  | none => rfl
  | some place => exact s.account_touch place .stop

@[simp] theorem kept_dismiss (s : Succession) (kept : Option Nat) :
    (s.dismiss kept).kept = s.kept := by
  cases kept with
  | none => rfl
  | some place => exact s.kept_touch place .stop

/-- Whoever was stopped does nothing, and stays so. -/
theorem happen_of_stopped (h : e.listener = .stopped) (happening : Happening) :
    (e.happen happening).1.listener = .stopped ∧ (e.happen happening).2 = ([], []) := by
  cases happening with
  | signal signal =>
    rw [Encounter.happen, h]
    cases signal <;> exact ⟨rfl, rfl⟩
  | stop => exact ⟨rfl, rfl⟩
  | _ => exact ⟨h, rfl⟩

/-- Nothing comes from a place where the listener was stopped. -/
theorem touch_of_stopped (h : ∀ e, s.started[place]? = some e → e.listener = .stopped)
    (happening : Happening) : (s.touch place happening).2 = ([], []) := by
  rw [touch]
  split
  · rename_i e he
    rw [(happen_of_stopped (h e he) happening).2]
    rfl
  · rfl

theorem account_act (s : Succession) (act : Act) : (s.act act).1.account = s.account := by
  cases act with
  | start => exact account_dismiss _ _
  | stop => exact account_dismiss _ _
  | signal place what => exact account_touch _ _ _
  | leave place => exact account_touch _ _ _
  | elapse ms => rfl

theorem account_run (s : Succession) (acts : List Act) : (s.run acts).1.account = s.account := by
  induction acts generalizing s with
  | nil => rfl
  | cons act rest ih => exact (ih (s.act act).1).trans (s.account_act act)

/-! ## Who is kept -/

/-- Every listener that is not kept was stopped. -/
structure Sole (s : Succession) : Prop where
  there : ∀ place, s.kept = some place → place < s.started.length
  stopped : ∀ place e, s.started[place]? = some e → s.kept ≠ some place → e.listener = .stopped

theorem sole_empty (account : Account) : (empty account).Sole :=
  ⟨nofun, nofun⟩

theorem Sole.touch (h : s.Sole) (place : Nat) (happening : Happening) :
    (s.touch place happening).1.Sole := by
  refine ⟨fun other hkept => ?_, fun other e hother hkept => ?_⟩
  · rw [kept_touch] at hkept
    rw [length_touch]
    exact h.there other hkept
  · rw [kept_touch] at hkept
    rw [getElem?_touch] at hother
    obtain ⟨e', hbefore, rfl⟩ := Option.map_eq_some_iff.1 hother
    have hstopped := h.stopped other e' hbefore hkept
    split
    · exact (happen_of_stopped hstopped happening).1
    · exact hstopped

/-- When the listener that is kept is dismissed, all have been stopped. -/
theorem Sole.dismiss (h : s.Sole) (he : (s.dismiss s.kept).started[place]? = some e) :
    e.listener = .stopped := by
  rw [getElem?_dismiss] at he
  obtain ⟨e', hbefore, rfl⟩ := Option.map_eq_some_iff.1 he
  split
  · rfl
  · exact h.stopped place e' hbefore ‹_›

/-- The listener at a place is the last that was started, and no other can do anything. -/
structure Reigns (s : Succession) (place : Nat) (e : Encounter) : Prop where
  there : s.started[place]? = some e
  others : ∀ other e', s.started[other]? = some e' → other ≠ place → e'.listener = .stopped
  kept : s.kept = some place ∨ s.kept = none ∧ e.listener = .stopped

/-- Whoever is started reigns. -/
theorem Sole.reigns_start (h : s.Sole) :
    (s.act .start).1.Reigns s.started.length s.newcomer := by
  refine ⟨?_, fun other e hother hne => ?_, .inl (kept_dismiss _ _)⟩
  · -- The newcomer is not the one that was kept before.
    have hkept : s.kept ≠ some s.started.length := fun hkept => (h.there _ hkept).false
    rw [act, getElem?_dismiss, List.getElem?_concat_length, Option.map_some, if_neg hkept]
  · rw [act, getElem?_dismiss] at hother
    obtain ⟨e', hbefore, rfl⟩ := Option.map_eq_some_iff.1 hother
    have hlength := (List.getElem?_eq_some_iff.1 hbefore).1
    rw [List.length_append, List.length_singleton] at hlength
    rw [List.getElem?_append_left (by omega)] at hbefore
    split
    · rfl
    · exact h.stopped other e' hbefore ‹_›

theorem Reigns.sole (h : s.Reigns place e) : s.Sole := by
  refine ⟨fun other hkept => ?_, fun other e' hother hne => ?_⟩
  · obtain hplace | ⟨hnone, -⟩ := h.kept
    · obtain rfl := Option.some.inj (hplace.symm.trans hkept)
      exact (List.getElem?_eq_some_iff.1 h.there).1
    · rw [hnone] at hkept
      cases hkept
  · by_cases hplace : other = place
    · obtain hkept | ⟨-, hstopped⟩ := h.kept
      · exact absurd (hplace ▸ hkept) hne
      · rw [hplace, h.there] at hother
        exact Option.some.inj hother ▸ hstopped
    · exact h.others other e' hother hplace

theorem Sole.act (h : s.Sole) (act : Act) : (s.act act).1.Sole := by
  cases act with
  | start => exact h.reigns_start.sole
  | stop => exact ⟨nofun, fun _ _ he _ => h.dismiss he⟩
  | signal place what => exact h.touch place _
  | leave place => exact h.touch place _
  | elapse ms =>
    refine ⟨fun place hkept => ?_, fun place e he hkept => ?_⟩
    · exact (List.length_map _).symm ▸ h.there place hkept
    · rw [Succession.act, List.getElem?_map] at he
      obtain ⟨e', hbefore, rfl⟩ := Option.map_eq_some_iff.1 he
      exact h.stopped place e' hbefore hkept

/-- Whatever the acts, only the listener that is kept may not have been stopped (`Sole`). -/
theorem Sole.run (h : s.Sole) (acts : List Act) : (s.run acts).1.Sole := by
  induction acts generalizing s with
  | nil => exact h
  | cons act rest ih => exact ih (h.act act)

/-! ## Who reigns -/

/-- What happens at the place of the last listener happens to it. -/
theorem Reigns.touch_self (h : s.Reigns place e) (happening : Happening) :
    (s.touch place happening).1.Reigns place (e.happen happening).1 ∧
      (s.touch place happening).2 = madeAt place (e.happen happening).2 := by
  refine ⟨⟨?_, fun other e' hother hne => ?_, ?_⟩, ?_⟩
  · rw [getElem?_touch, h.there, Option.map_some, if_pos rfl]
  · rw [getElem?_touch] at hother
    simp only [if_neg hne, Option.map_id'] at hother
    exact h.others other e' hother hne
  · rw [kept_touch]
    exact h.kept.imp_right fun hkept => ⟨hkept.1, (happen_of_stopped hkept.2 happening).1⟩
  · rw [touch_of_some h.there]

/-- What happens at another place changes nothing that could be seen. -/
theorem Reigns.touch_other (h : s.Reigns place e) (hother : other ≠ place)
    (happening : Happening) :
    (s.touch other happening).1.Reigns place e ∧ (s.touch other happening).2 = ([], []) := by
  refine ⟨⟨?_, fun third e' hthird hne => ?_, ?_⟩, ?_⟩
  · rw [getElem?_touch, h.there, Option.map_some, if_neg hother.symm]
  · rw [getElem?_touch] at hthird
    obtain ⟨e'', hbefore, rfl⟩ := Option.map_eq_some_iff.1 hthird
    have hstopped := h.others third e'' hbefore hne
    split
    · exact (happen_of_stopped hstopped happening).1
    · exact hstopped
  · rw [kept_touch]
    exact h.kept
  · exact touch_of_stopped (fun e' he' => h.others other e' he' hother) happening

theorem Reigns.touch (h : s.Reigns place e) (other : Nat) (happening : Happening) :
    (s.touch other happening).1.Reigns place
        (e.go (if other = place then some happening else none).toList).1 ∧
      (s.touch other happening).2 =
        madeAt place (e.go (if other = place then some happening else none).toList).2 := by
  by_cases hother : other = place
  · rw [if_pos hother, hother, Option.toList_some, Encounter.go_singleton]
    exact h.touch_self happening
  · rw [if_neg hother]
    exact h.touch_other hother happening

/-- Of an act the last listener sees its part, and all that is made comes from it. -/
theorem Reigns.act (h : s.Reigns place e) {act : Act} (hact : act ≠ .start) :
    (s.act act).1.Reigns place (e.go (act.at? place).toList).1 ∧
      (s.act act).2 = madeAt place (e.go (act.at? place).toList).2 := by
  -- What is done to other listeners finds them stopped; time goes by for all of them.
  cases act with
  | start => exact absurd rfl hact
  | stop =>
    rw [Act.at?, Option.toList_some, Encounter.go_singleton]
    refine ⟨⟨?_, fun other e' hother hne => ?_, .inr ⟨rfl, rfl⟩⟩, rfl⟩
    · rw [Succession.act, getElem?_dismiss, h.there, Option.map_some, Encounter.happen]
      obtain hkept | ⟨hnone, hstopped⟩ := h.kept
      · rw [if_pos hkept]
      · rw [hnone, if_neg (Option.some_ne_none place).symm, ← hstopped]
    · exact h.sole.dismiss hother
  | signal other what => exact h.touch other (.signal what)
  | leave other => exact h.touch other .leave
  | elapse ms =>
    rw [Act.at?, Option.toList_some, Encounter.go_singleton]
    refine ⟨⟨?_, fun other e' hother hne => ?_, h.kept⟩, rfl⟩
    · rw [Succession.act, List.getElem?_map, h.there, Option.map_some]
    · rw [Succession.act, List.getElem?_map] at hother
      obtain ⟨e'', hbefore, rfl⟩ := Option.map_eq_some_iff.1 hother
      exact h.others other e'' hbefore hne

/-- Until another listener is started, the last one does what it would do alone (`go`), and nobody
else does anything. -/
theorem Reigns.run (h : s.Reigns place e) {acts : List Act} (hacts : .start ∉ acts) :
    (s.run acts).1.Reigns place (e.go (acts.filterMap (Act.at? place))).1 ∧
      (s.run acts).2 = madeAt place (e.go (acts.filterMap (Act.at? place))).2 := by
  rw [List.filterMap_eq_flatMap_toList]
  induction acts generalizing s e with
  | nil => exact ⟨h, rfl⟩
  | cons act rest ih =>
    rw [List.mem_cons, not_or] at hacts
    obtain ⟨hreigns, hmade⟩ := h.act fun hstart => hacts.1 hstart.symm
    obtain ⟨hlast, hrest⟩ := ih hreigns hacts.2
    rw [List.flatMap_cons, Encounter.go_append]
    refine ⟨hlast, ?_⟩
    simp only [Succession.run, hmade, hrest, madeAt, List.map_append]

/-- When no listener is kept, none does anything until another is started. -/
theorem Sole.act_of_none (h : s.Sole) (hkept : s.kept = none) {act : Act} (hact : act ≠ .start) :
    (s.act act).1.kept = none ∧ (s.act act).2 = ([], []) := by
  have hstopped (place : Nat) (e : Encounter) (he : s.started[place]? = some e) :
      e.listener = .stopped := h.stopped place e he (by rw [hkept]; nofun)
  cases act with
  | start => exact absurd rfl hact
  | stop => exact ⟨rfl, rfl⟩
  | signal place what =>
    exact ⟨(s.kept_touch _ _).trans hkept, touch_of_stopped (hstopped place) _⟩
  | leave place => exact ⟨(s.kept_touch _ _).trans hkept, touch_of_stopped (hstopped place) _⟩
  | elapse ms => exact ⟨hkept, rfl⟩

theorem Sole.run_of_none (h : s.Sole) (hkept : s.kept = none) {acts : List Act}
    (hacts : .start ∉ acts) : (s.run acts).1.kept = none ∧ (s.run acts).2 = ([], []) := by
  induction acts generalizing s with
  | nil => exact ⟨hkept, rfl⟩
  | cons act rest ih =>
    rw [List.mem_cons, not_or] at hacts
    obtain ⟨hnone, hmade⟩ := h.act_of_none hkept fun hstart => hacts.1 hstart.symm
    obtain ⟨hlast, hrest⟩ := ih (h.act act) hnone hacts.2
    refine ⟨hlast, ?_⟩
    simp only [Succession.run, hmade, hrest, List.append_nil]

end Succession

/-! ## Starting anew -/

/-- What there is to say of a listener that is started anew, and of one that is stopped. -/
structure StartsAfresh (account : Account) : Prop where
  /-- What is seen after the listener was started anew is what would be seen of the same moves if
  nothing had been before. -/
  replays : ∀ moves more,
    (Encounter.start account).playAll (moves ++ .restart :: more) =
      (Encounter.start account).playAll moves ++
        .seen ((Encounter.start account).playedAll moves).unseen [] none false false ::
          (Encounter.start account).playAll more
  /-- After the listener was stopped nothing is sent or delivered and nobody comes. -/
  hushed : ∀ moves more, .restart ∉ more →
    ∃ unseen taken later, (Encounter.start account).playAll (moves ++ .stop :: more) =
        (Encounter.start account).playAll moves ++ .seen unseen [] none false taken :: later ∧
      ∀ sighting ∈ later, sighting.IsQuiet
  /-- Whatever the listeners did that were started before, after another start all that is sent
  and delivered comes from the last one, which does what it would do if it were the first; and all
  others were stopped. -/
  succeeds : ∀ before more, .start ∉ more →
    let s := ((Succession.empty account).run before).1
    let newest := s.started.length
    let alone := (Encounter.start account).go (more.filterMap (Succession.Act.at? newest))
    let whole := (s.act .start).1.run more
    whole.2 = Succession.madeAt newest alone.2 ∧ whole.1.Reigns newest (alone.1.shift s.now)
  /-- After a stop nothing is sent or delivered, and there is no listener left that might want to
  connect. -/
  dismisses : ∀ before more, .start ∉ more →
    let s := ((Succession.empty account).run before).1
    let whole := (s.act .stop).1.run more
    whole.2 = ([], []) ∧
      ∀ (place : Nat) (e : Encounter), whole.1.started[place]? = some e → e.listener = .stopped

/-- A listener that is started anew is alone, and knows nothing of what was before; and when it is
stopped there is none (`StartsAfresh`). -/
theorem starts_afresh (account : Account) : StartsAfresh account where
  replays := Encounter.playAll_restart account
  hushed moves more hmore := by
    obtain ⟨later, hseen, hquiet⟩ := (Encounter.start account).playAll_stop moves hmore
    exact ⟨_, _, later, hseen, hquiet⟩
  succeeds before more hmore := by
    have haccount := (Succession.empty account).account_run before
    have hsole := (Succession.sole_empty account).run before
    obtain ⟨hreigns, hmade⟩ := hsole.reigns_start.run hmore
    rw [Succession.newcomer_eq, haccount, Encounter.go_shift] at hreigns hmade
    exact ⟨hmade, hreigns⟩
  dismisses before more hmore := by
    have hsole := ((Succession.sole_empty account).run before).act .stop
    obtain ⟨hnone, hmade⟩ := hsole.run_of_none rfl hmore
    refine ⟨hmade, fun place e he => ?_⟩
    exact (hsole.run more).stopped place e he (by rw [hnone]; nofun)

section Takeover

open Succession

/-- A greeting. -/
def salute : String := "\x7b\"op\":10,\"d\":\x7b\"heartbeat_interval\":1000\x7d\x7d"

/-- A listener with a session, a running number and a heartbeat that nobody has acknowledged. -/
def tiredListener : List Act :=
  [.start, .signal 0 .accepted, .signal 0 (.text salute),
    .signal 0 (.text "\x7b\"op\":0,\"s\":5,\"t\":\"READY\",\"d\":\x7b\x7d\x7d"),
    .elapse 1000, .signal 0 .clock]

/-- The gateway goes on with it, and greets another one. -/
def handover : List Act :=
  [.signal 0 (.text "\x7b\"op\":1\x7d"), .signal 1 .accepted, .signal 0 (.text salute),
    .signal 1 (.text salute), .elapse 1000, .signal 0 .clock, .signal 1 .clock]

theorem starts_afresh_of_tired_listener :
    let account : Account := ⟨"token", "", "", 1, []⟩
    let s := ((empty account).run tiredListener).1
    let moves : List Move := [.accept, .send [salute]]
    let more : List Move := [.accept, .advance 1000]
    ((empty account).run tiredListener).2.1 =
        [(0, .identify "token" 1), (0, .heartbeat (some 5))] ∧
      .start ∉ handover ∧
      ((s.act .start).1.run handover).2.1 = [(1, .identify "token" 1), (1, .heartbeat none)] ∧
      ((s.act .stop).1.run handover).2 = ([], []) ∧
      .restart ∉ more ∧
      ∃ unseen taken later, (Encounter.start account).playAll (moves ++ .stop :: more) =
          (Encounter.start account).playAll moves ++ .seen unseen [] none false taken :: later ∧
        ∀ sighting ∈ later, sighting.IsQuiet := by
  intro account s moves more
  have hstart : .start ∉ handover := by decide
  have hrestart : .restart ∉ more := by simp [more]
  have hsucceeds := ((starts_afresh account).succeeds tiredListener handover hstart).1
  have hdismisses := ((starts_afresh account).dismisses tiredListener handover hstart).1
  refine ⟨by decide +kernel, hstart, ?_, hdismisses, hrestart,
    (starts_afresh account).hushed moves more hrestart⟩
  have halone : ((Encounter.start account).go (handover.filterMap (Act.at? 1))).2.1 =
      [.identify "token" 1, .heartbeat none] := by decide +kernel
  have hnewest : s.started.length = 1 := by decide +kernel
  rw [hnewest] at hsucceeds
  rw [hsucceeds, madeAt, halone]
  rfl

end Takeover

end Gadfly.Discord
