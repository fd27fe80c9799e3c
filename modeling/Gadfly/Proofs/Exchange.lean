/-
  Gadfly.Proofs.Exchange

  What passes between a dialogue and its partner.

  An `Exchange` is a call together with the answer that came back, if one did. The `exchanges` of
  a dialogue held with a partner determine all that the dialogue does, and a `Course` says so
  without a partner: with the answers in a list of exchanges, the dialogue makes just the calls in
  that list and comes to a given result. Whatever holds of every course of a dialogue holds of the
  dialogue with every partner, in every state (`course_exchanges`). A `noting` partner keeps the
  exchanges and changes nothing else (`run_noting`).

  Main definitions: `Exchange`, `Dialogue.exchanges`, `Partner.noting`, `Dialogue.Course`,
  `Dialogue.Only`, `Dialogue.Warranted`, `Partner.TakesReports`.
  Main statements: `exchanges_bind`, `run_noting`, `run_steps`, `run_adds`,
  `forall_exchanges_of_invariant`, `course_exchanges`, `course_bind_iff`, `Course.bind_cases`,
  `exists_course_of_answered`, `forall_exchanges_of_only`, `Course.warrant_of_eq`.
-/

import Gadfly.Dialogue

namespace Gadfly

/-! ## Kinds of calls -/

namespace Call

/-- Whether a call asks for a history. -/
def isHistory : Call → Bool
  | .history .. => true
  | _ => false

/-- Whether a call shows that an answer is being written. -/
def isTyping : Call → Bool
  | .typing .. => true
  | _ => false

/-- Whether a call asks the completion service. -/
def isComplete : Call → Bool
  | .complete .. => true
  | _ => false

/-- Whether a call lets the commands see a message. -/
def isDispatch : Call → Bool
  | .dispatch .. => true
  | _ => false

/-- Whether a call only reports something. -/
def isReport : Call → Bool
  | .report .. => true
  | _ => false

/-- Whether a call neither asks for a history nor lets the commands see a message. -/
def isInner (call : Call) : Bool :=
  !call.isHistory && !call.isDispatch

/-- The text that a call sends. -/
def sent? : Call → Option String
  | .send _ text => some text
  | _ => none

/-- A call that sends nothing sends nothing but what it should. -/
theorem forall_sent?_of_none {call : Call} {P : String → Prop} (h : call.sent? = none) :
    ∀ text, call.sent? = some text → P text := by
  intro text htext
  rw [h] at htext
  cases htext

theorem ne_complete {call : Call} (h : call.isComplete = false) (request : Request) :
    call ≠ .complete request := by
  rintro rfl
  cases h

theorem isHistory_of_isInner {call : Call} (h : call.isInner = true) :
    call.isHistory = false := by
  simp_all [isInner]

theorem isDispatch_of_isInner {call : Call} (h : call.isInner = true) :
    call.isDispatch = false := by
  simp_all [isInner]

end Call

/-! ## Exchanges -/

/-- A `Call`, and the answer to it unless the partner broke off. -/
structure Exchange where
  call : Call
  answer : Option call.Answer

namespace Exchange

/-- All exchanges but the reports. -/
def external (trace : List Exchange) : List Exchange :=
  trace.filter fun e => !e.call.isReport

@[simp] theorem external_nil : external [] = [] := rfl

@[simp] theorem external_append (first second : List Exchange) :
    external (first ++ second) = external first ++ external second := by
  rw [external, List.filter_append, external, external]

theorem mem_of_mem_external {e : Exchange} {trace : List Exchange} (h : e ∈ external trace) :
    e ∈ trace :=
  (List.mem_filter.1 h).1

end Exchange

/-- Whatever is reported is taken note of: a report never breaks off a dialogue. -/
def Partner.TakesReports {σ : Type} (partner : Partner σ) : Prop :=
  ∀ s notice, ∃ t, partner s (.report notice) = (some (), t)

/-- A partner that also keeps the exchanges: each `Call` with the answer to it. -/
def Partner.noting {σ : Type} (partner : Partner σ) : Partner (List Exchange × σ) :=
  fun (log, s) call =>
    let (answer, t) := partner s call
    (answer, (log ++ [⟨call, answer⟩], t))

namespace Dialogue

variable {α β σ : Type}

/-! ## Dialogues held with a partner -/

/-- The exchanges of a dialogue with a partner, in order: the calls that `run` makes, with their
answers. -/
def exchanges (partner : Partner σ) : Dialogue α → σ → List Exchange
  | .done _, _ => []
  | .ask call next, s =>
    match partner s call with
    | (some answer, s) => ⟨call, some answer⟩ :: (next answer).exchanges partner s
    | (none, _) => [⟨call, none⟩]

@[simp] theorem exchanges_done (partner : Partner σ) (value : α) (s : σ) :
    (done value).exchanges partner s = [] := rfl

theorem exchanges_ask (partner : Partner σ) (call : Call) (next : call.Answer → Dialogue α)
    (s : σ) :
    (ask call next).exchanges partner s =
      match partner s call with
      | (some answer, s) => ⟨call, some answer⟩ :: (next answer).exchanges partner s
      | (none, _) => [⟨call, none⟩] := by
  rw [exchanges]

/-- Of two computations in a row (`bind`), the second adds its exchanges if the first came to its
end. -/
theorem exchanges_bind (partner : Partner σ) (d : Dialogue α) (f : α → Dialogue β) (s : σ) :
    (d.bind f).exchanges partner s =
      d.exchanges partner s ++
        match d.run partner s with
        | (some value, s) => (f value).exchanges partner s
        | (none, _) => [] := by
  induction d generalizing s with
  | done value => rfl
  | ask call next ih =>
    rw [ask_bind, exchanges_ask, exchanges_ask, run_ask]
    rcases partner s call with ⟨_ | answer, s'⟩
    · rfl
    · simp only [ih, List.cons_append]

/-- How a dialogue with a partner goes: by which exchanges it comes to which result, if the
partner does not break off, and in which state that leaves the partner. -/
structure Held (partner : Partner σ) (d : Dialogue α) (s : σ) (trace : List Exchange)
    (result : Option α) (t : σ) : Prop where
  exchanges_eq : d.exchanges partner s = trace
  run_eq : d.run partner s = (result, t)

theorem held_run (partner : Partner σ) (d : Dialogue α) (s : σ) :
    Held partner d s (d.exchanges partner s) (d.run partner s).1 (d.run partner s).2 :=
  ⟨rfl, rfl⟩

theorem held_call {partner : Partner σ} {c : Call} {s t : σ} {answer : c.Answer}
    (h : partner s c = (some answer, t)) :
    Held partner (call c) s [⟨c, some answer⟩] (some answer) t := by
  refine ⟨?_, ?_⟩
  · rw [call, exchanges_ask, h]
    rfl
  · rw [call, run_ask, h]
    rfl

section Held

variable {partner : Partner σ} {d : Dialogue α} {f : α → Dialogue β} {s t u : σ}
  {first second : List Exchange}

/-- A second computation goes on where the first came to its end. -/
theorem Held.bind {value : α} {result : Option β} (hd : Held partner d s first (some value) t)
    (hf : Held partner (f value) t second result u) :
    Held partner (d.bind f) s (first ++ second) result u := by
  refine ⟨?_, ?_⟩
  · rw [exchanges_bind, hd.run_eq, hd.exchanges_eq]
    exact congrArg _ hf.exchanges_eq
  · rw [run_bind, hd.run_eq]
    exact hf.run_eq

/-- Nothing follows upon a computation that was broken off. -/
theorem Held.bind_of_none (hd : Held partner d s first none t) :
    Held partner (d.bind f) s first none t := by
  refine ⟨?_, ?_⟩
  · rw [exchanges_bind, hd.run_eq, hd.exchanges_eq]
    exact List.append_nil _
  · rw [run_bind, hd.run_eq]

/-- A value changed at the end changes nothing else. -/
theorem Held.map {result : Option α} (hd : Held partner d s first result t) (g : α → β) :
    Held partner (d.bind fun value => .done (g value)) s first (result.map g) t := by
  cases result with
  | none => exact hd.bind_of_none
  | some value =>
    have hdone : Held partner (.done (g value)) t [] (some (g value)) t := ⟨rfl, rfl⟩
    exact List.append_nil first ▸ hd.bind hdone

end Held

/-- A partner that keeps notes (`Partner.noting`) ends up with the `exchanges`, and changes nothing
else. -/
theorem run_noting (partner : Partner σ) (d : Dialogue α) (log : List Exchange) (s : σ) :
    d.run partner.noting (log, s) =
      ((d.run partner s).1, (log ++ d.exchanges partner s, (d.run partner s).2)) := by
  induction d generalizing log s with
  | done value => simp
  | ask call next ih =>
    rw [run_ask, run_ask, exchanges_ask]
    simp only [Partner.noting]
    rcases partner s call with ⟨_ | answer, t⟩
    · rfl
    · have h := ih answer (log ++ [⟨call, some answer⟩]) t
      rw [List.append_assoc] at h
      exact h

/-- How the calls of a dialogue bring a partner from one state to another, given how each call
does and that such steps can be put together. -/
theorem run_steps {β : Type} {p : Partner σ} {R : σ → List β → σ → Prop} {added? : Call → Option β}
    (hnone : ∀ s, R s [] s)
    (htrans : ∀ {s t u first second}, R s first t → R t second u → R s (first ++ second) u)
    (hstep : ∀ s call, R s (added? call).toList (p s call).2) (d : Dialogue α) (s : σ) :
    R s ((d.exchanges p s).filterMap fun e => added? e.call) (d.run p s).2 := by
  induction d generalizing s with
  | done value => exact hnone s
  | ask call next ih =>
    have hcall := hstep s call
    rw [run_ask, exchanges_ask]
    generalize p s call = answered at hcall
    obtain ⟨_ | answer, t⟩ := answered
    · cases hadds : added? call <;> simpa [hadds] using hcall
    · have hall := htrans hcall (ih answer t)
      cases hadds : added? call <;> simpa [hadds] using hall

/-- What each call adds to the list that a partner keeps makes up what a dialogue adds to it. -/
theorem run_adds {β : Type} {p : Partner σ} {f : σ → List β} {added? : Call → Option β}
    (hstep : ∀ s call, f (p s call).2 = f s ++ (added? call).toList)
    (d : Dialogue α) (s : σ) :
    f (d.run p s).2 = f s ++ (d.exchanges p s).filterMap fun e => added? e.call := by
  apply run_steps (R := fun s added t => f t = f s ++ added)
  · exact fun s => (List.append_nil (f s)).symm
  · intro s t u first second hfirst hsecond
    rw [hsecond, hfirst, List.append_assoc]
  · exact hstep

/-- What a partner keeps to, as long as it is in a state of a kind, is so in all exchanges. -/
theorem forall_exchanges_of_invariant {p : Partner σ} {I : σ → Prop} {Q : Exchange → Prop}
    (hstep : ∀ s call, I s → I (p s call).2 ∧ Q ⟨call, (p s call).1⟩)
    (d : Dialogue α) {s : σ} (hs : I s) : ∀ e ∈ d.exchanges p s, Q e := by
  -- Along the dialogue: a call with an answer leaves the partner in a state of the same kind.
  induction d generalizing s with
  | done value =>
    rw [exchanges_done]
    exact List.forall_mem_nil _
  | ask call next ih =>
    have hcall := hstep s call hs
    rw [exchanges_ask]
    generalize p s call = answered at hcall
    obtain ⟨_ | answer, t⟩ := answered
    · exact fun e he => List.mem_singleton.1 he ▸ hcall.2
    · intro e he
      obtain rfl | he := List.mem_cons.1 he
      · exact hcall.2
      · exact ih answer hcall.1 e he

/-! ## Courses -/

/-- With the answers in a list of exchanges, a dialogue makes just the calls in that list and
comes to a result; there is none when the last call was not answered. -/
inductive Course : Dialogue α → List Exchange → Option α → Prop
  | done (value : α) : Course (.done value) [] (some value)
  | answered {call : Call} {next : call.Answer → Dialogue α} {answer : call.Answer}
      {trace : List Exchange} {result : Option α} (rest : Course (next answer) trace result) :
      Course (.ask call next) (⟨call, some answer⟩ :: trace) result
  | broken {call : Call} {next : call.Answer → Dialogue α} :
      Course (.ask call next) [⟨call, none⟩] none

/-- What a dialogue does with a partner is one of its courses (`Course`). -/
theorem course_exchanges (partner : Partner σ) (d : Dialogue α) (s : σ) :
    Course d (d.exchanges partner s) (d.run partner s).1 := by
  induction d generalizing s with
  | done value => exact .done value
  | ask call next ih =>
    rw [exchanges_ask, run_ask]
    rcases partner s call with ⟨_ | answer, s'⟩
    · exact .broken
    · exact .answered (ih answer s')

/-- A dialogue that is done makes no call. -/
theorem course_done_iff {value result : α} {trace : List Exchange} :
    Course (.done value) trace (some result) ↔ trace = [] ∧ result = value := by
  constructor
  · rintro ⟨⟩
    exact ⟨rfl, rfl⟩
  · rintro ⟨rfl, rfl⟩
    exact .done result

/-- The courses of two computations in a row (`bind`) that come to a result. -/
theorem course_bind_iff {d : Dialogue α} {f : α → Dialogue β} {trace : List Exchange}
    {result : β} :
    Course (d.bind f) trace (some result) ↔
      ∃ value first second, trace = first ++ second ∧
        Course d first (some value) ∧ Course (f value) second (some result) := by
  -- Along the first computation: each of its exchanges is the first of the whole.
  induction d generalizing trace with
  | done value =>
    constructor
    · intro h
      exact ⟨value, [], trace, rfl, .done value, h⟩
    · rintro ⟨_, _, second, rfl, ⟨⟩, h⟩
      exact h
  | ask call next ih =>
    constructor
    · intro h
      rcases h with _ | h
      obtain ⟨value, first, second, rfl, hfirst, hsecond⟩ := (ih _).1 h
      exact ⟨value, _ :: first, second, rfl, .answered hfirst, hsecond⟩
    · rintro ⟨value, _, second, rfl, hfirst, hsecond⟩
      rcases hfirst with _ | hfirst
      exact .answered ((ih _).2 ⟨value, _, second, rfl, hfirst, hsecond⟩)

/-- The courses of two computations in a row (`bind`), also those that are broken off: that happens
to the first, or the second goes on where the first came to its end. -/
theorem Course.bind_cases {d : Dialogue α} {f : α → Dialogue β} {trace : List Exchange}
    {result : Option β} (h : Course (d.bind f) trace result) :
    (Course d trace none ∧ result = none) ∨
      ∃ value first second, trace = first ++ second ∧ Course d first (some value) ∧
        Course (f value) second result := by
  induction d generalizing trace with
  | done value => exact .inr ⟨value, [], trace, rfl, .done value, h⟩
  | ask call next ih =>
    rcases h with _ | rest | _
    · rcases ih _ rest with ⟨hbroken, rfl⟩ | ⟨value, first, second, rfl, hfirst, hsecond⟩
      · exact .inl ⟨.answered hbroken, rfl⟩
      · exact .inr ⟨value, _ :: first, second, rfl, .answered hfirst, hsecond⟩
    · exact .inl ⟨.broken, rfl⟩

/-- The courses of a single call, and whatever comes after it, that come to a result. -/
theorem course_call_bind_iff {c : Call} {f : c.Answer → Dialogue β} {trace : List Exchange}
    {result : β} :
    Course ((call c).bind f) trace (some result) ↔
      ∃ answer rest, trace = ⟨c, some answer⟩ :: rest ∧ Course (f answer) rest (some result) := by
  constructor
  · intro h
    rcases h with _ | h
    exact ⟨_, _, rfl, h⟩
  · rintro ⟨answer, rest, rfl, h⟩
    exact .answered h

/-- The one course of a single call that comes to a result. -/
theorem course_call_iff {c : Call} {trace : List Exchange} {answer : c.Answer} :
    Course (call c) trace (some answer) ↔ trace = [⟨c, some answer⟩] := by
  rw [← bind_done (call c), course_call_bind_iff]
  constructor
  · rintro ⟨_, _, rfl, h⟩
    obtain ⟨rfl, rfl⟩ := course_done_iff.1 h
    rfl
  · rintro rfl
    exact ⟨answer, [], rfl, .done answer⟩

/-- A course comes to a result exactly when all its calls are answered. -/
theorem Course.isSome_iff {d : Dialogue α} {trace : List Exchange} {result : Option α}
    (h : Course d trace result) : result.isSome ↔ ∀ e ∈ trace, e.answer.isSome := by
  induction h with
  | done value => exact iff_of_true rfl fun e he => absurd he List.not_mem_nil
  | answered rest ih =>
    rw [ih, List.forall_mem_cons]
    exact (and_iff_right rfl).symm
  | broken =>
    -- Its one call is not answered, and there is no result.
    rw [List.forall_mem_singleton]
    exact Iff.rfl

/-- A dialogue with a partner that answers all its calls comes to a result. -/
theorem exists_course_of_answered {partner : Partner σ} {d : Dialogue α} {s : σ}
    (hanswered : ∀ e ∈ d.exchanges partner s, e.answer.isSome) :
    ∃ result, (d.run partner s).1 = some result ∧
      Course d (d.exchanges partner s) (some result) := by
  have hcourse := course_exchanges partner d s
  obtain ⟨result, hresult⟩ :=
    Option.isSome_iff_exists.1 (hcourse.isSome_iff.2 hanswered)
  rw [hresult] at hcourse
  exact ⟨result, hresult, hcourse⟩

/-! ## What a dialogue can call at all -/

variable {P : Call → Prop}

/-- Whatever the answers, a dialogue makes only calls that satisfy a condition. -/
def Only (P : Call → Prop) : Dialogue α → Prop
  | .done _ => True
  | .ask call next => P call ∧ ∀ answer, (next answer).Only P

theorem only_call {c : Call} (h : P c) : (call c).Only P :=
  ⟨h, fun _ => trivial⟩

theorem only_bind {d : Dialogue α} {f : α → Dialogue β} (hd : d.Only P)
    (hf : ∀ value, (f value).Only P) : (d.bind f).Only P := by
  induction d with
  | done value => exact hf value
  | ask call next ih => exact ⟨hd.1, fun answer => ih answer (hd.2 answer)⟩

theorem Course.forall_of_only {d : Dialogue α} {trace : List Exchange} {result : Option α}
    (h : Course d trace result) (hd : d.Only P) : ∀ e ∈ trace, P e.call := by
  induction h with
  | done value =>
    intro e he
    exact absurd he List.not_mem_nil
  | answered rest ih =>
    intro e he
    rcases List.mem_cons.1 he with rfl | he
    · exact hd.1
    · exact ih (hd.2 _) e he
  | broken =>
    intro e he
    obtain rfl := List.mem_singleton.1 he
    exact hd.1

/-- With every partner, also with one that breaks off, the calls of a dialogue that makes `Only`
such calls satisfy the condition. -/
theorem forall_exchanges_of_only {d : Dialogue α} (hd : d.Only P) (partner : Partner σ) (s : σ) :
    ∀ e ∈ d.exchanges partner s, P e.call :=
  (course_exchanges partner d s).forall_of_only hd

/-- When nothing that follows asks for a completion, a completion that breaks off leaves nothing
of what follows. -/
theorem exchanges_bind_of_broken {d : Dialogue α} {f : α → Dialogue β} {partner : Partner σ}
    {s : σ} (hf : ∀ value, (f value).Only fun call => call.isComplete = false) {request : Request}
    (h : ⟨.complete request, none⟩ ∈ (d.bind f).exchanges partner s) :
    (d.bind f).exchanges partner s = d.exchanges partner s := by
  have hd := held_run partner d s
  have hcourse := course_exchanges partner d s
  rcases hresult : (d.run partner s).1 with _ | value
  · rw [hresult] at hd
    exact hd.bind_of_none.exchanges_eq
  · rw [hresult] at hd hcourse
    rw [(hd.bind (held_run partner (f value) _)).exchanges_eq] at h
    -- The first part came to its end, so it was not broken off; the second asks no completion.
    rcases List.mem_append.1 h with h | h
    · exact Bool.noConfusion (hcourse.isSome_iff.1 rfl _ h)
    · exact Bool.noConfusion (forall_exchanges_of_only (hf value) partner _ _ h)

/-! ## Calls warranted by what came before -/

variable {W : List Exchange → Call → Prop} {before : List Exchange}

/-- Whatever the answers, each call of a dialogue is warranted by the exchanges before it. -/
def Warranted (W : List Exchange → Call → Prop) : List Exchange → Dialogue α → Prop
  | _, .done _ => True
  | before, .ask call next =>
    W before call ∧ ∀ answer, (next answer).Warranted W (before ++ [⟨call, some answer⟩])

theorem warranted_call {c : Call} (h : W before c) : (call c).Warranted W before :=
  ⟨h, fun _ => trivial⟩

/-- Calls that need no warrant may be made at any time. -/
theorem warranted_of_only (hW : ∀ before call, P call → W before call) {d : Dialogue α}
    (hd : d.Only P) : d.Warranted W before := by
  induction d generalizing before with
  | done value => trivial
  | ask call next ih => exact ⟨hW _ _ hd.1, fun answer => ih answer (hd.2 answer)⟩

/-- What follows from every warrant is so of all calls. -/
theorem Warranted.only {d : Dialogue α} (hd : d.Warranted W before)
    (hW : ∀ before call, W before call → P call) : d.Only P := by
  induction d generalizing before with
  | done value => trivial
  | ask call next ih => exact ⟨hW _ _ hd.1, fun answer => ih answer (hd.2 answer)⟩

/-- A second computation can refer to all that the first exchanged. -/
theorem Warranted.bind {d : Dialogue α} {f : α → Dialogue β} (hd : d.Warranted W before)
    (hf : ∀ trace value, Course d trace (some value) → (f value).Warranted W (before ++ trace)) :
    (d.bind f).Warranted W before := by
  induction d generalizing before with
  | done value => exact List.append_nil before ▸ hf [] value (.done value)
  | ask call next ih =>
    refine ⟨hd.1, fun answer => ih answer (hd.2 answer) fun trace value htrace => ?_⟩
    rw [List.append_assoc]
    exact hf _ value (.answered htrace)

/-- In every `Course`, also in one that is broken off, each call of a dialogue has its warrant
(`Warranted`). -/
theorem Course.warrant_of_eq {d : Dialogue α} {trace : List Exchange} {result : Option α}
    (h : Course d trace result) (hd : d.Warranted W before) {first rest : List Exchange}
    {e : Exchange} (htrace : trace = first ++ e :: rest) : W (before ++ first) e.call := by
  induction h generalizing before first with
  | done value => simp at htrace
  | @answered call next answer trace result _ ih =>
    cases first with
    | nil =>
      obtain ⟨rfl, rfl⟩ := List.cons.inj htrace
      exact (List.append_nil before).symm ▸ hd.1
    | cons e' first =>
      -- The first exchange is behind, and counts for those that follow.
      obtain ⟨rfl, rfl⟩ := List.cons.inj htrace
      have hlater := ih (hd.2 answer) rfl
      rw [List.append_assoc] at hlater
      exact hlater
  | broken =>
    cases first with
    | nil =>
      obtain ⟨rfl, rfl⟩ := List.cons.inj htrace
      exact (List.append_nil before).symm ▸ hd.1
    | cons e' first => simp at htrace

/-! ## Exchanges that decide -/

variable {Q : Exchange → Prop} {R : α → Prop}

/-- Upon an exchange of a kind a dialogue ends at once, with a value of a kind. -/
def EndsUpon (Q : Exchange → Prop) (R : α → Prop) : Dialogue α → Prop
  | .done _ => True
  | .ask call next => ∀ answer, (next answer).EndsUpon Q R ∧
      (Q ⟨call, some answer⟩ → ∃ value, next answer = .done value ∧ R value)

theorem Course.exists_of_endsUpon {d : Dialogue α} {trace : List Exchange} {result : Option α}
    (h : Course d trace result) (hd : d.EndsUpon Q R) {e : Exchange} (he : e ∈ trace)
    (hanswered : e.answer.isSome) (hQ : Q e) : ∃ value, result = some value ∧ R value := by
  induction h with
  | done value => exact absurd he List.not_mem_nil
  | @answered call next answer trace result rest ih =>
    rcases List.mem_cons.1 he with rfl | he
    · -- The exchange in question is the first one, so there is no other.
      obtain ⟨value, hdone, hvalue⟩ := (hd answer).2 hQ
      rw [hdone] at rest
      cases rest
      exact ⟨value, rfl, hvalue⟩
    · exact ih (hd answer).1 he
  | broken =>
    obtain rfl := List.mem_singleton.1 he
    cases hanswered

end Dialogue

end Gadfly
