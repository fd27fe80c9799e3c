/-
  Gadfly.Proofs.Likeness

  Partners that give answers alike.

  Two answers to a call can be alike without being the same (`Likeness`). A dialogue `Respects` a
  likeness when it goes on in the same way after any two answers that are alike. Held with two
  partners that answer alike (`Partner.Alike`), and go on doing so, it makes the same calls and
  comes to the same result; and that is proved once here, by induction over the dialogue, for
  whatever likeness there is.

  `Router.handle` looks at answers in two places only with something less than care: what comes of
  a question is all that counts of the answer to it, and whether it could be shown that an answer
  is being written does not count at all. So it respects every likeness that differs from sameness
  nowhere else and makes no difference to questions (`Router.Overlooks`).

  Main definitions: `Likeness`, `Exchange.Alike`, `Partner.Alike`, `Dialogue.Respects`,
  `Router.Overlooks`.
  Main statements: `Dialogue.Respects.bind`, `Dialogue.Respects.alike`,
  `Exchange.map_call_eq_of_alike`, `Router.Overlooks.respects_handle`.
-/

import Mathlib.Data.List.Forall2
import Mathlib.Data.Option.Basic
import Gadfly.Proofs.Course

namespace Gadfly

open Dialogue

/-- When two answers to a call are alike. -/
abbrev Likeness : Type :=
  (call : Call) → call.Answer → call.Answer → Prop

variable {α β σ τ : Type} {like : Likeness}

/-! ## Exchanges and partners -/

/-- The same call with answers that are alike, or without an answer both times. -/
inductive Exchange.Alike (like : Likeness) : Exchange → Exchange → Prop
  | mk (call : Call) {first second : Option call.Answer}
      (h : Option.Rel (like call) first second) : Alike like ⟨call, first⟩ ⟨call, second⟩

theorem Exchange.map_call_eq_of_alike {first second : List Exchange}
    (h : List.Forall₂ (Alike like) first second) :
    first.map Exchange.call = second.map Exchange.call := by
  induction h with
  | nil => rfl
  | cons hsame _ ih =>
    obtain ⟨call, -⟩ := hsame
    rw [List.map_cons, List.map_cons, ih]

/-- As far as `R` can tell, the states of two partners stay alike, and so do their answers. -/
structure Partner.Alike (like : Likeness) (p : Partner σ) (q : Partner τ) (R : σ → τ → Prop) :
    Prop where
  answers : ∀ {s t} call, R s t → Option.Rel (like call) (p s call).1 (q t call).1
  kept : ∀ {s t} call, R s t → R (p s call).2 (q t call).2

/-! ## Dialogues -/

namespace Dialogue

/-- A dialogue goes on in the same way after answers that are alike. -/
def Respects (like : Likeness) : Dialogue α → Prop
  | .done _ => True
  | .ask call next =>
    (∀ first second, like call first second → next first = next second) ∧
      ∀ answer, (next answer).Respects like

/-- Where only the same is alike, there is nothing to respect. -/
theorem respects_of_only {P : Call → Prop}
    (hlike : ∀ call, P call → ∀ first second, like call first second → first = second)
    {d : Dialogue α} (hd : d.Only P) : d.Respects like := by
  induction d with
  | done value => trivial
  | ask call next ih =>
    refine ⟨fun first second h => ?_, fun answer => ih answer (hd.2 answer)⟩
    rw [hlike call hd.1 first second h]

/-- A call whose answer is thrown away. -/
theorem respects_call_bind {c : Call} {d : Dialogue β} (hd : d.Respects like) :
    ((call c).bind fun _ => d).Respects like :=
  ⟨fun _ _ _ => rfl, fun _ => hd⟩

theorem Respects.bind {d : Dialogue α} {f : α → Dialogue β} (hd : d.Respects like)
    (hf : ∀ value, (f value).Respects like) : (d.bind f).Respects like := by
  induction d with
  | done value => exact hf value
  | ask call next ih =>
    refine ⟨fun first second h => ?_, fun answer => ih answer (hd.2 answer)⟩
    exact congrArg (·.bind f) (hd.1 first second h)

/-- Between partners that are alike, a dialogue that `Respects` the likeness makes no difference. -/
theorem Respects.alike {p : Partner σ} {q : Partner τ} {R : σ → τ → Prop}
    (hpq : p.Alike like q R) {d : Dialogue α} (hd : d.Respects like) {s : σ} {t : τ}
    (hst : R s t) :
    List.Forall₂ (Exchange.Alike like) (d.exchanges p s) (d.exchanges q t) ∧
      (d.run p s).1 = (d.run q t).1 ∧ R (d.run p s).2 (d.run q t).2 := by
  induction d generalizing s t with
  | done value => exact ⟨.nil, rfl, hst⟩
  | ask call next ih =>
    have hanswers := hpq.answers call hst
    have hkept := hpq.kept call hst
    rw [exchanges_ask, exchanges_ask, run_ask, run_ask]
    rcases hp : p s call with ⟨first, s'⟩
    rcases hq : q t call with ⟨second, t'⟩
    rw [hp, hq] at hanswers hkept
    cases hanswers with
    | none => exact ⟨.cons (.mk call .none) .nil, rfl, hkept⟩
    | @some a b hab =>
      -- Either answer could have been given: what follows is the same.
      have hnext : next a = next b := hd.1 a b hab
      obtain ⟨htraces, hresults, hstates⟩ := ih a (hd.2 a) hkept
      simp only [hnext] at htraces hresults hstates ⊢
      exact ⟨.cons (.mk call (.some hab)) htraces, hresults, hstates⟩

end Dialogue

/-! ## The handling of a message -/

namespace Router

variable {router : Router} {message : Message} {transcript : String}

/-- Answers that are alike are the same, but for those to questions and to the wish to show that an
answer is being written; and a question comes to the same with answers that are alike. -/
structure Overlooks (router : Router) (like : Likeness) : Prop where
  eq_of_like : ∀ call, call.isComplete = false → call.isTyping = false →
    ∀ first second, like call first second → first = second
  asks : ∀ purpose model prompt messageId,
    (router.ask purpose model prompt messageId).Respects like

namespace Overlooks

/-- A part of the handling with neither of the two has nothing to respect. -/
theorem respects_of_plain (h : router.Overlooks like) {d : Dialogue α}
    (hd : d.Only fun call => call.isComplete = false ∧ call.isTyping = false) :
    d.Respects like :=
  respects_of_only (fun call hcall => h.eq_of_like call hcall.1 hcall.2) hd

theorem respects_write (h : router.Overlooks like) (manner : Manner) :
    (router.write message manner).Respects like := by
  rw [write_eq]
  refine respects_call_bind ((h.asks _ _ _ _).bind fun answer => ?_)
  exact h.respects_of_plain (only_settle (fun _ => ⟨rfl, rfl⟩) (fun _ => ⟨rfl, rfl⟩) answer)

theorem respects_passive (h : router.Overlooks like) :
    (router.passive message transcript).Respects like := by
  have hgate : (router.gate message transcript).Respects like := by
    refine (h.asks _ _ _ _).bind fun answer => ?_
    cases answer <;> trivial
  have hcomment : (router.comment message transcript).Respects like := by
    rw [comment_eq]
    refine hgate.bind fun verdict => ?_
    rcases verdict with fault | _ | _
    · trivial
    · trivial
    · exact h.respects_write _
  refine hcomment.bind fun commented => ?_
  cases commented with
  | ok reply => trivial
  | error fault => exact respects_call_bind trivial

theorem respects_answer (h : router.Overlooks like) (mode : Mode) :
    (router.answer mode message transcript).Respects like := by
  by_cases hmode : mode = .passive
  · rw [hmode]
    exact h.respects_passive
  · rw [router.answer_eq hmode]
    refine (h.respects_write _).bind fun written => ?_
    cases written with
    | ok reply => trivial
    | error fault => exact respects_call_bind h.respects_passive

/-- All parts of `handle` respect what the router `Overlooks`. -/
theorem respects_handle (h : router.Overlooks like) (message : Message) :
    (router.handle message).Respects like := by
  cases hbot : message.fromBot with
  | true =>
    rw [handle_of_fromBot router hbot]
    trivial
  | false =>
    rw [router.handle_eq hbot]
    have hopening : (router.opening message).Respects like :=
      h.respects_of_plain (router.only_opening ⟨rfl, rfl⟩ fun _ => ⟨rfl, rfl⟩)
    refine hopening.bind fun transcript => ?_
    refine (h.respects_answer _).bind fun reply => ?_
    refine Respects.bind ?_ fun _ => trivial
    exact h.respects_of_plain
      (only_command ⟨rfl, rfl⟩ (fun _ => ⟨rfl, rfl⟩) fun _ => ⟨rfl, rfl⟩)

end Overlooks

end Router

end Gadfly
