/-
  Gadfly.Proofs.Indifference

  What the handling of a message does not depend on.

  Whether it could be shown that an answer is being written (`Call.typing`) is of no consequence,
  and a history that cannot be had counts for as much as an empty one. Both are said of two
  partners that stay alike but for the answers in question (`Partner.AlikeBut`,
  `Partner.LacksHistory`): held with either of them, the handling makes the same calls and comes
  to the same outcome. A missing history is reported (`Notice.noHistory`), and that report is the
  one call more.

  Main definitions: `Dialogue.Heedless`, `Partner.AlikeBut`, `Partner.LacksHistory`,
  `Exchange.SameBut`, `Exchange.Bereft`.
  Main statements: `Heedless.alike`, `Only.alike`, `heedless_handle`, `bereft_handle`,
  `Router.handle_indifferent`.
-/

import Mathlib.Data.List.Forall2
import Gadfly.Proofs.Likeness

namespace Gadfly

open Dialogue

/-! ## Two partners -/

/-- The same exchange, or the same call of a kind with another answer. -/
def Exchange.SameBut (excepted : Call → Prop) (e f : Exchange) : Prop :=
  e = f ∨ (e.call = f.call ∧ excepted e.call)

namespace Partner

variable {σ τ : Type}

/-- Two partners that stay alike, as far as `R` can tell. Calls of a kind are answered by both,
in whatever way, and all other calls get the same answer from both. -/
structure AlikeBut (excepted : Call → Prop) (p : Partner σ) (q : Partner τ) (R : σ → τ → Prop) :
    Prop where
  same : ∀ {s t} call, R s t → ¬excepted call → (p s call).1 = (q t call).1
  answered : ∀ {s t} call, R s t → excepted call → (p s call).1.isSome ∧ (q t call).1.isSome
  kept : ∀ {s t} call, R s t → R (p s call).2 (q t call).2

/-- The first of two partners has no history where the second has an empty one; otherwise they
are alike, and it makes no difference to the first that the loss is reported to it. -/
structure LacksHistory (p : Partner σ) (q : Partner τ) (R : σ → τ → Prop) : Prop
    extends AlikeBut (·.isHistory = true) p q R where
  lost : ∀ {s t} channel before limit, R s t →
    (∃ fault, (p s (.history channel before limit)).1 = some (.error fault)) ∧
      (q t (.history channel before limit)).1 = some (.ok [])
  excused : ∀ {s t} message fault, R s t →
    (p s (.report (.noHistory message fault))).1 = some () ∧
      R (p s (.report (.noHistory message fault))).2 t

end Partner

namespace Dialogue

variable {α β σ τ : Type} {excepted : Call → Prop}

/-! ## Dialogues that do not heed an answer -/

/-- A dialogue goes on in the same way whatever comes back from calls of a kind. -/
def Heedless (excepted : Call → Prop) : Dialogue α → Prop
  | .done _ => True
  | .ask call next =>
    (excepted call → ∀ first second, next first = next second) ∧
      ∀ answer, (next answer).Heedless excepted

variable {p : Partner σ} {q : Partner τ} {R : σ → τ → Prop}

/-- Answers that are the same, and any answers to calls of a kind. -/
def likeBut (excepted : Call → Prop) : Likeness :=
  fun call first second => first = second ∨ excepted call

/-- Not to heed the answers to calls of a kind is to respect that they can be anything. -/
theorem heedless_iff {d : Dialogue α} : d.Heedless excepted ↔ d.Respects (likeBut excepted) := by
  induction d with
  | done value => exact Iff.rfl
  | ask call next ih =>
    refine and_congr ?_ (forall_congr' fun answer => ih answer)
    constructor
    · rintro hheedless first second (rfl | hexcepted)
      · rfl
      · exact hheedless hexcepted first second
    · intro hrespects hexcepted first second
      exact hrespects first second (.inr hexcepted)

/-- A dialogue without such calls has nothing to heed. -/
theorem heedless_of_only {d : Dialogue α} (hd : d.Only (¬excepted ·)) : d.Heedless excepted := by
  refine heedless_iff.2 (respects_of_only (fun call hcall first second h => ?_) hd)
  exact h.resolve_right hcall

theorem alike_of_alikeBut (hpq : p.AlikeBut excepted q R) : p.Alike (likeBut excepted) q R where
  kept := hpq.kept
  answers {s t} call hst := by
    by_cases hexcepted : excepted call
    · -- Whatever the two answers are, there are two of them.
      obtain ⟨hfirst, hsecond⟩ := hpq.answered call hst hexcepted
      obtain ⟨first, hfirst⟩ := Option.isSome_iff_exists.1 hfirst
      obtain ⟨second, hsecond⟩ := Option.isSome_iff_exists.1 hsecond
      rw [hfirst, hsecond]
      exact .some (.inr hexcepted)
    · rw [hpq.same call hst hexcepted]
      cases (q t call).1 with
      | none => exact .none
      | some answer => exact .some (.inl rfl)

theorem sameBut_of_alike {e f : Exchange} (h : e.Alike (likeBut excepted) f) :
    e.SameBut excepted f := by
  obtain ⟨call, hanswers⟩ := h
  cases hanswers with
  | none => exact .inl rfl
  | some hlike =>
    obtain rfl | hexcepted := hlike
    · exact .inl rfl
    · exact .inr ⟨rfl, hexcepted⟩

/-- A dialogue that is `Heedless` of what two partners do not have in common makes the same calls of
both, gets the same answers to all others, and comes to the same result. -/
theorem Heedless.alike (hpq : p.AlikeBut excepted q R) {d : Dialogue α}
    (hd : d.Heedless excepted) {s : σ} {t : τ} (hst : R s t) :
    List.Forall₂ (Exchange.SameBut excepted) (d.exchanges p s) (d.exchanges q t) ∧
      (d.run p s).1 = (d.run q t).1 := by
  obtain ⟨htraces, hresults, -⟩ := (heedless_iff.1 hd).alike (alike_of_alikeBut hpq) hst
  exact ⟨htraces.imp fun _ _ => sameBut_of_alike, hresults⟩

/-- Without calls in which two partners differ (`AlikeBut`) there is no difference at all. -/
theorem Only.alike (hpq : p.AlikeBut excepted q R) {d : Dialogue α} (hd : d.Only (¬excepted ·))
    {s : σ} {t : τ} (hst : R s t) :
    d.exchanges p s = d.exchanges q t ∧ (d.run p s).1 = (d.run q t).1 := by
  obtain ⟨htraces, hresults⟩ := (heedless_of_only hd).alike hpq hst
  refine ⟨?_, hresults⟩
  have hunexcepted := forall_exchanges_of_only hd p s
  generalize d.exchanges p s = first, d.exchanges q t = second at htraces hunexcepted
  induction htraces with
  | nil => rfl
  | cons hsame _ ih =>
    rw [List.forall_mem_cons] at hunexcepted
    obtain rfl | ⟨-, hexcepted⟩ := hsame
    · rw [ih hunexcepted.2]
    · exact absurd hexcepted hunexcepted.1

end Dialogue

/-! ## Showing that an answer is being written -/

namespace Exchange

theorem map_call_eq_of_sameBut {excepted : Call → Prop} {first second : List Exchange}
    (h : List.Forall₂ (SameBut excepted) first second) :
    first.map Exchange.call = second.map Exchange.call := by
  induction h with
  | nil => rfl
  | cons hsame _ ih =>
    rw [List.map_cons, List.map_cons, ih]
    obtain rfl | ⟨hcall, -⟩ := hsame
    · rfl
    · rw [hcall]

end Exchange

namespace Router

/-- The answer to the wish to show that an answer is being written is always thrown away. -/
theorem overlooks_typing (router : Router) : router.Overlooks (likeBut (·.isTyping = true)) where
  eq_of_like _ _ hcall _ _ h := h.resolve_right (ne_true_of_eq_false hcall)
  asks _ _ _ _ := heedless_iff.1
    (heedless_of_only (router.only_ask Bool.false_ne_true fun _ => Bool.false_ne_true))

/-- No part of `handle` heeds whether it could be shown that an answer is being written. -/
theorem heedless_handle (router : Router) (message : Message) :
    (router.handle message).Heedless (·.isTyping = true) :=
  heedless_iff.2 (router.overlooks_typing.respects_handle message)

end Router

/-! ## A missing history -/

namespace Exchange

/-- The same exchanges twice, but that in the first list a history is missing and the loss is
reported, where in the second list the history is empty. Without a question for the history there
is no difference. -/
inductive Bereft (message : Message) : List Exchange → List Exchange → Prop
  | unasked {trace : List Exchange} (h : ∀ e ∈ trace, e.call.isHistory = false) :
      Bereft message trace trace
  | missed (before after : List Exchange) (limit : Nat) (fault : TransportFault) :
      Bereft message
        (before ++ ⟨.history message.channel message.id limit, some (.error fault)⟩ ::
          ⟨.report (.noHistory message fault), some ()⟩ :: after)
        (before ++ ⟨.history message.channel message.id limit, some (.ok [])⟩ :: after)

theorem Bereft.cons {message : Message} {e : Exchange} {first second : List Exchange}
    (he : e.call.isHistory = false) (h : Bereft message first second) :
    Bereft message (e :: first) (e :: second) := by
  cases h with
  | unasked hunasked => exact .unasked (List.forall_mem_cons.2 ⟨he, hunasked⟩)
  | missed before after limit fault => exact .missed (e :: before) after limit fault

end Exchange

namespace Router

variable (router : Router) {σ τ β : Type} {p : Partner σ} {q : Partner τ} {R : σ → τ → Prop}
  {message : Message} {s : σ} {t : τ}

/-- What becomes of the answer to the question for a history. -/
def remember (message : Message) (next : Transcript → Dialogue β) :
    Except TransportFault (List Message) → Dialogue β
  | .ok messages =>
    next (.build router.settings.truncateLength router.settings.historyCount message messages)
  | .error fault =>
    (call (.report (.noHistory message fault))).bind fun _ =>
      next (.build router.settings.truncateLength router.settings.historyCount message [])

theorem transcript_bind_eq (hcount : router.settings.historyCount ≠ 0) (message : Message)
    (next : Transcript → Dialogue β) :
    (router.transcript message).bind next =
      (call (.history message.channel message.id router.settings.historyCount)).bind
        (router.remember message next) := by
  simp only [Router.transcript, Transcript.gather, hcount, if_false, history, report, bind_eq,
    pure_eq, bind_assoc]
  congr 1
  funext answer
  cases answer <;> rfl

theorem transcript_bind_eq_of_zero (hcount : router.settings.historyCount = 0)
    (message : Message) (next : Transcript → Dialogue β) :
    (router.transcript message).bind next =
      next (.build router.settings.truncateLength 0 message []) := by
  simp only [Router.transcript, Transcript.gather, hcount, if_true, pure_eq, done_bind]

/-- With a missing history the transcript is the message alone, as with an empty one. All that
follows upon it is the same, if it has no use for the history itself. -/
theorem bereft_transcript (hpq : p.LacksHistory q R) (hst : R s t) {next : Transcript → Dialogue β}
    (hnext : ∀ transcript, (next transcript).Only (¬·.isHistory = true)) :
    Exchange.Bereft message (((router.transcript message).bind next).exchanges p s)
        (((router.transcript message).bind next).exchanges q t) ∧
      (((router.transcript message).bind next).run p s).1 =
        (((router.transcript message).bind next).run q t).1 := by
  by_cases hcount : router.settings.historyCount = 0
  · -- Nobody asks for the history.
    rw [router.transcript_bind_eq_of_zero hcount]
    obtain ⟨htraces, hresults⟩ := (hnext _).alike hpq.toAlikeBut hst
    rw [htraces]
    refine ⟨.unasked fun e he => ?_, hresults⟩
    exact eq_false_of_ne_true (forall_exchanges_of_only (hnext _) q t e he)
  rw [router.transcript_bind_eq hcount]
  generalize router.settings.historyCount = limit
  obtain ⟨⟨fault, hlost⟩, hempty⟩ := hpq.lost message.channel message.id limit hst
  have hkept := hpq.kept (.history message.channel message.id limit) hst
  rcases hp : p s (.history message.channel message.id limit) with ⟨first, s'⟩
  rcases hq : q t (.history message.channel message.id limit) with ⟨second, t'⟩
  rw [hp] at hlost hkept
  rw [hq] at hempty hkept
  obtain rfl := hlost
  obtain rfl := hempty
  -- The first partner is told of the loss, and then the two are alike again.
  obtain ⟨hreported, hstill⟩ := hpq.excused message fault hkept
  rcases hreport : p s' (.report (.noHistory message fault)) with ⟨noted, s''⟩
  rw [hreport] at hreported hstill
  obtain rfl := hreported
  have hfirst := (held_call hp).bind (f := router.remember message next)
    ((held_call hreport).bind (held_run p _ s''))
  have hsecond := (held_call hq).bind (f := router.remember message next) (held_run q _ t')
  obtain ⟨htraces, hresults⟩ := (hnext _).alike hpq.toAlikeBut hstill
  rw [hfirst.exchanges_eq, hfirst.run_eq, hsecond.exchanges_eq, hsecond.run_eq, htraces]
  exact ⟨.missed [] _ limit fault, hresults⟩

theorem only_finish_unasked (mode : Mode) (message : Message) (transcript : String) :
    (router.finish mode message transcript).Only (¬·.isHistory = true) := by
  refine only_bind (router.only_answer Bool.false_ne_true (fun _ => Bool.false_ne_true)
    (fun _ => Bool.false_ne_true) fun _ => Bool.false_ne_true) fun reply => ?_
  exact only_bind (only_command Bool.false_ne_true (fun _ => Bool.false_ne_true)
    fun _ => Bool.false_ne_true) fun _ => trivial

/-- The handling without a history is the handling with an empty one, and a report
(`Exchange.Bereft`). -/
theorem bereft_handle (hpq : p.LacksHistory q R) (message : Message) (hst : R s t) :
    Exchange.Bereft message ((router.handle message).exchanges p s)
        ((router.handle message).exchanges q t) ∧
      ((router.handle message).run p s).1 = ((router.handle message).run q t).1 := by
  cases hbot : message.fromBot with
  | true =>
    rw [handle_of_fromBot router hbot, exchanges_done, exchanges_done]
    exact ⟨.unasked (List.forall_mem_nil _), rfl⟩
  | false =>
    -- The report comes before the history is asked for, and is the same for both partners.
    have hparts : router.handle message =
        .ask (.report (.routing message (router.classify message))) fun _ =>
          (router.transcript message).bind fun transcript =>
            router.finish (router.classify message) message transcript.render := by
      rw [router.handle_eq hbot]
      simp only [opening, report, call, bind_eq, pure_eq, ask_bind, done_bind, bind_assoc]
    have hsame := hpq.same (.report (.routing message (router.classify message))) hst
      Bool.false_ne_true
    have hkept := hpq.kept (.report (.routing message (router.classify message))) hst
    rw [hparts, exchanges_ask, exchanges_ask, run_ask, run_ask]
    rcases hp : p s (.report (.routing message (router.classify message))) with ⟨noted, s'⟩
    rcases hq : q t (.report (.routing message (router.classify message))) with ⟨noted', t'⟩
    rw [hp, hq] at hsame hkept
    obtain rfl : noted = noted' := hsame
    cases noted with
    | none => exact ⟨.unasked (List.forall_mem_singleton.2 rfl), rfl⟩
    | some noted =>
      obtain ⟨htraces, hresults⟩ := router.bereft_transcript hpq hkept fun transcript =>
        router.only_finish_unasked (router.classify message) message transcript.render
      exact ⟨htraces.cons rfl, hresults⟩

/-- What the handling of a message does not depend on. With two partners between which showing that
an answer is being written can turn out differently (`AlikeBut`), all calls are the same and so is
the outcome. With a partner that has no history (`LacksHistory`), the calls and the outcome are
those that there are with an empty history, but for the one report of the loss (`Bereft`). -/
theorem handle_indifferent (router : Router) (message : Message) {σ τ : Type} (p : Partner σ)
    (q : Partner τ) (R : σ → τ → Prop) :
    (p.AlikeBut (·.isTyping = true) q R → ∀ s t, R s t →
      ((router.handle message).exchanges p s).map Exchange.call =
          ((router.handle message).exchanges q t).map Exchange.call ∧
        List.Forall₂ (Exchange.SameBut (·.isTyping = true))
          ((router.handle message).exchanges p s) ((router.handle message).exchanges q t) ∧
        ((router.handle message).run p s).1 = ((router.handle message).run q t).1) ∧
    (p.LacksHistory q R → ∀ s t, R s t →
      Exchange.Bereft message ((router.handle message).exchanges p s)
          ((router.handle message).exchanges q t) ∧
        ((router.handle message).run p s).1 = ((router.handle message).run q t).1) := by
  refine ⟨fun hpq s t hst => ?_, fun hpq s t hst => router.bereft_handle hpq message hst⟩
  obtain ⟨htraces, hresults⟩ := (router.heedless_handle message).alike hpq hst
  exact ⟨Exchange.map_call_eq_of_sameBut htraces, htraces, hresults⟩

end Router

/-! ## Scripts -/

namespace Rehearsal

/-- Two scripts that may differ in whether it can be shown that an answer is being written. -/
def SameButTyping (s t : Set) : Prop :=
  ∃ typing, t = { s with transport := { s.transport with typing := typing } }

theorem alikeBut_typing : partner.AlikeBut (·.isTyping = true) partner SameButTyping where
  same := by
    rintro ⟨⟨selfId, history, ignoresLimit, typing, sends⟩, service, commands, journal⟩ _ call
      ⟨typing', rfl⟩ hcall
    cases call with
    | typing channel => exact absurd rfl hcall
    | send message text => cases sends <;> rfl
    | _ => rfl
  answered := by
    rintro s _ call ⟨typing, rfl⟩ hcall
    cases call with
    | typing channel => exact ⟨rfl, rfl⟩
    | _ => cases hcall
  kept := by
    rintro ⟨⟨selfId, history, ignoresLimit, typing, sends⟩, service, commands, journal⟩ _ call
      ⟨typing', rfl⟩
    cases call with
    | send message text => cases sends <;> exact ⟨typing', rfl⟩
    | _ => exact ⟨typing', rfl⟩

/-- Two scripts, one without a history and the other with an empty one. What has been called so
far may differ. -/
def SameButHistory (s t : Set) : Prop :=
  (∃ fault, s.transport.history = .error fault) ∧
    ∃ journal, t = { s with
      transport := { s.transport with history := .ok [] }
      journal := journal }

theorem lacksHistory : partner.LacksHistory partner SameButHistory where
  same := by
    rintro ⟨⟨selfId, history, ignoresLimit, typing, sends⟩, service, commands, journal⟩ _ call
      ⟨_, journal', rfl⟩ hcall
    cases call with
    | history channel before limit => exact absurd rfl hcall
    | send message text => cases sends <;> rfl
    | _ => rfl
  answered := by
    rintro s t call _ hcall
    cases call with
    | history channel before limit => exact ⟨rfl, rfl⟩
    | _ => cases hcall
  kept := by
    rintro ⟨⟨selfId, history, ignoresLimit, typing, sends⟩, service, commands, journal⟩ _ call
      ⟨⟨fault, hfault⟩, journal', rfl⟩
    cases call with
    | send message text => cases sends <;> exact ⟨⟨fault, hfault⟩, _, rfl⟩
    | _ => exact ⟨⟨fault, hfault⟩, _, rfl⟩
  lost := by
    rintro s _ channel before limit ⟨⟨fault, hfault⟩, journal, rfl⟩
    refine ⟨⟨fault, ?_⟩, ?_⟩
    · show some (s.transport.history.map _) = _
      rw [hfault]
      rfl
    · show some (Except.ok (if s.transport.ignoresLimit then [] else List.take limit [])) = _
      rw [List.take_nil, ite_self]
  excused := by
    rintro s _ message fault ⟨hfault, journal, rfl⟩
    exact ⟨rfl, hfault, journal, rfl⟩

end Rehearsal

namespace Router

open Rehearsal

/-- In the scene, it cannot be shown that an answer is being written. -/
def quietScene : Set :=
  { scene with transport := { scene.transport with typing := .error (.connectionLost "closed") } }

/-- In the scene, the history cannot be had. -/
def forgetfulScene : Set :=
  { scene with
    transport := { scene.transport with history := .error (.noHistory "general" "closed") } }

theorem handle_indifferent_of_scenes :
    (((bot.handle claim).exchanges partner scene).map Exchange.call =
        ((bot.handle claim).exchanges partner quietScene).map Exchange.call ∧
      ((bot.handle claim).run partner scene).1 = ((bot.handle claim).run partner quietScene).1 ∧
      (((bot.handle claim).exchanges partner scene).filter (·.call.isTyping)).length = 2) ∧
    Exchange.Bereft claim ((bot.handle claim).exchanges partner forgetfulScene)
      ((bot.handle claim).exchanges partner scene) ∧
    ((bot.handle claim).run partner forgetfulScene).1 = ((bot.handle claim).run partner scene).1 ∧
    ((bot.handle claim).exchanges partner forgetfulScene).length =
      ((bot.handle claim).exchanges partner scene).length + 1 := by
  have htyping : SameButTyping scene quietScene := ⟨_, rfl⟩
  have hhistory : SameButHistory forgetfulScene scene := ⟨⟨_, rfl⟩, _, rfl⟩
  obtain ⟨hcalls, -, houtcome⟩ :=
    (handle_indifferent bot claim partner partner SameButTyping).1 alikeBut_typing _ _ htyping
  obtain ⟨hbereft, houtcome'⟩ :=
    (handle_indifferent bot claim partner partner SameButHistory).2 lacksHistory _ _ hhistory
  exact ⟨⟨hcalls, houtcome, by decide +kernel⟩, hbereft, houtcome', by decide +kernel⟩

end Router

end Gadfly
