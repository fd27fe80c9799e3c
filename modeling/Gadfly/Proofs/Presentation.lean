/-
  Gadfly.Proofs.Presentation

  How an answer is presented makes no difference.

  All that `Router.handle` takes from an answer of the completion service is its normal form
  (`Response.normal`): a text without blanks at its ends, and two numbers. So answers with the
  same normal form are alike (`sameNormal`), and a question comes to the same with them
  (`Router.overlooks_sameNormal`), which is all that the handling needs to respect that likeness.
  When the answers in a script are replaced by others like them (`Rehearsal.Retouched`), the bot
  makes the same calls, reports the same costs and comes to the same outcome.

  Main definitions: `sameNormal`, `Rehearsal.Turn.SameNormal`, `Rehearsal.Retouched`.
  Main statements: `Router.overlooks_sameNormal`, `Rehearsal.alike_retouched`,
  `Router.sees_normal_forms_only`.
-/

import Gadfly.Proofs.Fragments
import Gadfly.Proofs.Likeness

namespace Gadfly

open Dialogue

/-- Completions are alike when they have the same normal form (`Response.normal`); other answers
only when they are the same. -/
def sameNormal : Likeness
  | .complete _ => fun first second => first.map Response.normal = second.map Response.normal
  | _ => fun first second => first = second

namespace Router

/-- Questions come to the same, and cost the same, with answers of the same normal form: the router
`Overlooks` such a difference. -/
theorem overlooks_sameNormal (router : Router) : router.Overlooks sameNormal where
  eq_of_like call hcall _ first second h := by
    cases call with
    | complete request => cases hcall
    | _ => exact h
  asks purpose model prompt messageId := by
    refine ⟨fun first second h => ?_, fun answer => ?_⟩
    · replace h : first.map Response.normal = second.map Response.normal := h
      cases first with
      | error fault =>
        cases second with
        | error other =>
          obtain rfl : fault = other := Except.error.inj h
          rfl
        | ok response => cases h
      | ok response =>
        cases second with
        | error other => cases h
        | ok other =>
          -- The normal form is all that the cost is made of, and all that is handed on.
          have hnormal : response.normal = other.normal := Except.ok.inj h
          show (report _).bind _ = (report _).bind _
          rw [hnormal]
    · cases answer with
      | error fault => trivial
      | ok response => exact respects_call_bind trivial

end Router

/-! ## Scripts -/

namespace Rehearsal

/-- The same turn, or an answer with the same normal form. -/
inductive Turn.SameNormal : Turn → Turn → Prop
  | same (turn : Turn) : SameNormal turn turn
  | answer {first second : Response} (h : first.normal = second.normal) :
      SameNormal (.answer (.ok first)) (.answer (.ok second))

variable {τ : Type}

/-- Two stages with scripts of which some answers were replaced by others with the same normal
form, and no other difference. -/
def Retouched (first second : Stage τ (List Turn)) : Prop :=
  List.Forall₂ Turn.SameNormal first.service second.service ∧
    second = { first with service := second.service }

theorem alike_retouched (transport : Transport τ) :
    (Stage.partner transport service).Alike sameNormal (Stage.partner transport service)
      Retouched where
  answers := by
    rintro ⟨t, turns, commands, journal⟩ ⟨_, turns', _, _⟩ call ⟨hturns, hsame⟩
    cases hsame
    cases call with
    | complete request =>
      cases hturns with
      | nil => exact .some rfl
      | @cons turn _ _ _ hturn _ =>
        cases hturn with
        | same =>
          cases turn with
          | answer result => exact .some rfl
          | breakdown => exact .none
        | answer hnormal => exact .some (congrArg Except.ok hnormal)
    | _ => exact .some rfl
  kept := by
    rintro ⟨t, turns, commands, journal⟩ ⟨_, turns', _, _⟩ call ⟨hturns, hsame⟩
    cases hsame
    cases call with
    | complete request =>
      cases hturns with
      | nil => exact ⟨.nil, rfl⟩
      | @cons turn _ _ _ hturn hrest =>
        cases hturn with
        | same => cases turn <;> exact ⟨hrest, rfl⟩
        | answer hnormal => exact ⟨hrest, rfl⟩
    | _ => exact ⟨hturns, rfl⟩

end Rehearsal

/-! ## The whole bot -/

namespace Router

open Rehearsal

/-- All that is seen of an answer is its normal form (`Response.normal`). It does not depend on the
output behind a text in one piece that is not blank. Without such a text it depends on no more of
the output than what the fragments come to, so the output can be rearranged, and the fragments can
be moved to the front. There are no blanks at the ends of it. And whatever of the answers in a
script is replaced by answers of the same normal form (`Rehearsal.Retouched`), the handling of a
message makes the same calls and comes to the same outcome, on stages that stay the same but for the
scripts. -/
theorem sees_normal_forms_only :
    (∀ (response : Response) (text : String), response.outputText = some text →
      text.allBlank = false → ∀ output,
        { response with output := output }.normal = response.normal) ∧
    (∀ response : Response, response.Unsaid →
      (∀ output, Relation.EqvGen Item.Rearranged response.output output →
        { response with output := output }.normal = response.normal) ∧
      ∀ output, output = response.output ∨ output = [] →
        { response with outputText := some response.fragments, output := output }.normal =
          response.normal) ∧
    (∀ response : Response, response.normal.text.trimmed = response.normal.text) ∧
    ∀ (router : Router) (message : Message) (τ : Type) (transport : Transport τ)
      (stage : Stage τ (List Turn)) (turns : List Turn),
      List.Forall₂ Turn.SameNormal stage.service turns →
        let partner := Stage.partner transport service
        let first := (router.handle message).run partner stage
        let second := (router.handle message).run partner { stage with service := turns }
        ((router.handle message).exchanges partner stage).map Exchange.call =
            ((router.handle message).exchanges partner { stage with service := turns }).map
              Exchange.call ∧
          first.1 = second.1 ∧ Retouched first.2 second.2 := by
  refine ⟨?_, ?_, ?_, ?_⟩
  · intro response text htext hblank output
    exact Response.normal_of_not_blank htext hblank output
  · intro response hunsaid
    constructor
    · intro output hrearranged
      have hjoined := Item.joined_eq_of_eqvGen hrearranged
      exact Response.normal_of_joined_eq hunsaid hjoined
    · intro output houtput
      exact Response.normal_gathered hunsaid houtput
  · intro response
    exact response.trimmed_normal
  · intro router message τ transport stage turns hturns
    -- Stages that are retouched stay so, and the handling respects the likeness of their answers.
    have hstart : Retouched stage { stage with service := turns } := ⟨hturns, rfl⟩
    obtain ⟨htraces, hresults, hstages⟩ :=
      ((overlooks_sameNormal router).respects_handle message).alike (alike_retouched transport)
        hstart
    exact ⟨Exchange.map_call_eq_of_alike htraces, hresults, hstages⟩

/-- The scene with its last two answers in other pieces. -/
def scattered : Set :=
  { scene with
    service :=
      [.answer (.ok (.ofText "It does not.")),
        .answer (.ok ⟨some " ", [⟨none, []⟩, ⟨some "message", [⟨none, some " y"⟩, ⟨none, none⟩]⟩,
          ⟨none, [⟨none, some "es\n"⟩]⟩], none, some "mini"⟩),
        .answer (.ok ⟨some "It still does not. ", [⟨none, [⟨none, some "unseen"⟩]⟩],
          some ⟨0, 0, 5⟩, none⟩)] }

theorem sees_normal_forms_only_of_scattered :
    List.Forall₂ Turn.SameNormal scene.service scattered.service ∧
      scene.service ≠ scattered.service ∧
      ((bot.handle claim).exchanges partner scene).map Exchange.call =
        ((bot.handle claim).exchanges partner scattered).map Exchange.call ∧
      ((bot.handle claim).run partner scene).1 = ((bot.handle claim).run partner scattered).1 ∧
      ((bot.handle claim).run partner scene).1 ≠ none := by
  have hyes : (Response.ofText "yes").normal =
      Response.normal ⟨some " ", [⟨none, []⟩, ⟨some "message", [⟨none, some " y"⟩, ⟨none, none⟩]⟩,
        ⟨none, [⟨none, some "es\n"⟩]⟩], none, some "mini"⟩ := by decide +kernel
  have hstill : (Response.ofText "It still does not.").normal =
      Response.normal ⟨some "It still does not. ", [⟨none, [⟨none, some "unseen"⟩]⟩],
        some ⟨0, 0, 5⟩, none⟩ := by decide +kernel
  have hturns : List.Forall₂ Turn.SameNormal scene.service scattered.service :=
    .cons (.same _) (.cons (.answer hyes) (.cons (.answer hstill) .nil))
  obtain ⟨hcalls, houtcomes, -⟩ := sees_normal_forms_only.2.2.2 bot claim Channel transport scene
    scattered.service hturns
  have hother : scene.service ≠ scattered.service := by
    simp [scene, scattered, Stage.fresh, Response.ofText]
  have hended : ((bot.handle claim).run partner scene).1 ≠ none := by decide +kernel
  exact ⟨hturns, hother, hcalls, houtcomes, hended⟩

end Router

end Gadfly
