/-
  Gadfly.Proofs.Fragments

  Answers that say the same in other pieces.

  The text of a `Response` may come in fragments, spread over the parts of output items. A
  fragment or an item can be taken apart, and put together again; items without content and parts
  without text can stand anywhere (`Item.Rearranged`). None of this changes what the fragments
  come to one after the other (`Item.joined`), and there is nothing else that it keeps: any two
  outputs whose fragments come to the same text can be made of each other by such steps
  (`eqvGen_rearranged_iff`). A text in one piece, `outputText`, goes before all fragments unless
  it is blank, and may be what they come to.

  Main definitions: `Part.joined`, `Item.joined`, `Item.Rearranged`.
  Main statements: `Item.eqvGen_rearranged_iff`, `Response.normal_of_not_blank`,
  `Response.normal_of_joined_eq`, `Response.normal_gathered`, `Response.trimmed_normal`.
-/

import Mathlib.Data.List.Induction
import Mathlib.Logic.Relation
import Gadfly.Completion
import Gadfly.Proofs.Blank

namespace Gadfly

open Text Relation

/-! ## What fragments come to -/

/-- The text of a part, which may have none. -/
def Part.said (part : Part) : String :=
  part.text.getD ""

/-- The texts of parts, one after the other. -/
def Part.joined (parts : List Part) : String :=
  String.join (parts.filterMap (·.text))

/-- The texts of all parts of items, one after the other. -/
def Item.joined (items : List Item) : String :=
  Part.joined (items.flatMap (·.content))

namespace Part

@[simp] theorem joined_nil : joined [] = "" := rfl

@[simp] theorem joined_cons (part : Part) (parts : List Part) :
    joined (part :: parts) = part.said ++ joined parts := by
  obtain ⟨kind, _ | text⟩ := part
  · rw [said, Option.getD_none, String.empty_append]
    rfl
  · exact String.join_cons

@[simp] theorem joined_append (front back : List Part) :
    joined (front ++ back) = joined front ++ joined back := by
  rw [joined, List.filterMap_append, String.join_append, joined, joined]

end Part

namespace Item

@[simp] theorem joined_nil : joined [] = "" := rfl

@[simp] theorem joined_cons (item : Item) (items : List Item) :
    joined (item :: items) = Part.joined item.content ++ joined items := by
  rw [joined, List.flatMap_cons, Part.joined_append, joined]

@[simp] theorem joined_append (before after : List Item) :
    joined (before ++ after) = joined before ++ joined after := by
  rw [joined, List.flatMap_append, Part.joined_append, joined, joined]

/-! ## Taking apart and putting in -/

/-- One step by which output is presented in another way. The kinds of what is taken apart or put
in are of no account. -/
inductive Rearranged : List Item → List Item → Prop
  /-- A fragment is taken apart. -/
  | fragment (before after : List Item) (kind : Option String) (front back : List Part)
      (whole first second : Option String) (text text' : String) :
      Rearranged
        (before ++ ⟨kind, front ++ ⟨whole, some (text ++ text')⟩ :: back⟩ :: after)
        (before ++ ⟨kind, front ++ ⟨first, some text⟩ :: ⟨second, some text'⟩ :: back⟩ :: after)
  /-- An item is taken apart. -/
  | item (before after : List Item) (whole first second : Option String)
      (front back : List Part) :
      Rearranged (before ++ ⟨whole, front ++ back⟩ :: after)
        (before ++ ⟨first, front⟩ :: ⟨second, back⟩ :: after)
  /-- An item without content is put in. -/
  | contentless (before after : List Item) (kind : Option String) :
      Rearranged (before ++ after) (before ++ ⟨kind, []⟩ :: after)
  /-- A part without text is put in. -/
  | textless (before after : List Item) (kind : Option String) (front back : List Part)
      (part : Part) (htext : part.said = "") :
      Rearranged (before ++ ⟨kind, front ++ back⟩ :: after)
        (before ++ ⟨kind, front ++ part :: back⟩ :: after)

variable {items items' : List Item}

theorem Rearranged.joined_eq (h : Rearranged items items') : joined items = joined items' := by
  cases h with
  | fragment before after kind front back whole first second text text' =>
    simp [Part.said, String.append_assoc]
  | item before after whole first second front back => simp [String.append_assoc]
  | contentless before after kind => simp
  | textless before after kind front back part htext => simp [htext]

theorem joined_eq_of_eqvGen (h : EqvGen Rearranged items items') :
    joined items = joined items' := by
  induction h with
  | rel _ _ hstep => exact hstep.joined_eq
  | refl _ => rfl
  | symm _ _ _ ih => exact ih.symm
  | trans _ _ _ _ _ hfirst hsecond => exact hfirst.trans hsecond

/-- What can be done to output can be done to it behind an item. -/
theorem Rearranged.cons (h : Rearranged items items') (item : Item) :
    Rearranged (item :: items) (item :: items') := by
  cases h with
  | fragment before after kind front back whole first second text text' =>
    exact .fragment (item :: before) after kind front back whole first second text text'
  | item before after whole first second front back =>
    exact .item (_ :: before) after whole first second front back
  | contentless before after kind => exact .contentless (item :: before) after kind
  | textless before after kind front back part htext =>
    exact .textless (item :: before) after kind front back part htext

theorem eqvGen_cons (h : EqvGen Rearranged items items') (item : Item) :
    EqvGen Rearranged (item :: items) (item :: items') := by
  induction h with
  | rel _ _ hstep => exact .rel _ _ (hstep.cons item)
  | refl _ => exact .refl _
  | symm _ _ _ ih => exact .symm _ _ ih
  | trans _ _ _ _ _ hfirst hsecond => exact .trans _ _ _ hfirst hsecond

/-! ## One piece -/

/-- A text as the only fragment of the only item. -/
def single (text : String) : List Item :=
  [⟨none, [⟨none, some text⟩]⟩]

/-- Parts before a last fragment can be put together with it, from the last of them on. -/
theorem eqvGen_single_of_parts (parts : List Part) (text : String) :
    EqvGen Rearranged [⟨none, parts ++ [⟨none, some text⟩]⟩]
      (single (Part.joined parts ++ text)) := by
  induction parts using List.reverseRecOn generalizing text with
  | nil =>
    rw [Part.joined_nil, String.empty_append]
    exact .refl _
  | append_singleton parts part ih =>
    obtain ⟨kind, said⟩ := part
    rw [List.append_assoc, List.singleton_append, Part.joined_append, Part.joined_cons,
      Part.joined_nil, String.append_empty, String.append_assoc]
    cases said with
    | none =>
      -- The part says nothing and could as well have been put in.
      have hput := Rearranged.textless [] [] none parts [⟨none, some text⟩] ⟨kind, none⟩ rfl
      exact .trans _ _ _ (.symm _ _ (.rel _ _ hput)) (by simpa [Part.said] using ih text)
    | some said =>
      -- The two last fragments could as well come of one.
      have hsplit := Rearranged.fragment [] [] none parts [] none kind none said text
      exact .trans _ _ _ (.symm _ _ (.rel _ _ hsplit)) (ih (said ++ text))

/-- All output can be put together to one fragment. -/
theorem eqvGen_single (items : List Item) :
    EqvGen Rearranged items (single (joined items)) := by
  induction items with
  | nil =>
    have hitem := Rearranged.contentless [] [] none
    have hpart := Rearranged.textless [] [] none [] [] ⟨none, some ""⟩ rfl
    exact .trans _ _ _ (.rel _ _ hitem) (.rel _ _ hpart)
  | cons item items ih =>
    obtain ⟨kind, content⟩ := item
    have hrest := eqvGen_cons ih ⟨kind, content⟩
    -- What was put together so far is the second of two items that could come of one.
    have hapart := Rearranged.item [] [] none kind none content [⟨none, some (joined items)⟩]
    have hone := eqvGen_single_of_parts content (joined items)
    rw [joined_cons]
    exact .trans _ _ _ hrest (.trans _ _ _ (.symm _ _ (.rel _ _ hapart)) hone)

/-- Output can be rearranged (`Rearranged`) to other output exactly if the fragments of both come to
the same text (`joined`). -/
theorem eqvGen_rearranged_iff :
    EqvGen Rearranged items items' ↔ joined items = joined items' := by
  refine ⟨joined_eq_of_eqvGen, fun h => ?_⟩
  have hsecond := eqvGen_single items'
  rw [← h] at hsecond
  exact .trans _ _ _ (eqvGen_single items) (.symm _ _ hsecond)

end Item

/-! ## Normal forms -/

namespace Response

variable {response : Response}

/-- There is no text in one piece, or a blank one. -/
def Unsaid (response : Response) : Prop :=
  ∀ text, response.outputText = some text → text.allBlank = true

theorem fragments_eq (response : Response) : response.fragments = Item.joined response.output :=
  rfl

theorem text_of_unsaid (h : response.Unsaid) : response.text = Item.joined response.output := by
  rw [text, ← fragments_eq]
  split
  · rename_i text htext
    rw [if_pos (h text htext)]
  · rfl

/-- Two answers have the same normal form if their texts are the same but for blanks at the
ends, and they tell the same numbers of tokens. -/
theorem normal_congr {other : Response} (htext : response.text.trimmed = other.text.trimmed)
    (husage : response.usage = other.usage) : response.normal = other.normal := by
  rw [normal, normal, htext, husage]

/-- Behind a text in one piece (`outputText`) that is not blank, the output does not matter for
`normal`. -/
theorem normal_of_not_blank {text : String} (htext : response.outputText = some text)
    (hblank : text.allBlank = false) (output : List Item) :
    { response with output }.normal = response.normal := by
  refine normal_congr ?_ rfl
  have hother : { response with output }.text = text := text_of_not_blank htext hblank
  rw [text_of_not_blank htext hblank, hother]

/-- Without such a text all that counts of the output is what its fragments come to
(`Item.joined`). -/
theorem normal_of_joined_eq (h : response.Unsaid) {output : List Item}
    (hjoined : Item.joined response.output = Item.joined output) :
    { response with output }.normal = response.normal := by
  refine normal_congr ?_ rfl
  have hother : { response with output }.text = Item.joined output := text_of_unsaid h
  rw [text_of_unsaid h, hother, hjoined]

theorem trimmed_eq_empty {text : String} (h : text.allBlank = true) : text.trimmed = "" := by
  rw [String.trimmed, trim_eq_nil_iff.2 h, String.ofList_nil]

/-- What the `fragments` come to can be moved to the front, and the output can be left or
emptied. -/
theorem normal_gathered (h : response.Unsaid) {output : List Item}
    (houtput : output = response.output ∨ output = []) :
    { response with outputText := some response.fragments, output := output }.normal =
      response.normal := by
  refine normal_congr ?_ rfl
  rw [text_of_unsaid h, ← fragments_eq]
  cases hblank : response.fragments.allBlank with
  | false =>
    refine congrArg String.trimmed ?_
    exact text_of_not_blank rfl hblank
  | true =>
    -- Blank fragments are passed over at the front, and behind stands what is no better.
    have hunsaid : Unsaid
        { response with outputText := some response.fragments, output := output } :=
      fun text htext => Option.some.inj htext ▸ hblank
    rw [trimmed_eq_empty hblank, text_of_unsaid hunsaid]
    obtain rfl | rfl := houtput
    · exact trimmed_eq_empty hblank
    · rfl

/-- There are no blanks at the ends of the text of a `normal` form. -/
theorem trimmed_normal (response : Response) :
    response.normal.text.trimmed = response.normal.text := by
  rw [normal, String.trimmed, String.trimmed, String.toList_ofList, trim_trim]

end Response

end Gadfly
