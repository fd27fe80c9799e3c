/-
  Gadfly.Proofs.Spelling

  Spellings of names.

  A canonical name can be written in one pass over a name (`sweep`): joints become hyphens, a
  hyphen is left out at the beginning and after a hyphen, and the hyphen that may be left over at
  the end is taken back (`sweep_eq`). What the pass has written after some characters is their
  canonical name, with a hyphen behind it if they end between two parts (`Swept`). So a canonical
  name has hyphens in it, one at a time, and no other joints (`Plain`).

  Texts that spell the same parts, with capitals of ASCII and with joints as one likes
  (`Spelled`), have one canonical name.

  Main definitions: `Plain`, `Swept`, `SameLetters`, `Spelled`.
  Main statements: `canonicalChars_append`, `swept_foldl`, `sweep_eq`, `Spelled.parts_eq`,
  `canonical_by_spelling`.
-/

import Mathlib.Data.List.Chain
import Mathlib.Data.List.Forall2
import Gadfly.Proofs.Canonical
import Gadfly.Proofs.Lowering

namespace Gadfly

open Text

/-! ## Lists put together -/

namespace Text

variable {sep front back : List Char} {before after : List (List Char)}

theorem intercalate_append (hbefore : before ≠ []) (hafter : after ≠ []) :
    sep.intercalate (before ++ after) = sep.intercalate before ++ sep ++ sep.intercalate after := by
  induction before with
  | nil => exact absurd rfl hbefore
  | cons first rest ih =>
    cases rest with
    | nil =>
      rw [List.singleton_append, List.intercalate_cons_of_ne_nil hafter, List.intercalate_singleton]
    | cons next rest =>
      rw [List.cons_append, List.cons_append, List.intercalate_cons_cons, ← List.cons_append,
        ih (List.cons_ne_nil next rest), List.intercalate_cons_cons]
      simp only [List.append_assoc]

/-- A text with separators can be cut within a part. -/
theorem intercalate_append_within :
    sep.intercalate (before ++ (front ++ back) :: after) =
      sep.intercalate (before ++ [front]) ++ sep.intercalate (back :: after) := by
  have hwithin : sep.intercalate ((front ++ back) :: after) =
      front ++ sep.intercalate (back :: after) := by
    cases after with
    | nil => rw [List.intercalate_singleton, List.intercalate_singleton]
    | cons next rest =>
      rw [List.intercalate_cons_cons, List.intercalate_cons_cons]
      simp only [List.append_assoc]
  by_cases hbefore : before = []
  · rw [hbefore, List.nil_append, List.nil_append, hwithin, List.intercalate_singleton]
  · rw [intercalate_append hbefore (List.cons_ne_nil _ _), hwithin,
      intercalate_append hbefore (List.cons_ne_nil _ _), List.intercalate_singleton]
    simp only [List.append_assoc]

theorem splitOnP_map {p : Char → Bool} (f : Char → Char) (cs : List Char) :
    (cs.map f).splitOnP p = (cs.splitOnP (p ∘ f)).map (List.map f) := by
  induction cs with
  | nil => rfl
  | cons c rest ih =>
    obtain ⟨part, parts, hparts⟩ := List.exists_cons_of_ne_nil (List.splitOnP_ne_nil (p ∘ f) rest)
    rw [List.map_cons, List.splitOnP_cons_eq_if_modifyHead, List.splitOnP_cons_eq_if_modifyHead,
      ih, hparts, Function.comp_apply]
    split <;> rfl

end Text

namespace Price

variable {name front back part low out done : List Char} {c joint : Char}

/-! ## Names put together -/

theorem parts_eq (name : List Char) :
    parts name = (name.splitOnP isJoint).filter (!·.isEmpty) := by
  rw [parts, pieces, cutWhere_eq_splitOnP]

theorem parts_append_joint (hjoint : isJoint joint = true) (front back : List Char) :
    parts (front ++ joint :: back) = parts front ++ parts back := by
  rw [parts_eq, List.splitOnP_append_cons _ _ hjoint, List.filter_append, ← parts_eq, ← parts_eq]

/-- Two texts have the parts of both if there is a joint where they meet. -/
theorem parts_append (h : (∀ c ∈ front.getLast?, isJoint c = true) ∨
    ∀ c ∈ back.head?, isJoint c = true) : parts (front ++ back) = parts front ++ parts back := by
  rcases h with h | h
  · obtain rfl | ⟨before, joint, rfl⟩ := List.eq_nil_or_concat front
    · rfl
    · rw [List.concat_eq_append] at h ⊢
      have hjoint : isJoint joint = true := h joint (by simp)
      have hlast : parts (before ++ [joint]) = parts before := by
        rw [parts_append_joint hjoint]
        exact List.append_nil _
      rw [List.append_assoc, List.singleton_append, parts_append_joint hjoint, hlast]
  · cases back with
    | nil => exact (congrArg parts (List.append_nil front)).trans (List.append_nil _).symm
    | cons joint rest =>
      have hjoint : isJoint joint = true := h joint rfl
      rw [parts_append_joint hjoint, ← List.nil_append (joint :: rest), parts_append_joint hjoint]
      rfl

theorem parts_of_unjointed (hpart : ∀ c ∈ part, isJoint c = false) (hne : part ≠ []) :
    parts part = [part] := by
  rw [parts_eq, List.splitOnP_eq_singleton hpart]
  cases part with
  | nil => exact absurd rfl hne
  | cons c rest => rfl

/-- A run of joints. -/
def IsRun (run : List Char) : Prop :=
  ∀ c ∈ run, isJoint c = true

instance (run : List Char) : Decidable (IsRun run) :=
  List.decidableBAll _ run

theorem IsRun.parts_eq_nil {run : List Char} (h : IsRun run) : parts run = [] := by
  induction run with
  | nil => rfl
  | cons joint rest ih =>
    rw [IsRun, List.forall_mem_cons] at h
    rw [← List.nil_append (joint :: rest), parts_append_joint h.1, ih h.2]
    rfl

theorem IsRun.parts_append {run : List Char} (h : IsRun run) (text : List Char) :
    parts (run ++ text) = parts text := by
  rw [Price.parts_append (.inl fun c hc => h c (List.mem_of_getLast? hc)), h.parts_eq_nil]
  rfl

theorem IsRun.append_parts {run : List Char} (h : IsRun run) (text : List Char) :
    parts (text ++ run) = parts text := by
  rw [Price.parts_append (.inr fun c hc => h c (List.mem_of_mem_head? hc)), h.parts_eq_nil,
    List.append_nil]

/-- The last part of a text that does not end with a joint. -/
theorem exists_last_part (h : ∃ c ∈ front.getLast?, isJoint c = false) :
    ∃ before last, front = before ++ last ∧ (∀ c ∈ before.getLast?, isJoint c = true) ∧
      (∀ c ∈ last, isJoint c = false) ∧ last ≠ [] := by
  obtain ⟨c, hc, hpart⟩ := h
  have hlast : ∀ d ∈ front.rtakeWhile (!isJoint ·), isJoint d = false := by
    intro d hd
    simpa using List.mem_rtakeWhile_imp hd
  refine ⟨front.rdropWhile (!isJoint ·), front.rtakeWhile (!isJoint ·), ?_, ?_, hlast, ?_⟩
  · exact List.rdropWhile_append_rtakeWhile.symm
  · intro d hd
    obtain ⟨hne, rfl⟩ := List.mem_getLast?_eq_getLast hd
    simpa using List.rdropWhile_last_not (!isJoint ·) front hne
  · obtain ⟨rest, rfl⟩ := List.getLast?_eq_some_iff.1 hc
    rw [List.rtakeWhile_concat_pos _ _ _ (by simp [hpart])]
    exact List.append_ne_nil_of_right_ne_nil _ (List.cons_ne_nil _ _)

/-- The first part of a text that does not begin with a joint. -/
theorem exists_first_part (h : ∃ c ∈ back.head?, isJoint c = false) :
    ∃ first after, back = first ++ after ∧ (∀ c ∈ after.head?, isJoint c = true) ∧
      (∀ c ∈ first, isJoint c = false) ∧ first ≠ [] := by
  obtain ⟨c, hc, hpart⟩ := h
  have hfirst : ∀ d ∈ back.takeWhile (!isJoint ·), isJoint d = false := by
    intro d hd
    simpa using List.mem_takeWhile_imp hd
  refine ⟨back.takeWhile (!isJoint ·), back.dropWhile (!isJoint ·), ?_, ?_, hfirst, ?_⟩
  · exact List.takeWhile_append_dropWhile.symm
  · intro d hd
    have hstop := List.head?_dropWhile_not (!isJoint ·) back
    rw [Option.mem_def.1 hd] at hstop
    simpa using hstop
  · obtain ⟨rest, rfl⟩ := List.head?_eq_some_iff.1 hc
    rw [List.takeWhile_cons_of_pos (by simp [hpart])]
    exact List.cons_ne_nil _ _

/-! ## Canonical names put together -/

theorem canonicalChars_of_parts_eq_nil (h : parts name = []) : canonicalChars name = [] := by
  rw [canonicalChars, h]
  rfl

theorem canonicalChars_of_unjointed (hpart : ∀ c ∈ part, isJoint c = false) (hne : part ≠ []) :
    canonicalChars part = part.flatMap lowerChar := by
  rw [canonicalChars, parts_of_unjointed hpart hne, List.map_singleton, List.intercalate_singleton]

/-- Where two texts meet at a joint, there is a hyphen between their canonical names. -/
theorem canonicalChars_append_of_joint (h : (∀ c ∈ front.getLast?, isJoint c = true) ∨
    ∀ c ∈ back.head?, isJoint c = true) (hfront : parts front ≠ []) (hback : parts back ≠ []) :
    canonicalChars (front ++ back) = canonicalChars front ++ '-' :: canonicalChars back := by
  have hfrontLow : (parts front).map (·.flatMap lowerChar) ≠ [] := by simpa using hfront
  have hbackLow : (parts back).map (·.flatMap lowerChar) ≠ [] := by simpa using hback
  rw [canonicalChars, parts_append h, List.map_append, intercalate_append hfrontLow hbackLow,
    List.append_assoc, List.singleton_append, canonicalChars, canonicalChars]

/-- Where two texts meet within a part, their canonical names do, too (`canonicalChars`). -/
theorem canonicalChars_append (hfront : ∃ c ∈ front.getLast?, isJoint c = false)
    (hback : ∃ c ∈ back.head?, isJoint c = false) :
    canonicalChars (front ++ back) = canonicalChars front ++ canonicalChars back := by
  obtain ⟨before, last, rfl, hbefore, hlast, hlastNe⟩ := exists_last_part hfront
  obtain ⟨first, after, rfl, hafter, hfirst, hfirstNe⟩ := exists_first_part hback
  have hmiddle : ∀ c ∈ last ++ first, isJoint c = false := List.forall_mem_append.2 ⟨hlast, hfirst⟩
  have hmiddleNe : last ++ first ≠ [] := List.append_ne_nil_of_left_ne_nil hlastNe first
  have hleft : parts (before ++ last) = parts before ++ [last] := by
    rw [parts_append (.inl hbefore), parts_of_unjointed hlast hlastNe]
  have hright : parts (first ++ after) = first :: parts after := by
    rw [parts_append (.inr hafter), parts_of_unjointed hfirst hfirstNe]
    rfl
  have hwhole : parts (before ++ last ++ (first ++ after)) =
      parts before ++ (last ++ first) :: parts after := by
    rw [List.append_assoc, ← List.append_assoc last, parts_append (.inl hbefore),
      parts_append (.inr hafter), parts_of_unjointed hmiddle hmiddleNe]
    rfl
  simp only [canonicalChars, hwhole, hleft, hright, List.map_append, List.map_cons, List.map_nil,
    List.flatMap_append]
  exact intercalate_append_within

/-! ## Plain names -/

theorem isJoint_eq_false_iff : isJoint c = false ↔ isBlank c = false ∧ c ≠ '_' ∧ c ≠ '-' := by
  simp [isJoint, and_assoc]

/-- A text that begins with a part, and in which hyphens are the only joints and stand one at a
time. -/
structure Spaced (name : List Char) : Prop where
  no_blank : ∀ c ∈ name, isBlank c = false
  no_underscore : '_' ∉ name
  /-- Of two neighbours, one is no hyphen. -/
  no_double : name.IsChain fun a b => a = '-' → b ≠ '-'
  no_front : name.head? ≠ some '-'

/-- A text that also ends with a part. -/
structure Plain (name : List Char) : Prop extends Spaced name where
  no_back : name.getLast? ≠ some '-'

theorem plain_nil : Plain [] where
  no_blank := nofun
  no_underscore := nofun
  no_double := .nil
  no_front := nofun
  no_back := nofun

theorem isChain_of_unjointed (hlow : ∀ c ∈ low, isJoint c = false) :
    low.IsChain fun a b => a = '-' → b ≠ '-' := by
  apply List.Pairwise.isChain
  apply List.pairwise_of_forall_mem_list
  intro a ha b _ hhyphen
  exact absurd hhyphen (isJoint_eq_false_iff.1 (hlow a ha)).2.2

/-- Such a text goes on with what has no joints. -/
theorem Spaced.append (h : Spaced out) (hlow : ∀ c ∈ low, isJoint c = false) :
    Spaced (out ++ low) where
  no_blank := List.forall_mem_append.2
    ⟨h.no_blank, fun c hc => (isJoint_eq_false_iff.1 (hlow c hc)).1⟩
  no_underscore := by
    rw [List.mem_append, not_or]
    exact ⟨h.no_underscore, fun hc => (isJoint_eq_false_iff.1 (hlow _ hc)).2.1 rfl⟩
  no_double := by
    rw [List.isChain_append]
    refine ⟨h.no_double, isChain_of_unjointed hlow, fun a _ b hb _ => ?_⟩
    exact (isJoint_eq_false_iff.1 (hlow b (List.mem_of_mem_head? hb))).2.2
  no_front := by
    cases out with
    | nil =>
      intro hhead
      exact (isJoint_eq_false_iff.1 (hlow _ (List.mem_of_mem_head? hhead))).2.2 rfl
    | cons c rest => exact h.no_front

theorem Spaced.plain_append (h : Spaced out) (hlow : ∀ c ∈ low, isJoint c = false)
    (hne : low ≠ []) : Plain (out ++ low) where
  toSpaced := h.append hlow
  no_back := by
    rw [List.getLast?_append_of_ne_nil _ hne]
    intro hlast
    exact (isJoint_eq_false_iff.1 (hlow _ (List.mem_of_getLast? hlast))).2.2 rfl

/-- A hyphen can stand behind a part. -/
theorem Plain.concat_hyphen (h : Plain out) (hne : out ≠ []) : Spaced (out ++ ['-']) where
  no_blank := List.forall_mem_append.2 ⟨h.no_blank, List.forall_mem_singleton.2 (by decide)⟩
  no_underscore := by
    rw [List.mem_append, not_or]
    exact ⟨h.no_underscore, by decide⟩
  no_double := by
    rw [List.isChain_append]
    refine ⟨h.no_double, List.isChain_singleton _, fun a ha b _ hhyphen => ?_⟩
    subst hhyphen
    exact absurd ha h.no_back
  no_front := by
    rw [List.head?_append_of_ne_nil _ hne]
    exact h.no_front

/-! ## One pass over a name -/

theorem sweepStep_joint (out : List Char) (hjoint : isJoint joint = true) :
    sweepStep out joint =
      if out = [] ∨ out.getLast? = some '-' then out else out ++ ['-'] := by
  have hhyphen : (if isBlank joint ∨ joint = '_' then '-' else joint) = '-' := by
    split
    · rfl
    · rename_i hother
      simpa [isJoint, not_or.1 hother] using hjoint
  have hlower : lowerChar '-' = ['-'] := by decide +kernel
  simp only [sweepStep, hhyphen, hlower, true_and]

theorem sweepStep_part (out : List Char) (hc : isJoint c = false) :
    sweepStep out c = out ++ lowerChar c := by
  obtain ⟨hblank, hunder, hhyphen⟩ := isJoint_eq_false_iff.1 hc
  simp [sweepStep, hblank, hunder, hhyphen]

/-- What the pass has written after some characters (`sweepStep`). -/
inductive Swept (done : List Char) : List Char → Prop
  /-- There was no part yet. -/
  | start (hrun : IsRun done) : Swept done []
  /-- The last part may go on. -/
  | within (hdone : ∃ c ∈ done.getLast?, isJoint c = false)
      (hplain : Plain (canonicalChars done)) (hne : canonicalChars done ≠ []) :
      Swept done (canonicalChars done)
  /-- Another part may follow. -/
  | between (hdone : ∀ c ∈ done.getLast?, isJoint c = true)
      (hplain : Plain (canonicalChars done)) (hne : canonicalChars done ≠ []) :
      Swept done (canonicalChars done ++ ['-'])

/-- One more character of a part is written behind what is there. -/
theorem Swept.canonicalChars_concat (h : Swept done out) (hc : isJoint c = false) :
    canonicalChars (done ++ [c]) = out ++ lowerChar c ∧ Spaced out := by
  have hpart : ∀ d ∈ [c], isJoint d = false := List.forall_mem_singleton.2 hc
  have hlower : canonicalChars [c] = lowerChar c := by
    rw [canonicalChars_of_unjointed hpart (List.cons_ne_nil c []), List.flatMap_singleton]
  cases h with
  | start hrun =>
    refine ⟨?_, plain_nil.toSpaced⟩
    rw [canonicalChars_congr (hrun.parts_append [c]), hlower, List.nil_append]
  | within hdone hplain hne =>
    refine ⟨?_, hplain.toSpaced⟩
    rw [canonicalChars_append hdone ⟨c, rfl, hc⟩, hlower]
  | between hdone hplain hne =>
    refine ⟨?_, hplain.concat_hyphen hne⟩
    have hparts : parts done ≠ [] := fun hnil => hne (canonicalChars_of_parts_eq_nil hnil)
    have hpartsLast : parts [c] ≠ [] := by
      rw [parts_of_unjointed hpart (List.cons_ne_nil c [])]
      exact List.cons_ne_nil _ _
    rw [canonicalChars_append_of_joint (.inl hdone) hparts hpartsLast, hlower, List.append_assoc,
      List.singleton_append]

theorem Swept.step (h : Swept done out) (c : Char) : Swept (done ++ [c]) (sweepStep out c) := by
  -- A joint leaves the parts as they are, any other character goes on with the last of them.
  cases hc : isJoint c with
  | true =>
    have hrun : IsRun [c] := List.forall_mem_singleton.2 hc
    have hsame : canonicalChars (done ++ [c]) = canonicalChars done :=
      canonicalChars_congr (hrun.append_parts done)
    have hends : ∀ d ∈ (done ++ [c]).getLast?, isJoint d = true := by simp [hc]
    rw [sweepStep_joint out hc]
    cases h with
    | start hdone =>
      rw [if_pos (.inl rfl)]
      exact .start (List.forall_mem_append.2 ⟨hdone, hrun⟩)
    | within hdone hplain hne =>
      rw [if_neg (not_or.2 ⟨hne, hplain.no_back⟩), ← hsame]
      exact .between hends (hsame ▸ hplain) (hsame ▸ hne)
    | between hdone hplain hne =>
      rw [if_pos (.inr (by simp)), ← hsame]
      exact .between hends (hsame ▸ hplain) (hsame ▸ hne)
  | false =>
    obtain ⟨hwritten, hspaced⟩ := h.canonicalChars_concat hc
    have hlow : ∀ d ∈ lowerChar c, isJoint d = false := fun d hd =>
      not_isJoint_of_mem_lowerChar hc hd
    have hplain : Plain (out ++ lowerChar c) := hspaced.plain_append hlow (lowerChar_ne_nil c)
    have hne : out ++ lowerChar c ≠ [] :=
      List.append_ne_nil_of_right_ne_nil out (lowerChar_ne_nil c)
    rw [sweepStep_part out hc, ← hwritten]
    exact .within (by simp [hc]) (hwritten ▸ hplain) (hwritten ▸ hne)

theorem swept_foldl (name : List Char) : Swept name (name.foldl sweepStep []) := by
  induction name using List.reverseRecOn with
  | nil => exact .start nofun
  | append_singleton done c ih =>
    rw [List.foldl_concat]
    exact ih.step c

/-- Canonical names are plain. -/
theorem plain_canonicalChars (name : List Char) : Plain (canonicalChars name) := by
  have hswept := swept_foldl name
  generalize name.foldl sweepStep [] = out at hswept
  cases hswept with
  | start hrun =>
    rw [canonicalChars_of_parts_eq_nil hrun.parts_eq_nil]
    exact plain_nil
  | within _ hplain _ => exact hplain
  | between _ hplain _ => exact hplain

theorem isRun_of_blank {blanks : List Char} (h : ∀ c ∈ blanks, isBlank c = true) :
    IsRun blanks := by
  intro c hc
  simp [isJoint, h c hc]

theorem canonicalChars_trim (name : List Char) :
    canonicalChars (trim name) = canonicalChars name := by
  obtain ⟨front, back, hsplit, hfront, hback⟩ := exists_eq_append_trim name
  apply canonicalChars_congr
  have hboth : parts (front ++ trim name ++ back) = parts (trim name) := by
    rw [(isRun_of_blank hback).append_parts, (isRun_of_blank hfront).parts_append]
  rw [← hsplit] at hboth
  exact hboth.symm

/-- The canonical name is what `sweep` writes. -/
theorem sweep_eq (name : List Char) : sweep name = canonicalChars name := by
  have hplain := plain_canonicalChars (trim name)
  have hkept : (canonicalChars (trim name)).rdropWhile (· == '-') = canonicalChars (trim name) := by
    rw [List.rdropWhile_eq_self_iff]
    intro hne hlast
    apply hplain.no_back
    rw [List.getLast?_eq_some_getLast hne, beq_iff_eq.1 hlast]
  have hswept := swept_foldl (trim name)
  rw [sweep, ← List.rdropWhile, ← canonicalChars_trim name]
  generalize (trim name).foldl sweepStep [] = out at hswept
  -- Only between two parts there is a hyphen too many, and it is taken back.
  cases hswept with
  | start hrun => rw [canonicalChars_of_parts_eq_nil hrun.parts_eq_nil, List.rdropWhile_nil]
  | within _ _ _ => exact hkept
  | between _ _ _ => rw [List.rdropWhile_concat_pos _ _ _ rfl, hkept]

/-! ## Spellings -/

/-- The same text but for capitals and small letters of ASCII. -/
def SameLetters (first second : List Char) : Prop :=
  first.map Char.toLower = second.map Char.toLower

instance (first second : List Char) : Decidable (SameLetters first second) :=
  inferInstanceAs (Decidable (_ = _))

/-- The texts that spell some parts: joints stand between any two of them, and as many as one
likes before and after them. -/
inductive Spelled : List (List Char) → List Char → Prop
  | nothing {run : List Char} (hrun : IsRun run) : Spelled [] run
  | last (part : List Char) {run : List Char} (hrun : IsRun run) : Spelled [part] (part ++ run)
  | more (part : List Char) {run : List Char} (hrun : IsRun run) (hne : run ≠ [])
      {rest : List (List Char)} {text : List Char} (hrest : Spelled rest text) :
      Spelled (part :: rest) (part ++ run ++ text)
  | after {run : List Char} (hrun : IsRun run) {all : List (List Char)} {text : List Char}
      (htext : Spelled all text) : Spelled all (run ++ text)

/-- A text has the `parts` that it spells, which may have parts of their own. -/
theorem Spelled.parts_eq {all : List (List Char)} {text : List Char} (h : Spelled all text) :
    parts text = all.flatMap parts := by
  induction h with
  | nothing hrun => exact hrun.parts_eq_nil
  | last part hrun => rw [hrun.append_parts, List.flatMap_singleton]
  | @more part run hrun hne _ _ _ ih =>
    have hends : ∀ c ∈ (part ++ run).getLast?, isJoint c = true := by
      intro c hc
      rw [List.getLast?_append_of_ne_nil part hne] at hc
      exact hrun c (List.mem_of_getLast? hc)
    rw [parts_append (.inl hends), hrun.append_parts, ih, List.flatMap_cons]
  | after hrun _ ih => rw [hrun.parts_append, ih]

theorem isJoint_toLower (c : Char) : isJoint c.toLower = isJoint c :=
  apply_toLower (by decide) c

theorem parts_map_toLower (name : List Char) :
    parts (name.map Char.toLower) = (parts name).map (·.map Char.toLower) := by
  have hjoint : isJoint ∘ Char.toLower = isJoint := funext isJoint_toLower
  have hempty : (fun part : List Char => !part.isEmpty) ∘ List.map Char.toLower =
      fun part => !part.isEmpty := by
    funext part
    cases part <;> rfl
  rw [parts_eq, splitOnP_map, hjoint, List.filter_map, hempty, parts_eq]

/-- Capitals of ASCII do not show in the lowered parts of a text. -/
theorem SameLetters.lowered_parts {first second : List Char} (h : SameLetters first second) :
    (parts first).map (·.flatMap lowerChar) = (parts second).map (·.flatMap lowerChar) := by
  have hsmall (name : List Char) : (parts (name.map Char.toLower)).map (·.flatMap lowerChar) =
      (parts name).map (·.flatMap lowerChar) := by
    rw [parts_map_toLower, List.map_map]
    apply List.map_congr_left
    intro part _
    rw [Function.comp_apply, List.flatMap_map]
    simp only [lowerChar_toLower]
  rw [← hsmall first, h, hsmall second]

/-- All spellings of the same parts have one canonical name. -/
theorem Spelled.canonicalChars_eq {first second : List (List Char)} {text other : List Char}
    (htext : Spelled first text) (hother : Spelled second other)
    (h : List.Forall₂ SameLetters first second) : canonicalChars text = canonicalChars other := by
  have hparts : (first.flatMap parts).map (·.flatMap lowerChar) =
      (second.flatMap parts).map (·.flatMap lowerChar) := by
    clear htext hother
    induction h with
    | nil => rfl
    | cons hpart _ ih =>
      rw [List.flatMap_cons, List.flatMap_cons, List.map_append, List.map_append,
        hpart.lowered_parts, ih]
  rw [canonicalChars, htext.parts_eq, hparts, ← hother.parts_eq, canonicalChars]

/-- A `canonical` name is what one pass over the name writes (`sweep`). It is `Plain` and its own
canonical name, and all spellings (`Spelled`) of the same parts share it. -/
theorem canonical_by_spelling :
    (∀ name : String, (canonical name).toList = sweep name.toList ∧
      Plain (canonical name).toList ∧ canonical (canonical name) = canonical name) ∧
    ∀ first second : List (List Char), List.Forall₂ SameLetters first second →
      ∀ text other : String, Spelled first text.toList → Spelled second other.toList →
        canonical text = canonical other := by
  refine ⟨fun name => ⟨?_, ?_, canonical_canonical name⟩, ?_⟩
  · rw [canonical, String.toList_ofList, sweep_eq]
  · rw [canonical, String.toList_ofList]
    exact plain_canonicalChars name.toList
  · intro first second hsame text other htext hother
    exact congrArg String.ofList (htext.canonicalChars_eq hother hsame)

/-- Two spellings of a name with three parts. -/
theorem canonical_by_spelling_of_three_parts :
    canonical "\t_GPT-__4o\u00a0Mini" = canonical "gpt 4O mini - " ∧
      canonical "gpt 4O mini - " = "gpt-4o-mini" := by
  have hblanks : IsRun ['\t', '_'] := by decide
  have hmixed : IsRun ['-', '_', '_'] := by decide
  have hfixed : IsRun ['\u00a0'] := by decide
  have hspace : IsRun [' '] := by decide
  have hend : IsRun [' ', '-', ' '] := by decide
  have hfirst : Spelled ["GPT".toList, "4o".toList, "Mini".toList]
      "\t_GPT-__4o\u00a0Mini".toList :=
    .after hblanks (.more _ hmixed (by decide) (.more _ hfixed (by decide) (.last _ nofun)))
  have hsecond : Spelled ["gpt".toList, "4O".toList, "mini".toList] "gpt 4O mini - ".toList :=
    .more _ hspace (by decide) (.more _ hspace (by decide) (.last _ hend))
  have hsame : List.Forall₂ SameLetters ["GPT".toList, "4o".toList, "Mini".toList]
      ["gpt".toList, "4O".toList, "mini".toList] := by decide
  exact ⟨canonical_by_spelling.2 _ _ hsame _ _ hfirst hsecond, by decide +kernel⟩

end Price

end Gadfly
