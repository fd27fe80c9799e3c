/-
  Gadfly.Proofs.Canonical

  Canonical names are canonical.

  `canonicalChars` takes a name apart at its joints, lowers the parts, and puts them together
  again with hyphens. Lowering is settled after one time (`lowerChar_of_mem_lowerChar`): nothing
  that it makes would be lowered to anything else, and nothing that it makes is a joint. So the
  parts of a canonical name are exactly the lowered parts of the name that it was made of, and a
  canonical name is its own canonical name.

  Main definitions: `Text.CaseRun.settles`.
  Main statements: `Text.lowerChar_of_mem_lowerChar`, `Text.pieces_intercalate`,
  `Price.parts_canonicalChars`, `Price.canonical_canonical`.
-/

import Mathlib.Data.Nat.ModEq
import Gadfly.Proofs.Blank

namespace Gadfly

namespace Text

/-! ## Lowering twice -/

/-- Whether what a run makes is left alone by the next run: all of it lies outside, or between
the characters that the next run moves. -/
def CaseRun.settles (run next : CaseRun) : Bool :=
  (run.last + run.shift).toNat.blt next.first ||
    next.last.blt (run.first + run.shift).toNat ||
    ((run.last == run.first || run.step % next.step == 0) &&
      (run.first + run.shift).toNat % next.step != next.first % next.step)

/-- What a run makes is left alone by all of them. -/
theorem lowerRuns_settle : (lowerRuns.all fun run => lowerRuns.all run.settles) = true := by
  decide +kernel

theorem lowerRuns_nonneg : ∀ run ∈ lowerRuns, 0 ≤ run.first + run.shift := by
  decide +kernel

/-- The characters that a run makes stand as far apart as those that it moves. -/
theorem CaseRun.image?_modEq {run : CaseRun} {step n image : Nat}
    (hstep : run.last = run.first ∨ run.step % step = 0) (hpos : 0 ≤ run.first + run.shift)
    (himage : run.image? n = some image) :
    image % step = (run.first + run.shift).toNat % step := by
  rw [CaseRun.image?] at himage
  split at himage
  · rename_i hin
    obtain ⟨hfirst, hlast, hmult⟩ := hin
    have hvalue := Option.some.inj himage
    have hdist : image = (run.first + run.shift).toNat + (n - run.first) := by omega
    have hdvd : step ∣ n - run.first := by
      obtain hone | hsteps := hstep
      · -- The run has one character only.
        have hzero : n - run.first = 0 := by omega
        rw [hzero]
        exact dvd_zero step
      · exact (Nat.dvd_of_mod_eq_zero hsteps).trans (Nat.dvd_of_mod_eq_zero hmult)
    rw [hdist, Nat.add_mod, Nat.mod_eq_zero_of_dvd hdvd, Nat.add_zero, Nat.mod_mod]
  · cases himage

theorem CaseRun.image?_of_settles {run next : CaseRun} (h : run.settles next = true)
    (hpos : 0 ≤ run.first + run.shift) {n image : Nat} (himage : run.image? n = some image) :
    next.image? image = none := by
  rw [CaseRun.image?, if_neg]
  rintro ⟨hfirst, hlast, hmult⟩
  simp only [settles, Bool.or_eq_true, Bool.and_eq_true, Nat.blt_eq, beq_iff_eq,
    bne_iff_ne] at h
  have hbounds : (run.first + run.shift).toNat ≤ image ∧
      image ≤ (run.last + run.shift).toNat := by
    rw [CaseRun.image?] at himage
    split at himage
    · have hvalue := Option.some.inj himage
      omega
    · cases himage
  rcases h with (hbelow | habove) | ⟨hstep, hbetween⟩
  · omega
  · omega
  · -- A character of the next run would stand at a whole number of its steps.
    have hmod := CaseRun.image?_modEq hstep hpos himage
    have hsame : next.first % next.step = image % next.step :=
      (Nat.modEq_iff_dvd' hfirst).2 (Nat.dvd_of_mod_eq_zero hmult)
    exact hbetween (hmod.symm.trans hsame.symm)

theorem findSome?_image?_eq_none {run : CaseRun} (hrun : run ∈ lowerRuns) {n image : Nat}
    (himage : run.image? n = some image) : lowerRuns.findSome? (·.image? image) = none := by
  rw [List.findSome?_eq_none_iff]
  intro next hnext
  have hsettles : run.settles next = true :=
    List.all_eq_true.1 (List.all_eq_true.1 lowerRuns_settle run hrun) next hnext
  exact CaseRun.image?_of_settles hsettles (lowerRuns_nonneg run hrun) himage

/-- The joints of names other than blanks, and the capitals that are not lowered by a run. -/
def besideRuns : List Span :=
  [(0x2D, 0x2D), (0x5F, 0x5F), (0x41, 0x5A), (0x130, 0x130)]

theorem lowerRuns_avoid_besideRuns : ∀ run ∈ lowerRuns, ∀ span ∈ besideRuns, 0 < span.1 ∧
    (run.last + run.shift < span.1 ∨ (span.2 : Int) < run.first + run.shift) := by
  decide +kernel

/-- A run makes no joint of names, and no capital that another rule lowers. -/
theorem toNat_image?_beside {run : CaseRun} (hrun : run ∈ lowerRuns) {n image : Nat}
    (himage : run.image? n = some image) {code : Nat} (hcode : (Char.ofNat image).toNat = code) :
    code ≠ 0x2D ∧ code ≠ 0x5F ∧ ¬(0x41 ≤ code ∧ code ≤ 0x5A) ∧ code ≠ 0x130 := by
  have hall : ∀ span ∈ besideRuns, ¬(span.1 ≤ code ∧ code ≤ span.2) := by
    intro span hspan
    obtain ⟨hpos, havoids⟩ := lowerRuns_avoid_besideRuns run hrun span hspan
    have himageAvoids := CaseRun.image?_avoids havoids hpos himage
    have hcases := toNat_ofNat_eq_or image
    omega
  simp only [besideRuns, List.forall_mem_cons] at hall
  omega

/-- An ASCII character that is no capital is its own lower case. -/
theorem lowerChar_of_not_capital {c : Char} (hascii : c.toNat < 0x80)
    (h : ¬(0x41 ≤ c.toNat ∧ c.toNat ≤ 0x5A)) : lowerChar c = [c] := by
  have hall : ∀ n < 0x80, ¬(0x41 ≤ (Char.ofNat n).toNat ∧ (Char.ofNat n).toNat ≤ 0x5A) →
      (Char.ofNat n).toLower = Char.ofNat n := by decide +kernel
  have hlow : c.toLower = c := of_ascii
    (P := fun c => ¬(0x41 ≤ c.toNat ∧ c.toNat ≤ 0x5A) → c.toLower = c) hall hascii h
  rw [lowerChar_of_lt hascii, hlow]

/-- What a run makes is lowered already. -/
theorem lowerChar_image? {run : CaseRun} (hrun : run ∈ lowerRuns) {n image : Nat}
    (himage : run.image? n = some image) :
    lowerChar (Char.ofNat image) = [Char.ofNat image] := by
  obtain ⟨-, -, hcapital, hdotted⟩ := toNat_image?_beside hrun himage rfl
  by_cases hlow : (Char.ofNat image).toNat < 0x80
  · exact lowerChar_of_not_capital hlow hcapital
  · have hcode : (Char.ofNat image).toNat = image := by
      have hcases := toNat_ofNat_eq_or image
      omega
    rw [lowerChar, if_neg hlow, if_neg hdotted, shiftBy, hcode,
      findSome?_image?_eq_none hrun himage]

/-- What `lowerChar` makes is lowered already. -/
theorem lowerChar_of_mem_lowerChar {c d : Char} (h : d ∈ lowerChar c) : lowerChar d = [d] := by
  cases lowered_of_mem_lowerChar h with
  | ascii hascii =>
    have hall : ∀ n < 0x80, lowerChar (Char.ofNat n).toLower = [(Char.ofNat n).toLower] := by
      decide +kernel
    exact of_ascii (P := fun c => lowerChar c.toLower = [c.toLower]) hall hascii
  | dotless => decide +kernel
  | dot => decide +kernel
  | moved hrun himage => exact lowerChar_image? hrun himage
  | kept hsame => exact hsame

theorem flatMap_lowerChar_flatMap (cs : List Char) :
    (cs.flatMap lowerChar).flatMap lowerChar = cs.flatMap lowerChar := by
  have hsettled : ∀ d ∈ cs.flatMap lowerChar, lowerChar d = [d] := by
    intro d hd
    obtain ⟨c, -, hd⟩ := List.mem_flatMap.1 hd
    exact lowerChar_of_mem_lowerChar hd
  generalize cs.flatMap lowerChar = low at hsettled
  induction low with
  | nil => rfl
  | cons d rest ih =>
    rw [List.flatMap_cons, hsettled d List.mem_cons_self,
      ih fun e he => hsettled e (List.mem_cons_of_mem d he)]
    rfl

/-! ## Cutting what was put together -/

variable {p : Char → Bool} {mark : Char}

theorem cutWhere_eq_splitOnP (p : Char → Bool) (cs : List Char) :
    cutWhere p cs = cs.splitOnP p := by
  induction cs with
  | nil => rfl
  | cons c rest ih =>
    obtain ⟨part, parts, hparts⟩ := List.exists_cons_of_ne_nil (List.splitOnP_ne_nil p rest)
    rw [cutWhere, ih, List.splitOnP_cons_eq_if_modifyHead, hparts]
    rfl

/-- Parts that hold something, and no mark, are found again by `pieces` between the marks. -/
theorem pieces_intercalate {parts : List (List Char)} (hmark : p mark = true)
    (hne : ∀ part ∈ parts, part ≠ []) (hparts : ∀ part ∈ parts, ∀ c ∈ part, p c = false) :
    pieces p (List.intercalate [mark] parts) = parts := by
  induction parts with
  | nil => rfl
  | cons part rest ih =>
    have hkept : (!part.isEmpty) = true := by
      rw [Bool.not_eq_true', List.isEmpty_eq_false_iff]
      exact hne part List.mem_cons_self
    have hpart := hparts part List.mem_cons_self
    have hrest := ih (fun q hq => hne q (List.mem_cons_of_mem part hq))
      fun q hq => hparts q (List.mem_cons_of_mem part hq)
    cases rest with
    | nil =>
      rw [List.intercalate_singleton, pieces, cutWhere_eq_splitOnP,
        List.splitOnP_eq_singleton hpart, List.filter_cons, if_pos hkept, List.filter_nil]
    | cons next others =>
      rw [List.intercalate_cons_cons, List.append_assoc, List.singleton_append, pieces,
        cutWhere_eq_splitOnP, List.splitOnP_append_cons_of_forall_mem hpart mark hmark,
        List.filter_cons, if_pos hkept, ← cutWhere_eq_splitOnP, ← pieces, hrest]

end Text

open Text

namespace Price

/-! ## Canonical names -/

/-- Lowering makes no joints. -/
theorem not_isJoint_of_mem_lowerChar {c d : Char} (hc : isJoint c = false)
    (hd : d ∈ lowerChar c) : isJoint d = false := by
  rw [isJoint, Bool.or_eq_false_iff, Bool.or_eq_false_iff] at hc
  obtain ⟨⟨hblank, hunder⟩, hhyphen⟩ := hc
  have hsight : isBlank d = false := not_isBlank_of_mem_lowerChar hblank hd
  suffices hother : d ≠ '_' ∧ d ≠ '-' by
    rw [isJoint, hsight, beq_eq_false_iff_ne.2 hother.1, beq_eq_false_iff_ne.2 hother.2]
    rfl
  have hunder' : c ≠ '_' := beq_eq_false_iff_ne.1 hunder
  have hhyphen' : c ≠ '-' := beq_eq_false_iff_ne.1 hhyphen
  -- No way of lowering leads to a joint: the runs pass by the hyphen and the underscore.
  cases lowered_of_mem_lowerChar hd with
  | ascii hascii =>
    have hall : ∀ n < 0x80, Char.ofNat n ≠ '_' → Char.ofNat n ≠ '-' →
        (Char.ofNat n).toLower ≠ '_' ∧ (Char.ofNat n).toLower ≠ '-' := by decide +kernel
    exact of_ascii (P := fun c => c ≠ '_' → c ≠ '-' → c.toLower ≠ '_' ∧ c.toLower ≠ '-') hall
      hascii hunder' hhyphen'
  | dotless => decide
  | dot => decide
  | moved hrun himage =>
    obtain ⟨hdash, hline, -, -⟩ := toNat_image?_beside hrun himage rfl
    refine ⟨fun hsame => hline ?_, fun hsame => hdash ?_⟩
    · rw [hsame]
      rfl
    · rw [hsame]
      rfl
  | kept hsame => exact ⟨hunder', hhyphen'⟩

theorem not_isJoint_of_mem_parts {name part : List Char} (hpart : part ∈ parts name) {c : Char}
    (hc : c ∈ part) : isJoint c = false :=
  not_of_mem_cutWhere (List.mem_of_mem_filter hpart) hc

/-- The `parts` of a canonical name are the lowered parts of the name. -/
theorem parts_canonicalChars (name : List Char) :
    parts (canonicalChars name) = (parts name).map (·.flatMap lowerChar) := by
  apply pieces_intercalate (by decide)
  · intro low hlow
    obtain ⟨part, hpart, rfl⟩ := List.mem_map.1 hlow
    obtain ⟨c, rest, rfl⟩ := List.exists_cons_of_ne_nil (ne_nil_of_mem_pieces hpart)
    rw [List.flatMap_cons]
    exact List.append_ne_nil_of_left_ne_nil (lowerChar_ne_nil c) _
  · intro low hlow d hd
    obtain ⟨part, hpart, rfl⟩ := List.mem_map.1 hlow
    obtain ⟨c, hc, hd⟩ := List.mem_flatMap.1 hd
    exact not_isJoint_of_mem_lowerChar (not_isJoint_of_mem_parts hpart hc) hd

theorem canonicalChars_canonicalChars (name : List Char) :
    canonicalChars (canonicalChars name) = canonicalChars name := by
  have hlowered : ((parts name).map (·.flatMap lowerChar)).map (·.flatMap lowerChar) =
      (parts name).map (·.flatMap lowerChar) := by
    rw [List.map_map]
    apply List.map_congr_left
    intro part _
    exact flatMap_lowerChar_flatMap part
  rw [canonicalChars, parts_canonicalChars, hlowered, canonicalChars]

/-- A name that `canonical` writes is its own canonical name. -/
@[simp] theorem canonical_canonical (name : String) :
    canonical (canonical name) = canonical name := by
  rw [canonical, canonical, String.toList_ofList, canonicalChars_canonicalChars]

end Price

end Gadfly
