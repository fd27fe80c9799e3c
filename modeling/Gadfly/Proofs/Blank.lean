/-
  Gadfly.Proofs.Blank

  Texts that show something.

  A text is `Visible` when it begins with a character that is not blank. What is left of a trimmed
  text is visible unless it is nothing (`visible_trim`), and so is every beginning of a visible
  text. Neither cutting a name at its joints nor lowering it makes a blank of something else
  (`not_isBlank_of_mem_lowerChar`), so whatever the commands say is visible.

  Main definitions: `Text.Visible`, `Text.blankSpans`, `Text.Lowered`.
  Main statements: `Text.trim_trim`, `Text.trim_eq_nil_iff`, `Text.trim_append_blanks`,
  `Text.visible_trim`, `Text.lowered_of_mem_lowerChar`, `Text.not_isBlank_of_mem_lowerChar`,
  `Price.canonicalChars_eq_nil_or_visible`, `Command.visible_of_reply?`.
-/

import Mathlib.Data.List.DropRight
import Gadfly.Command

namespace Gadfly

namespace Text

/-! ## Trimming -/

/-- The first character is there and not a blank (`isBlank`). -/
def Visible (cs : List Char) : Prop :=
  ∃ c rest, cs = c :: rest ∧ isBlank c = false

variable {cs front back : List Char}

theorem Visible.append (h : Visible front) (back : List Char) : Visible (front ++ back) := by
  obtain ⟨c, rest, rfl, hc⟩ := h
  exact ⟨c, rest ++ back, rfl, hc⟩

/-- A beginning of a visible text that is not empty is visible. -/
theorem Visible.take (h : Visible cs) {n : Nat} (hn : 0 < n) : Visible (cs.take n) := by
  obtain ⟨c, rest, rfl, hc⟩ := h
  obtain ⟨n, rfl⟩ := Nat.exists_eq_add_one_of_ne_zero hn.ne'
  exact ⟨c, rest.take n, rfl, hc⟩

theorem Visible.of_beginning (h : Visible cs) (hfront : front <+: cs) (hne : front ≠ []) :
    Visible front := by
  rw [List.prefix_iff_eq_take.1 hfront]
  exact h.take (List.length_pos_iff.2 hne)

theorem Visible.exists_mem (h : Visible cs) : ∃ c ∈ cs, isBlank c = false := by
  obtain ⟨c, rest, rfl, hc⟩ := h
  exact ⟨c, List.mem_cons_self, hc⟩

theorem visible_trimStart (h : trimStart cs ≠ []) : Visible (trimStart cs) := by
  refine ⟨(trimStart cs).head h, (trimStart cs).tail, (List.cons_head_tail h).symm, ?_⟩
  exact List.head_dropWhile_not isBlank h

theorem trimStart_eq_self (h : cs = [] ∨ Visible cs) : trimStart cs = cs := by
  obtain rfl | ⟨c, rest, rfl, hc⟩ := h
  · rfl
  · rw [trimStart, List.dropWhile_cons_of_neg (ne_true_of_eq_false hc)]

theorem trimEnd_prefix (cs : List Char) : trimEnd cs <+: cs :=
  List.rdropWhile_prefix isBlank cs

/-- What is left by `trim` is `Visible`, unless it is nothing. -/
theorem visible_trim (h : trim cs ≠ []) : Visible (trim cs) := by
  have hend : trim cs <+: trimStart cs := trimEnd_prefix _
  have hstart : trimStart cs ≠ [] := by
    intro hnil
    rw [hnil] at hend
    exact h (List.prefix_nil.1 hend)
  exact (visible_trimStart hstart).of_beginning hend h

/-- Trimming leaves nothing to be trimmed. -/
theorem trim_trim (cs : List Char) : trim (trim cs) = trim cs := by
  have hstart : trimStart (trim cs) = trim cs :=
    trimStart_eq_self ((eq_or_ne (trim cs) []).imp_right visible_trim)
  have hend : trimEnd (trim cs) = trim cs := List.rdropWhile_idempotent isBlank _
  rw [trim, hstart, hend]

/-- What is trimmed off is blank. -/
theorem exists_eq_append_trim (cs : List Char) :
    ∃ front back, cs = front ++ trim cs ++ back ∧ (∀ c ∈ front, isBlank c = true) ∧
      ∀ c ∈ back, isBlank c = true := by
  have hstart : cs.takeWhile isBlank ++ trimStart cs = cs := List.takeWhile_append_dropWhile
  have hend : trim cs ++ (trimStart cs).rtakeWhile isBlank = trimStart cs :=
    List.rdropWhile_append_rtakeWhile
  refine ⟨cs.takeWhile isBlank, (trimStart cs).rtakeWhile isBlank, ?_, ?_, ?_⟩
  · rw [List.append_assoc, hend, hstart]
  · exact fun c hc => List.mem_takeWhile_imp hc
  · exact fun c hc => List.mem_rtakeWhile_imp hc

/-- Nothing is left by `trim` exactly if there is nothing but blanks (`allBlank`). -/
theorem trim_eq_nil_iff : trim cs = [] ↔ allBlank cs = true := by
  rw [allBlank, List.all_eq_true]
  constructor
  · intro hnil
    obtain ⟨front, back, hsplit, hfront, hback⟩ := exists_eq_append_trim cs
    rw [hnil, List.append_nil] at hsplit
    rw [hsplit, List.forall_mem_append]
    exact ⟨hfront, hback⟩
  · intro hall
    rw [trim, trimStart, List.dropWhile_eq_nil_iff.2 hall, trimEnd_nil]

/-- A change of characters that neither makes nor takes blanks can be made before trimming or
after it. -/
theorem trim_map {f : Char → Char} (hf : ∀ c, isBlank (f c) = isBlank c) (cs : List Char) :
    trim (cs.map f) = (trim cs).map f := by
  have hblank : isBlank ∘ f = isBlank := funext hf
  rw [trim, trimStart, List.dropWhile_map, hblank, trimEnd, ← List.map_reverse,
    List.dropWhile_map, hblank, ← List.map_reverse]
  rfl

/-- Nothing is trimmed off a text that neither begins nor ends with a blank. -/
theorem trim_append_singleton (hstart : cs = [] ∨ Visible cs) {c : Char}
    (hc : isBlank c = false) : trim (cs ++ [c]) = cs ++ [c] := by
  have hvisible : Visible (cs ++ [c]) := by
    obtain rfl | hcs := hstart
    · exact ⟨c, [], rfl, hc⟩
    · exact hcs.append [c]
  have hend : trimEnd (cs ++ [c]) = cs ++ [c] :=
    List.rdropWhile_concat_neg isBlank cs c (ne_true_of_eq_false hc)
  rw [trim, trimStart_eq_self (.inr hvisible), hend]

theorem trimEnd_append_blanks (hback : ∀ c ∈ back, isBlank c = true) (cs : List Char) :
    trimEnd (cs ++ back) = trimEnd cs := by
  have hreverse : ∀ c ∈ back.reverse, isBlank c = true :=
    fun c hc => hback c (List.mem_reverse.1 hc)
  rw [trimEnd, List.reverse_append, List.dropWhile_append_of_pos hreverse, trimEnd]

/-- Blanks that are put around a text are taken off by `trim`. -/
theorem trim_append_blanks (hfront : ∀ c ∈ front, isBlank c = true)
    (hback : ∀ c ∈ back, isBlank c = true) (cs : List Char) :
    trim (front ++ cs ++ back) = trim cs := by
  rw [trim, trimStart, List.append_assoc, List.dropWhile_append_of_pos hfront,
    List.dropWhile_append]
  split
  · -- There is nothing but blanks.
    rename_i hnil
    rw [List.isEmpty_iff] at hnil
    rw [trim, trimStart, hnil, List.dropWhile_eq_nil_iff.2 hback]
  · exact trimEnd_append_blanks hback _

/-! ## Cutting -/

/-- No part of a text holds a character at which the text is cut. -/
theorem not_of_mem_cutWhere {p : Char → Bool} {part : List Char} (h : part ∈ cutWhere p cs)
    {c : Char} (hc : c ∈ part) : p c = false := by
  induction cs generalizing part with
  | nil =>
    rw [List.mem_singleton.1 h] at hc
    cases hc
  | cons d rest ih =>
    rw [cutWhere] at h
    by_cases hd : p d = true
    · rw [if_pos hd] at h
      obtain rfl | h := List.mem_cons.1 h
      · cases hc
      · exact ih h hc
    · rw [if_neg hd] at h
      have hdfalse : p d = false := eq_false_of_ne_true hd
      split at h
      · rw [List.mem_singleton.1 h, List.mem_singleton] at hc
        exact hc ▸ hdfalse
      · rename_i first parts hcut
        rw [hcut] at ih
        obtain rfl | h := List.mem_cons.1 h
        · -- The first part has got one more character.
          obtain rfl | hc := List.mem_cons.1 hc
          · exact hdfalse
          · exact ih List.mem_cons_self hc
        · exact ih (List.mem_cons_of_mem _ h) hc

theorem ne_nil_of_mem_pieces {p : Char → Bool} {part : List Char} (h : part ∈ pieces p cs) :
    part ≠ [] := by
  have hkept := (List.mem_filter.1 h).2
  rintro rfl
  cases hkept

/-! ## Lowering -/

/-- The spans of the blanks. -/
def blankSpans : List Span :=
  [(9, 13), (0x20, 0x20), (0x85, 0x85), (0xA0, 0xA0), (0x1680, 0x1680), (0x2000, 0x200A),
    (0x2028, 0x2029), (0x202F, 0x202F), (0x205F, 0x205F), (0x3000, 0x3000)]

theorem isBlank_iff {c : Char} :
    isBlank c = true ↔ ∃ span ∈ blankSpans, span.1 ≤ c.toNat ∧ c.toNat ≤ span.2 := by
  simp only [isBlank, blankSpans, Bool.or_eq_true, Bool.and_eq_true, decide_eq_true_eq,
    beq_iff_eq, List.exists_mem_cons_iff, List.not_mem_nil]
  grind

/-- A run moves no character to where a blank is. -/
theorem lowerRuns_avoid : ∀ run ∈ lowerRuns, ∀ span ∈ blankSpans,
    run.last + run.shift < span.1 ∨ (span.2 : Int) < run.first + run.shift := by
  decide +kernel

/-- A run that stays clear of a span gives no code point in it. -/
theorem CaseRun.image?_avoids {run : CaseRun} {span : Span}
    (h : run.last + run.shift < span.1 ∨ (span.2 : Int) < run.first + run.shift)
    (hpos : 0 < span.1) {n image : Nat} (himage : run.image? n = some image) :
    ¬(span.1 ≤ image ∧ image ≤ span.2) := by
  rw [CaseRun.image?] at himage
  split at himage
  · rename_i hin
    have hvalue := Option.some.inj himage
    omega
  · cases himage

/-- The character of a code point has that code point, unless it is none of a character. -/
theorem toNat_ofNat_eq_or (n : Nat) :
    (Char.ofNat n).toNat = n ∨ (Char.ofNat n).toNat = 0 := by
  by_cases hvalid : n.isValidChar
  · exact .inl (congrArg Char.toNat (dif_pos hvalid))
  · exact .inr (congrArg Char.toNat (dif_neg hvalid))

/-- A run that gives a code point for a character does not give that of a blank. -/
theorem not_isBlank_of_image? {run : CaseRun} (hrun : run ∈ lowerRuns) {n image : Nat}
    (himage : run.image? n = some image) : isBlank (Char.ofNat image) = false := by
  refine eq_false_of_ne_true fun hblank => ?_
  obtain ⟨span, hspan, hfirst, hlast⟩ := isBlank_iff.1 hblank
  have hpos : 0 < span.1 := by
    have hall : ∀ span ∈ blankSpans, 0 < span.1 := by decide
    exact hall span hspan
  have havoids := CaseRun.image?_avoids (lowerRuns_avoid run hrun span hspan) hpos himage
  have hcode := toNat_ofNat_eq_or image
  omega

/-- What holds of all ASCII characters can be told by their code points. -/
theorem of_ascii {P : Char → Prop} (h : ∀ n < 0x80, P (Char.ofNat n)) {c : Char}
    (hc : c.toNat < 0x80) : P c := by
  have hcode := h c.toNat hc
  rwa [Char.ofNat_toNat] at hcode

/-- A character stays as it is, or one of the runs moves it. -/
theorem shiftBy_eq_or (runs : List CaseRun) (c : Char) :
    shiftBy runs c = c ∨ ∃ run ∈ runs, ∃ image, run.image? c.toNat = some image ∧
      shiftBy runs c = Char.ofNat image := by
  rcases hfound : runs.findSome? (·.image? c.toNat) with _ | image
  · left
    rw [shiftBy, hfound]
  · obtain ⟨run, hrun, himage⟩ := List.exists_of_findSome?_eq_some hfound
    have hmoved : shiftBy runs c = Char.ofNat image := by rw [shiftBy, hfound]
    exact .inr ⟨run, hrun, image, himage, hmoved⟩

/-- How a character gets into the lower case of another: ASCII has rules of its own, the dotted
capital I becomes two characters, a run may move a character, and the others stay. -/
inductive Lowered (c : Char) : Char → Prop
  | ascii (hascii : c.toNat < 0x80) : Lowered c c.toLower
  | dotless : Lowered c 'i'
  | dot : Lowered c (Char.ofNat 0x307)
  | moved {run : CaseRun} {image : Nat} (hrun : run ∈ lowerRuns)
      (himage : run.image? c.toNat = some image) : Lowered c (Char.ofNat image)
  | kept (hsame : lowerChar c = [c]) : Lowered c c

theorem lowered_of_mem_lowerChar {c d : Char} (h : d ∈ lowerChar c) : Lowered c d := by
  by_cases hascii : c.toNat < 0x80
  · rw [lowerChar_of_lt hascii, List.mem_singleton] at h
    exact h ▸ .ascii hascii
  by_cases hdotted : c.toNat = 0x130
  · rw [lowerChar, if_neg hascii, if_pos hdotted, List.mem_cons, List.mem_singleton] at h
    obtain rfl | rfl := h
    · exact .dotless
    · exact .dot
  have hlower : lowerChar c = [shiftBy lowerRuns c] := by
    rw [lowerChar, if_neg hascii, if_neg hdotted]
  rw [hlower, List.mem_singleton] at h
  obtain hsame | ⟨run, hrun, image, himage, hmoved⟩ := shiftBy_eq_or lowerRuns c
  · rw [hsame] at hlower h
    rw [h]
    exact .kept hlower
  · rw [h, hmoved]
    exact .moved hrun himage

/-- Lowering makes no blanks: `lowerChar` leaves the class `isBlank` alone. -/
theorem not_isBlank_of_mem_lowerChar {c d : Char} (hc : isBlank c = false)
    (hd : d ∈ lowerChar c) : isBlank d = false := by
  cases lowered_of_mem_lowerChar hd with
  | ascii hascii =>
    have hall : ∀ n < 0x80, isBlank (Char.ofNat n) = false →
        isBlank (Char.ofNat n).toLower = false := by decide +kernel
    exact of_ascii (P := fun c => isBlank c = false → isBlank c.toLower = false) hall hascii hc
  | dotless => decide
  | dot => decide
  | moved hrun himage => exact not_isBlank_of_image? hrun himage
  | kept hsame => exact hc

theorem lowerChar_ne_nil (c : Char) : lowerChar c ≠ [] := by
  rw [lowerChar]
  split_ifs <;> exact List.cons_ne_nil _ _

theorem Visible.flatMap_lowerChar (h : Visible cs) : Visible (cs.flatMap lowerChar) := by
  obtain ⟨c, rest, rfl, hc⟩ := h
  obtain ⟨d, low, hlow⟩ := List.exists_cons_of_ne_nil (lowerChar_ne_nil c)
  have hd : isBlank d = false :=
    not_isBlank_of_mem_lowerChar hc (hlow ▸ List.mem_cons_self)
  rw [List.flatMap_cons, hlow]
  exact ⟨d, low ++ rest.flatMap lowerChar, rfl, hd⟩

end Text

open Text

/-! ## Commands -/

/-- A canonical name is empty or `Visible`. -/
theorem Price.canonicalChars_eq_nil_or_visible (name : List Char) :
    canonicalChars name = [] ∨ Visible (canonicalChars name) := by
  rw [canonicalChars]
  rcases hparts : parts name with _ | ⟨part, rest⟩
  · exact .inl rfl
  · right
    have hmem : part ∈ pieces isJoint name := by
      rw [← parts, hparts]
      exact List.mem_cons_self
    obtain ⟨c, more, rfl⟩ := List.exists_cons_of_ne_nil (ne_nil_of_mem_pieces hmem)
    have hjoint : isJoint c = false :=
      not_of_mem_cutWhere (List.mem_of_mem_filter hmem) List.mem_cons_self
    have hblank : isBlank c = false := by
      rw [isJoint, Bool.or_eq_false_iff, Bool.or_eq_false_iff] at hjoint
      exact hjoint.1.1
    have hpart : Visible ((c :: more).flatMap lowerChar) :=
      Visible.flatMap_lowerChar ⟨c, more, rfl, hblank⟩
    cases rest with
    | nil =>
      rw [List.map_singleton, List.intercalate_singleton]
      exact hpart
    | cons next others =>
      rw [List.map_cons, List.map_cons, List.intercalate_cons_cons, List.append_assoc]
      exact hpart.append _

theorem Command.visible_priceReply (mark : String) (table : Price.Table) (model : String) :
    Visible (priceReply mark table model).toList := by
  rw [priceReply]
  split
  · rw [String.toList_append, String.toList_append, List.append_assoc]
    exact Visible.append ⟨'U', _, rfl, by decide⟩ _
  · split
    · rename_i rates _
      simp only [String.toList_append, List.append_assoc]
      obtain hnil | hvisible := Price.canonicalChars_eq_nil_or_visible model.toList
      · rw [Price.canonical, hnil]
        exact ⟨':', _, rfl, by decide⟩
      · rw [Price.canonical, String.toList_ofList]
        exact hvisible.append _
    · rw [String.toList_append]
      exact Visible.append ⟨'N', _, rfl, by decide⟩ _

/-- Whatever the commands say (`reply?`) can be seen. -/
theorem Command.visible_of_reply? {mark : String} {table : Price.Table} {content reply : String}
    (h : reply? mark table content = some reply) : Visible reply.toList := by
  obtain ⟨invocation, -, hreply⟩ := Option.bind_eq_some_iff.1 h
  split at hreply
  · obtain rfl := Option.some.inj hreply
    exact ⟨'p', _, rfl, by decide⟩
  · obtain rfl := Option.some.inj hreply
    exact visible_priceReply mark table invocation.argument
  · cases hreply

end Gadfly
