/-
  Gadfly.Proofs.Truncation

  Texts that fit on a line and into a length.

  `truncate` trims a text, makes spaces of its line breaks (`flatten`), and cuts what is too long,
  with a mark in place of what is gone (`cut`). Spaces are blanks as line breaks are, so that
  flattening can be done before trimming as well as after it. A cut text begins as the flat text
  does and ends with the mark, and so there is nothing left to be trimmed or flattened, and as
  much of it is kept as the first time: cutting once more changes nothing (`cut_cut`), even if the
  cut fell behind a blank or if nothing was to be kept at all.

  Main statements: `flatten_flatten`, `flatten_cut`, `cut_cut`, `truncate_fits_line`.
-/

import Gadfly.Proofs.Blank
import Gadfly.Transcript

namespace Gadfly

open Text

/-! ## Line breaks -/

theorem flattenChar_eq_self {c : Char} (h : isBlank c = false) : flattenChar c = c := by
  refine if_neg ?_
  rintro (rfl | rfl) <;> cases h

theorem isBlank_flattenChar (c : Char) : isBlank (flattenChar c) = isBlank c := by
  rw [flattenChar]
  split
  · rename_i hbreak
    obtain rfl | rfl := hbreak <;> rfl
  · rfl

/-- No character becomes a line break, or stays one. -/
theorem flattenChar_ne {c : Char} (hc : c = '\n' ∨ c = '\r') (d : Char) : flattenChar d ≠ c := by
  rw [flattenChar]
  split
  · obtain rfl | rfl := hc <;> decide
  · rename_i hd
    rintro rfl
    exact hd hc

theorem flattenChar_flattenChar (c : Char) : flattenChar (flattenChar c) = flattenChar c :=
  if_neg fun h => flattenChar_ne h c rfl

/-! ## Flat texts -/

section Flat

variable {cs : List Char}

theorem not_mem_flatten {c : Char} (hc : c = '\n' ∨ c = '\r') : c ∉ flatten cs := by
  intro h
  obtain ⟨d, -, hd⟩ := List.mem_map.1 h
  exact flattenChar_ne hc d hd

/-- The line breaks within a text can be replaced before those around it are trimmed off. -/
theorem flatten_eq_trim (cs : List Char) : flatten cs = trim (cs.map flattenChar) :=
  (trim_map isBlank_flattenChar cs).symm

theorem flatten_flatten (cs : List Char) : flatten (flatten cs) = flatten cs := by
  have hflat : (flatten cs).map flattenChar = flatten cs := by
    rw [flatten, List.map_map]
    exact List.map_congr_left fun c _ => flattenChar_flattenChar c
  rw [flatten_eq_trim, hflat, flatten_eq_trim, trim_trim]

theorem flatten_eq_nil_or_visible (cs : List Char) : flatten cs = [] ∨ Visible (flatten cs) := by
  rw [flatten_eq_trim]
  exact (eq_or_ne _ []).imp_right visible_trim

end Flat

/-! ## Cut texts -/

section Cut

variable {cs : List Char} {most : Nat}

theorem isBlank_truncationMark : isBlank truncationMark = false := by decide

theorem mem_of_mem_cut {c : Char} (h : c ∈ cut most cs) : c ∈ cs ∨ c = truncationMark := by
  rw [cut] at h
  split at h
  · rw [List.mem_append, List.mem_singleton] at h
    exact h.imp_left List.mem_of_mem_take
  · exact .inl h

/-- A text that was `cut` is one character too long, so that it is cut again; then the mark goes,
and comes back. -/
theorem cut_cut (most : Nat) (cs : List Char) : cut most (cut most cs) = cut most cs := by
  by_cases hlong : most < cs.length
  · have hcut : cut most cs = cs.take most ++ [truncationMark] := if_pos hlong
    have hkept : (cs.take most).length = most := by
      rw [List.length_take]
      omega
    have hstill : most < (cs.take most ++ [truncationMark]).length := by
      rw [List.length_append, List.length_singleton, hkept]
      omega
    rw [hcut, cut, if_pos hstill, List.take_append_of_le_length hkept.ge,
      List.take_of_length_le hkept.le]
  · have hcut : cut most cs = cs := if_neg hlong
    rw [hcut, hcut]

/-- Nothing is to be flattened in a flat text that was `cut`. -/
theorem flatten_cut (most : Nat) (cs : List Char) :
    flatten (cut most (flatten cs)) = cut most (flatten cs) := by
  rw [cut]
  split
  · -- The kept part is visible, or there is none, and behind it stands the mark.
    have hstart : (flatten cs).take most = [] ∨ Visible ((flatten cs).take most) := by
      obtain hnil | hvisible := flatten_eq_nil_or_visible cs
      · left
        rw [hnil, List.take_nil]
      · obtain rfl | hpos := Nat.eq_zero_or_pos most
        · exact .inl rfl
        · exact .inr (hvisible.take hpos)
    have hsame : ∀ c ∈ (flatten cs).take most ++ [truncationMark], flattenChar c = c := by
      intro c hc
      rw [List.mem_append, List.mem_singleton] at hc
      obtain hc | rfl := hc
      · refine if_neg fun hbreak => ?_
        exact not_mem_flatten hbreak (List.mem_of_mem_take hc)
      · exact flattenChar_eq_self isBlank_truncationMark
    rw [flatten, trim_append_singleton hstart isBlank_truncationMark, List.map_congr_left hsame,
      List.map_id']
  · exact flatten_flatten cs

end Cut

/-! ## Truncated texts -/

theorem not_mem_truncate {c : Char} (hc : c = '\n' ∨ c = '\r') (text : String) (most : Nat) :
    c ∉ (truncate text most).toList := by
  rw [truncate, String.toList_ofList]
  intro hmem
  obtain hmem | rfl := mem_of_mem_cut hmem
  · exact not_mem_flatten hc hmem
  · obtain hc | hc := hc <;> cases hc

/-- A text that went through `truncate` is the trimmed text with spaces for its line breaks, as it
is if it is not too long, and else what fits of it with a mark behind. It has no line breaks and at
most one character more than was to be kept, and truncating it once more to the same length changes
nothing. -/
theorem truncate_fits_line (text : String) (most : Nat) :
    let line := text.trimmed.toList.map fun c => if c = '\n' ∨ c = '\r' then ' ' else c
    (truncate text most).toList =
        (if line.length ≤ most then line else line.take most ++ ['…']) ∧
      '\n' ∉ (truncate text most).toList ∧ '\r' ∉ (truncate text most).toList ∧
      (truncate text most).length ≤ most + 1 ∧
      truncate (truncate text most) most = truncate text most := by
  intro line
  have hline : line = flatten text.toList := by
    show text.trimmed.toList.map flattenChar = _
    rw [String.trimmed, String.toList_ofList, flatten]
  have hcut : (truncate text most).toList = cut most line := by
    rw [truncate, String.toList_ofList, hline]
  refine ⟨?_, not_mem_truncate (.inl rfl) text most, not_mem_truncate (.inr rfl) text most, ?_, ?_⟩
  · rw [hcut, cut]
    split
    · rename_i hlong
      rw [if_neg (Nat.not_le.2 hlong)]
      rfl
    · rename_i hfits
      rw [if_pos (Nat.not_lt.1 hfits)]
  · rw [← String.length_toList, hcut]
    exact length_cut_le most line
  · have hflat : flatten (cut most line) = cut most line := by
      rw [hline]
      exact flatten_cut most _
    rw [truncate, hcut, hflat, cut_cut, truncate, hline]

/-- The cut falls behind a blank, which stays. -/
example : truncate "\n one\r two three " 5 = "one  …" := by decide +kernel

end Gadfly
