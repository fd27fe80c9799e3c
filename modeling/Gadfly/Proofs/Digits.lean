/-
  Gadfly.Proofs.Digits

  Numbers that are written in digits and read again.

  `digitsValue` of the digits of a number is the number, with zeros in front (`padZeros`) as
  without them. In a text, digits (`IsDigits`) are found again as long as what comes behind them
  is no digit (`Undigited`).

  Main definitions: `Decimal.IsDigits`, `Decimal.Undigited`.
  Main statements: `Decimal.digitsValue_toDigits`, `Decimal.digitsValue_padZeros`,
  `Decimal.takeWhile_digits_append`.
-/

import Mathlib.Data.List.Induction
import Mathlib.Data.Nat.Digits.Defs
import Gadfly.Decimal.Fixed
import Gadfly.Decimal.Reader
import Gadfly.Text.Blank

namespace Gadfly.Decimal

open Gadfly.Text

variable {n width : Nat} {digits rest : List Char}

/-! ## The digits of a number -/

theorem isDigit_iff {c : Char} : c.isDigit = true ↔ 48 ≤ c.toNat ∧ c.toNat ≤ 57 := by
  simp only [Char.isDigit, Bool.and_eq_true, decide_eq_true_eq, UInt32.le_iff_toNat_le]
  exact Iff.rfl

theorem isBlank_of_isDigit {c : Char} (h : c.isDigit = true) : isBlank c = false := by
  have hrange := isDigit_iff.1 h
  simp only [isBlank, Bool.or_eq_false_iff, Bool.and_eq_false_iff, decide_eq_false_iff_not,
    beq_eq_false_iff_ne]
  omega

/-- One or more digits. -/
structure IsDigits (digits : List Char) : Prop where
  ne_nil : digits ≠ []
  isDigit : ∀ c ∈ digits, c.isDigit = true

theorem isDigits_toDigits (n : Nat) : IsDigits (Nat.toDigits 10 n) where
  ne_nil := Nat.toDigits_ne_nil
  isDigit _ := Nat.isDigit_of_mem_toDigits (by decide) (by decide)

@[simp] theorem digitsValue_toDigits (n : Nat) : digitsValue (Nat.toDigits 10 n) = n :=
  Nat.ofDigitChars_ten_toDigits

/-- So many digits spell a number below that power of ten. -/
theorem digitsValue_lt (h : ∀ c ∈ digits, c.isDigit = true) :
    digitsValue digits < 10 ^ digits.length := by
  induction digits using List.reverseRecOn with
  | nil => decide
  | append_singleton digits c ih =>
    rw [List.forall_mem_append] at h
    have hc : digitValue c ≤ 9 := by
      have hrange := isDigit_iff.1 (h.2 c (List.mem_singleton_self c))
      rw [digitValue, show '0'.toNat = 48 from rfl]
      omega
    have hvalue : digitsValue (digits ++ [c]) = 10 * digitsValue digits + digitValue c := by
      rw [digitsValue, List.foldl_append]
      rfl
    have hfront := ih h.1
    rw [hvalue, List.length_append, List.length_singleton, Nat.pow_succ]
    omega

/-- Only zero is written with a zero in front. -/
theorem head?_toDigits_ne (hpos : n ≠ 0) : (Nat.toDigits 10 n).head? ≠ some '0' := by
  induction n using Nat.strong_induction_on with
  | _ n ih =>
    rw [Nat.toDigits_eq_if (by decide)]
    split
    · rename_i hsmall
      have hdigits : ∀ d < 10, d ≠ 0 → [Nat.digitChar d].head? ≠ some '0' := by decide
      exact hdigits n hsmall hpos
    · have htens : n / 10 ≠ 0 := by omega
      have hfirst : (Nat.toDigits 10 (n / 10)).head? ≠ none :=
        mt List.head?_eq_none_iff.1 Nat.toDigits_ne_nil
      rw [List.head?_append, Option.or_of_isSome (Option.isSome_iff_ne_none.2 hfirst)]
      exact ih (n / 10) (by omega) htens

theorem IsDigits.padZeros (h : IsDigits digits) : IsDigits (padZeros width digits) where
  ne_nil := List.append_ne_nil_of_right_ne_nil _ h.ne_nil
  isDigit c hc := by
    obtain hzero | hc := List.mem_append.1 hc
    · rw [List.eq_of_mem_replicate hzero]
      rfl
    · exact h.isDigit c hc

/-- Zeros in front add nothing to the `digitsValue`. -/
@[simp] theorem digitsValue_padZeros :
    digitsValue (padZeros width digits) = digitsValue digits := by
  rw [Decimal.padZeros, digitsValue, List.foldl_append]
  congr 1
  induction width - digits.length with
  | zero => rfl
  | succ zeros ih => rw [List.replicate_succ, List.foldl_cons]; exact ih

theorem length_padZeros (h : digits.length ≤ width) : (padZeros width digits).length = width := by
  rw [Decimal.padZeros, List.length_append, List.length_replicate, Nat.sub_add_cancel h]

theorem length_toDigits_le {k : Nat} (hpos : k ≠ 0) (h : n < 10 ^ k) :
    (Nat.toDigits 10 n).length ≤ k :=
  (Nat.length_toDigits_le_iff (by decide) (Nat.pos_of_ne_zero hpos)).2 h

/-! ## Digits in a text -/

/-- A text that does not go on with a digit. -/
def Undigited (rest : List Char) : Prop :=
  rest.takeWhile Char.isDigit = []

theorem undigited_nil : Undigited [] := rfl

theorem undigited_cons {c : Char} (h : c.isDigit = false) : Undigited (c :: rest) := by
  rw [Undigited, List.takeWhile_cons, h]
  rfl

theorem Undigited.take (h : Undigited rest) (k : Nat) : Undigited (rest.take k) := by
  cases rest with
  | nil => rwa [List.take_nil]
  | cons c rest =>
    cases k with
    | zero => exact undigited_nil
    | succ k =>
      rw [List.take_succ_cons]
      refine undigited_cons (Bool.eq_false_iff.2 fun hc => ?_)
      rw [Undigited, List.takeWhile_cons, if_pos hc] at h
      cases h

theorem Undigited.dropWhile (h : Undigited rest) : rest.dropWhile Char.isDigit = rest := by
  have hall := List.takeWhile_append_dropWhile (p := Char.isDigit) (l := rest)
  rwa [h, List.nil_append] at hall

/-- Digits do not begin with anything else. -/
theorem IsDigits.append_ne (h : IsDigits digits) (c : Char) (hc : c.isDigit = false)
    (rest behind : List Char) : digits ++ rest ≠ c :: behind := by
  obtain ⟨hne, hdigit⟩ := h
  cases digits with
  | nil => exact absurd rfl hne
  | cons first digits =>
    intro hsame
    obtain ⟨rfl, -⟩ := List.cons.inj hsame
    exact Bool.noConfusion (hc.symm.trans (hdigit _ List.mem_cons_self))

theorem takeWhile_digits_append (h : IsDigits digits) (hrest : Undigited rest) :
    (digits ++ rest).takeWhile Char.isDigit = digits := by
  rw [List.takeWhile_append_of_pos h.isDigit, hrest, List.append_nil]

theorem dropWhile_digits_append (h : IsDigits digits) (hrest : Undigited rest) :
    (digits ++ rest).dropWhile Char.isDigit = rest := by
  rw [List.dropWhile_append_of_pos h.isDigit, hrest.dropWhile]

end Gadfly.Decimal
