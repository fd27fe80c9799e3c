/-
  Gadfly.Text.Search

  Looking for one text inside another.

  Texts are lists of characters here. `occursIn` is substring search, `without` deletes the
  occurrences met in one pass from left to right, `splitAtFirst` cuts at the first character of a
  class, and `pieces` keeps what stands between all of them.

  Main definitions: `occursIn`, `without`, `stripLead`, `splitAtFirst`, `afterLast`, `cutWhere`,
  `pieces`.
-/

namespace Gadfly.Text

/-! ## Occurrences -/

/-- Whether `needle` is a contiguous part of `hay`. -/
def occursIn (needle : List Char) : List Char → Bool
  | [] => needle.isEmpty
  | c :: rest => needle.isPrefixOf (c :: rest) || occursIn needle rest

/-- The search finds exactly the contiguous parts. -/
theorem occursIn_iff {needle hay : List Char} : occursIn needle hay = true ↔ needle <:+: hay := by
  induction hay with
  | nil => simp [occursIn]
  | cons c rest ih => rw [occursIn, Bool.or_eq_true, ih, List.isPrefixOf_iff_prefix,
      List.infix_cons_iff]

/-- The scan behind `without`: `skip` characters of a found occurrence are still to be passed
over. -/
def withoutFrom (needle : List Char) : Nat → List Char → List Char
  | _, [] => []
  | skip + 1, _ :: rest => withoutFrom needle skip rest
  | 0, c :: rest =>
    if needle.isPrefixOf (c :: rest) then withoutFrom needle (needle.length - 1) rest
    else c :: withoutFrom needle 0 rest

/-- Deletes the occurrences of a non-empty `needle` that one scan from left to right meets.
What the deletion joins is not looked at again. -/
def without (needle hay : List Char) : List Char :=
  withoutFrom needle 0 hay

/-! ## Cutting -/

/-- What follows `lead`, when the text starts with it. -/
def stripLead : (lead text : List Char) → Option (List Char)
  | [], text => some text
  | _ :: _, [] => none
  | a :: lead, b :: text => if a = b then stripLead lead text else none

theorem stripLead_eq_some_iff {lead text rest : List Char} :
    stripLead lead text = some rest ↔ text = lead ++ rest := by
  induction lead generalizing text with
  | nil => simp [stripLead, eq_comm]
  | cons a lead ih =>
    cases text with
    | nil => simp [stripLead]
    | cons b text =>
      by_cases h : a = b
      · subst h; simp [stripLead, ih]
      · simp [stripLead, h, Ne.symm h]

/-- The parts before and after the first character of the class `p`, which is dropped. -/
def splitAtFirst (p : Char → Bool) : List Char → Option (List Char × List Char)
  | [] => none
  | c :: rest =>
    if p c then some ([], rest)
    else (splitAtFirst p rest).map fun (front, back) => (c :: front, back)

/-- What follows the last character equal to `mark`; everything when there is none. -/
def afterLast (mark : Char) (text : List Char) : List Char :=
  (text.reverse.takeWhile (· != mark)).reverse

/-- Cuts a text at every character of the class `p`, which is dropped. There is always one
part more than there are cuts. -/
def cutWhere (p : Char → Bool) : List Char → List (List Char)
  | [] => [[]]
  | c :: rest =>
    if p c then [] :: cutWhere p rest
    else
      match cutWhere p rest with
      | [] => [[c]]
      | part :: parts => (c :: part) :: parts

/-- The parts between the characters of the class `p` that are not empty. -/
def pieces (p : Char → Bool) (text : List Char) : List (List Char) :=
  (cutWhere p text).filter (!·.isEmpty)

end Gadfly.Text

namespace String

/-- Whether `needle` is a contiguous part of the text. -/
def mentions (s needle : String) : Bool :=
  Gadfly.Text.occursIn needle.toList s.toList

end String
