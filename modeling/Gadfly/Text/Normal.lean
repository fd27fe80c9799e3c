/-
  Gadfly.Text.Normal

  The normal form of a text.

  A letter with marks can be written in several ways: as one character, or as a letter and the
  marks in some order. The normal form has one of them. `decompose` takes every character apart,
  `insertMark` puts the marks on a letter in the order of their `combiningClass`, and `compose`
  puts together again what can be, from the left. Marks of the same class keep their order.

  Main definitions: `combiningClass`, `decompose`, `insertMark`, `compose`, `normal`.
-/

import Gadfly.Text.NormalTable
import Gadfly.Text.Span

namespace Gadfly.Text

/-! ## Marks -/

/-- Marks with their classes. -/
def combiningClasses : List (Span × Nat) :=
  (tableWords combiningTable).map fun word =>
    let (span, classes) := readRow word
    (readSpan span, classes.headD 0)

/-- The class of a character; zero for everything that is not a mark of this kind. -/
def combiningClass (c : Char) : Nat :=
  if c.toNat < 0x300 then 0
  else
    match combiningClasses.find? (·.1.holds c.toNat) with
    | some (_, k) => k
    | none => 0

/-- Puts a character in front of a text whose marks are in order. It moves behind the marks of
lower classes. -/
def insertMark (c : Char) : List Char → List Char
  | [] => [c]
  | d :: rest =>
    if combiningClass d ≠ 0 ∧ combiningClass d < combiningClass c then d :: insertMark c rest
    else c :: d :: rest

/-- Puts marks in the order of their classes. -/
def orderMarks (text : List Char) : List Char :=
  text.foldr insertMark []

/-- Putting a character into place loses nothing. -/
theorem length_insertMark (c : Char) (text : List Char) :
    (insertMark c text).length = text.length + 1 := by
  induction text with
  | nil => rfl
  | cons d rest ih =>
    rw [insertMark]
    split
    · simp [ih]
    · simp

/-! ## Syllables -/

/-- The first syllable of the Korean script. -/
def syllableBase : Nat := 0xAC00

/-- The number of syllables with the same first letter. -/
def syllablesPerLead : Nat := 588

/-- The number of syllables with the same first and second letter. -/
def syllablesPerVowel : Nat := 28

/-- The first and the second part of a syllable. -/
def syllableParts? (n : Nat) : Option (List Nat) :=
  if syllableBase ≤ n ∧ n < syllableBase + 19 * syllablesPerLead then
    let index := n - syllableBase
    let tail := index % syllablesPerVowel
    some (if tail = 0 then
      [0x1100 + index / syllablesPerLead, 0x1161 + index % syllablesPerLead / syllablesPerVowel]
    else [n - tail, 0x11A7 + tail])
  else none

/-- The syllable that two parts make. -/
def syllable? (a b : Nat) : Option Nat :=
  if 0x1100 ≤ a ∧ a < 0x1113 ∧ 0x1161 ≤ b ∧ b < 0x1176 then
    some (syllableBase + (a - 0x1100) * syllablesPerLead + (b - 0x1161) * syllablesPerVowel)
  else if syllableBase ≤ a ∧ a < syllableBase + 19 * syllablesPerLead ∧
      (a - syllableBase) % syllablesPerVowel = 0 ∧ 0x11A8 ≤ b ∧ b < 0x11C3 then
    some (a + (b - 0x11A7))
  else none

example : syllableParts? 0xAC01 = some [0xAC00, 0x11A8] := by decide
example : syllable? 0x1100 0x1161 = some 0xAC00 := by decide

/-! ## Taking apart -/

/-- Characters with what they are put together from. -/
def compositions : List (Nat × List Nat) :=
  (tableWords compositionTable).map fun word => (hexNumber (readRow word).1, (readRow word).2)

/-- Characters that are only taken apart. -/
def decompositions : List (Nat × List Nat) :=
  (tableWords decompositionTable).map fun word => (hexNumber (readRow word).1, (readRow word).2)

/-- What a character is taken apart into. -/
def parts? (n : Nat) : Option (List Nat) :=
  if n < 0xC0 then none
  else ((compositions.lookup n).or (decompositions.lookup n)).or (syllableParts? n)

/-- How often a character and its parts are taken apart at most. -/
def maxDecomposition : Nat := 5

/-- Takes a character apart, and its parts in turn. -/
def decompose : (depth : Nat) → Nat → List Nat
  | 0, n => [n]
  | depth + 1, n =>
    match parts? n with
    | some parts => parts.flatMap (decompose depth)
    | none => [n]

/-! ## Putting together -/

/-- The character that two make. -/
def pair? (a b : Char) : Option Char :=
  ((compositions.find? (·.2 = [a.toNat, b.toNat])).map (·.1)).or (syllable? a.toNat b.toNat)
    |>.map Char.ofNat

/-- Puts characters together with `base`, after which the marks of `kept`, backwards, could not
be put together with it. A character is kept away from the base by a mark of its own class or a
higher one. -/
def composeOnto (base : Char) (kept : List Char) : List Char → List Char
  | [] => base :: kept.reverse
  | c :: rest =>
    let reaches := match kept with
      | [] => true
      | last :: _ => combiningClass last < combiningClass c
    match if reaches then pair? base c else none with
    | some whole => composeOnto whole kept rest
    | none =>
      if combiningClass c = 0 then base :: kept.reverse ++ composeOnto c [] rest
      else composeOnto base (c :: kept) rest

/-- Puts characters together from the left. -/
def compose : List Char → List Char
  | [] => []
  | c :: rest => if combiningClass c = 0 then composeOnto c [] rest else c :: compose rest

/-- The normal form of a text. -/
def normal (text : List Char) : List Char :=
  compose (orderMarks (text.flatMap fun c => (decompose maxDecomposition c.toNat).map Char.ofNat))

end Gadfly.Text
