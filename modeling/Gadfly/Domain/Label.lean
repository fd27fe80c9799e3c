/-
  Gadfly.Domain.Label

  The labels of a domain, and the rules for them.

  A label (`isLabel`) is in its normal form, does not start with a mark (`startsWithMark`), and
  holds only characters that stand for themselves. Two invisible characters, the `joiner` and the
  `nonJoiner`, may stand only where they change how letters are drawn (`joinersFit`). If some
  label of the domain is written from right to left, every label keeps to one `Direction`
  (`keepsDirection`).

  Main definitions: `Domain.Direction`, `Domain.keepsDirection`, `Domain.joinersFit`,
  `Domain.isLabel`.
-/

import Gadfly.Domain.ClassTable
import Gadfly.Domain.Mapping
import Gadfly.Domain.Punycode

namespace Gadfly.Domain

open Gadfly.Text

/-! ## Directions -/

/-- How a character takes part in the direction of writing. -/
inductive Direction where
  | left
  | right
  /-- A digit among letters from right to left. -/
  | arabicDigit
  /-- A digit among letters of either direction. -/
  | europeanDigit
  /-- A mark without room of its own. -/
  | nonspacing
  | neutral
  deriving Repr, DecidableEq

/-- The letters from right to left. -/
def rightSpans : List Span := readSpans rightTable

/-- The digits among them. -/
def arabicDigitSpans : List Span := readSpans arabicDigitTable

/-- The digits among letters of either direction. -/
def europeanDigitSpans : List Span := readSpans europeanDigitTable

/-- The marks without room of their own. -/
def nonspacingSpans : List Span := readSpans nonspacingTable

/-- The signs without a direction. -/
def neutralSpans : List Span := readSpans neutralTable

/-- The direction of a character. -/
def direction (c : Char) : Direction :=
  let n := c.toNat
  if inSpans rightSpans n then .right
  else if inSpans arabicDigitSpans n then .arabicDigit
  else if inSpans europeanDigitSpans n then .europeanDigit
  else if inSpans nonspacingSpans n then .nonspacing
  else if inSpans neutralSpans n then .neutral
  else .left

/-- Whether a label has something in it that is written from right to left. -/
def turnsRight (label : List Direction) : Bool :=
  label.any fun d => d = .right || d = .arabicDigit

/-- The last direction that is not the one of a mark. -/
def lastDirection? (label : List Direction) : Option Direction :=
  (label.reverse.dropWhile (· = .nonspacing)).head?

/-- Whether a label keeps to the direction of its first character, which is a letter. It ends with
a letter of this direction or a digit, marks apart, and digits of two kinds do not mix. -/
def keepsDirection (label : List Direction) : Bool :=
  match label.head? with
  | none => true
  | some .left =>
    !turnsRight label &&
      [some .left, some .europeanDigit].contains (lastDirection? label)
  | some .right =>
    !label.contains .left &&
      [some .right, some .europeanDigit, some .arabicDigit].contains (lastDirection? label) &&
      !(label.contains .europeanDigit && label.contains .arabicDigit)
  | some _ => false

/-! ## Joiners -/

/-- Lets letters be drawn apart that would be joined. -/
def nonJoiner : Char := '\u200C'

/-- Lets letters be drawn together. -/
def joiner : Char := '\u200D'

/-- The letters that join the one after them. -/
def joinsAfterSpans : List Span := readSpans dualJoiningTable ++ readSpans leftJoiningTable

/-- The letters that join the one before them. -/
def joinsBeforeSpans : List Span := readSpans dualJoiningTable ++ readSpans rightJoiningTable

/-- The characters that joining passes over. -/
def transparentSpans : List Span := readSpans transparentTable

/-- Whether the first character that counts belongs to one of the spans. -/
def reaches (spans : List Span) (text : List Char) : Bool :=
  match text.dropWhile fun c => inSpans transparentSpans c.toNat with
  | c :: _ => inSpans spans c.toNat
  | [] => false

/-- Whether the character just before, in a text given backwards, takes the vowel from its
letter. -/
def afterVirama : List Char → Bool
  | c :: _ => combiningClass c == 9
  | [] => false

/-- Whether joiners and non-joiners stand where they may; `before` is given backwards. -/
def joinersFit (before : List Char) : List Char → Bool
  | [] => true
  | c :: rest =>
    let fits :=
      if c = joiner then afterVirama before
      else if c = nonJoiner then
        afterVirama before || (reaches joinsAfterSpans before && reaches joinsBeforeSpans rest)
      else true
    fits && joinersFit (c :: before) rest

/-! ## Labels -/

/-- The marks. -/
def markSpans : List Span := readSpans markTable

/-- Whether a label starts with a mark. -/
def startsWithMark : List Char → Bool
  | c :: _ => inSpans markSpans c.toNat
  | [] => false

/-- What a label starts with that is written in ASCII for others. -/
def codedLead : List Char := ['x', 'n', '-', '-']

/-- Whether a text is a label beyond ASCII. -/
def isLabel (label : List Char) : Bool :=
  normal label == label && !startsWithMark label && label.all isKept && joinersFit [] label &&
    !codedLead.isPrefixOf label

end Gadfly.Domain
