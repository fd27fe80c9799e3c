/-
  Gadfly.Text.Span

  Sets of characters, and tables about characters.

  A set is a list of `Span`s of code points, and `inSpans` looks a character up. A large table is
  kept as a text: its words (`tableWords`) stand between blanks, and the numbers in a word are in
  base sixteen. A word is a span such as `300-36f` (`readSpan`), or a row such as `c0=41,300` in
  which a key comes before the equals sign (`readRow`).

  Main definitions: `Span`, `inSpans`, `tableWords`, `readSpans`, `readRow`.
-/

import Gadfly.Text.Hex
import Gadfly.Text.Search

namespace Gadfly.Text

/-! ## Spans -/

/-- A span of code points, both ends included. -/
abbrev Span := Nat × Nat

/-- Whether a span holds the code point. -/
def Span.holds (span : Span) (n : Nat) : Bool :=
  span.1 ≤ n && n ≤ span.2

/-- Whether one of the spans holds the code point. -/
def inSpans (spans : List Span) (n : Nat) : Bool :=
  spans.any (Span.holds · n)

/-! ## Tables -/

/-- The words of a table. -/
def tableWords (table : String) : List (List Char) :=
  pieces (fun c => c = ' ' || c = '\n') table.toList

/-- One code point, or two with a dash between them. -/
def readSpan (word : List Char) : Span :=
  match splitAtFirst (· = '-') word with
  | some (first, last) => (hexNumber first, hexNumber last)
  | none => (hexNumber word, hexNumber word)

/-- The spans of a table. -/
def readSpans (table : String) : List Span :=
  (tableWords table).map readSpan

/-- Numbers with commas between them. -/
def readNumbers (text : List Char) : List Nat :=
  (cutWhere (· = ',') text).map hexNumber

/-- The key of a row and the numbers that belong to it. -/
def readRow (word : List Char) : List Char × List Nat :=
  match splitAtFirst (· = '=') word with
  | some (key, numbers) => (key, readNumbers numbers)
  | none => (word, [])

example : readSpans "41-5a 61" = [(0x41, 0x5A), (0x61, 0x61)] := by decide
example : readRow ['c', '0', '=', '4', '1', ',', '3'] = (['c', '0'], [0x41, 3]) := by decide

end Gadfly.Text
