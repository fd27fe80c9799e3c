/-
  Gadfly.Domain.Mapping

  The characters of a domain as they count.

  People write domains in capitals, in wide letters and in circled ones, and put invisible
  characters into them. `image?` replaces every character by the one it stands for, which is its
  lower case unless a table says otherwise, or leaves it out; a few characters are refused.
  `mapped?` brings what comes out into its normal form.

  Main definitions: `Domain.image?`, `Domain.mapped?`, `Domain.isKept`.
-/

import Gadfly.Domain.MappingTable
import Gadfly.Text.Case
import Gadfly.Text.Normal

namespace Gadfly.Domain

open Gadfly.Text

/-- The run that a row of `runTable` describes. -/
def readRun (word : List Char) : CaseRun :=
  match readNumbers word with
  | [only, image] => ⟨only, only, 1, (image : Int) - only⟩
  | [first, last, image] => ⟨first, last, 1, (image : Int) - first⟩
  | [first, last, step, image] => ⟨first, last, step, (image : Int) - first⟩
  | _ => ⟨1, 0, 1, 0⟩

/-- Characters that become one other character each. -/
def runs : List CaseRun :=
  (tableWords runTable).map readRun

/-- Characters that become several. -/
def sequences : List (Nat × List Nat) :=
  (tableWords sequenceTable).map fun word => (hexNumber (readRow word).1, (readRow word).2)

/-- The characters that are left out. -/
def ignoredSpans : List Span := readSpans ignoredTable

/-- The code points that are refused. -/
def refusedSpans : List Span := readSpans refusedTable

/-- What a character becomes; nothing if it is refused. -/
def image? (c : Char) : Option (List Char) :=
  let n := c.toNat
  if n < 0x80 then some [c.toLower]
  else if inSpans refusedSpans n then none
  else if inSpans ignoredSpans n then some []
  else
    match sequences.lookup n, runs.findSome? (·.image? n) with
    | some codes, _ => some (codes.map Char.ofNat)
    | none, some code => some [Char.ofNat code]
    | none, none => some (lowerChar c)

/-- An ASCII character becomes its lower case. -/
theorem image?_of_lt {c : Char} (h : c.toNat < 0x80) : image? c = some [c.toLower] := by
  simp [image?, h]

/-- A domain as it counts; nothing if one of its characters is refused. -/
def mapped? (text : List Char) : Option (List Char) :=
  (text.mapM image?).map fun images => normal images.flatten

/-- Whether a character stands for itself. -/
def isKept (c : Char) : Bool :=
  image? c == some [c]

end Gadfly.Domain
