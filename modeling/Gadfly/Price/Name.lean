/-
  Gadfly.Price.Name

  Names of models.

  People write the name of a model in many ways. Its `parts` are what stands between blanks,
  underscores and hyphens; `canonical` puts the parts in lower case with one hyphen between
  them. `sweep` writes the same name in one pass over the characters (`sweepStep`).

  A name may end in the date of a snapshot. `withoutDate?` looks for it by characters, `undated`
  in the last bytes, where each look at a byte and the cut itself may slip. `candidates` lists the
  names under which a model may be known: a name may also carry a provider in front of a slash.

  Main definitions: `parts`, `canonical`, `sweep`, `withoutDate?`, `undated`, `candidates`.
-/

import Gadfly.Text.Blank
import Gadfly.Text.Case
import Gadfly.Text.Search
import Gadfly.Text.Utf8

namespace Gadfly.Price

open Gadfly.Text

/-! ## Canonical names -/

/-- Whether a character stands between the parts of a name. -/
def isJoint (c : Char) : Bool :=
  isBlank c || c == '_' || c == '-'

/-- The parts of a name. -/
def parts (name : List Char) : List (List Char) :=
  pieces isJoint name

/-- The parts in lower case, with one hyphen between them. -/
def canonicalChars (name : List Char) : List Char :=
  List.intercalate ['-'] ((parts name).map (·.flatMap lowerChar))

/-- The canonical name of a model (`canonicalize_model`): its `parts` in lower case, with one hyphen
between them. -/
def canonical (name : String) : String :=
  String.ofList (canonicalChars name.toList)

/-- Names with the same parts have the same canonical name. -/
theorem canonicalChars_congr {a b : List Char} (h : parts a = parts b) :
    canonicalChars a = canonicalChars b := by
  simp only [canonicalChars, h]

/-! ## In one pass -/

/-- Writes one more character of a name: a joint (`isJoint`) as a hyphen, unless a hyphen would be
the first character or the second in a row, and all else in lower case. -/
def sweepStep (out : List Char) (c : Char) : List Char :=
  let c := if isBlank c ∨ c = '_' then '-' else c
  if c = '-' ∧ (out = [] ∨ out.getLast? = some '-') then out else out ++ lowerChar c

/-- Writes a trimmed name in one pass, and takes back the hyphens at the end. -/
def sweep (name : List Char) : List Char :=
  let out := (trim name).foldl sweepStep []
  (out.reverse.dropWhile (· == '-')).reverse

/-! ## Dates -/

/-- The shape of a snapshot date: a hyphen where there is a hyphen, a digit where there is a
zero. -/
def dateShape : List Char := "-0000-00-00".toList

/-- Whether the text is a hyphen and a date. -/
def isDate (text : List Char) : Bool :=
  text.length == dateShape.length &&
    (text.zip dateShape).all fun (c, shape) => if shape = '-' then c == '-' else c.isDigit

/-- What stands before a date at the end of a name (`strip_snapshot_date`), if that is anything. -/
def withoutDate? (name : List Char) : Option (List Char) :=
  let size := name.length - dateShape.length
  if 0 < size ∧ isDate (name.drop size) then some (name.take size) else none

/-- A name without its date is shorter. -/
theorem length_withoutDate? {name base : List Char} (h : withoutDate? name = some base) :
    base.length < name.length := by
  simp only [withoutDate?] at h
  split at h
  · next hs =>
    obtain rfl : _ = base := by simpa using h
    have : 0 < dateShape.length := by decide
    simp only [List.length_take]
    omega
  · simp at h

/-! ## Dates in bytes -/

/-- Where a date has hyphens. -/
def hyphenSpots : List Nat := [0, 5, 8]

/-- Whether the bytes at the spots are hyphens (`byteAt`). The first that is none settles it. -/
def hyphensAt (bytes : List UInt8) : List Nat → Except Utf8.Slip Bool
  | [] => .ok true
  | spot :: spots => do
    let b ← Utf8.byteAt bytes spot
    if b = 0x2D then hyphensAt bytes spots else return false

/-- Whether a byte is a digit. -/
def isDigitByte (b : UInt8) : Bool :=
  0x30 ≤ b && b ≤ 0x39

/-- Whether bytes are a hyphen and a date. -/
def isDateBytes (bytes : List UInt8) : Except Utf8.Slip Bool := do
  let hyphened ← hyphensAt bytes hyphenSpots
  return hyphened &&
    bytes.zipIdx.all fun (b, spot) => hyphenSpots.contains spot || isDigitByte b

/-- What stands before a date in the last bytes of a name, if that is anything:
`strip_snapshot_date` step by step, by indices of bytes, any of which could be out of range
(`Slip`). -/
def undated (name : String) : Except Utf8.Slip (Option String) :=
  let bytes := Utf8.encode name
  let cut := bytes.length - dateShape.length
  if bytes.length < dateShape.length || !Utf8.isBoundary bytes cut then .ok none
  else do
    let (base, date) ← Utf8.cutAt name cut
    let dated ← isDateBytes (Utf8.encode date)
    return if dated ∧ base ≠ "" then some base else none

/-! ## Candidates -/

/-- A name, then the name `withoutDate?`. -/
def datedForms (name : List Char) : List (List Char) :=
  name :: (withoutDate? name).toList

/-- The names under which a model may be known, in the order in which they are tried: the
canonical name, that name without its date, the part after its last slash, and that part
without its date. -/
def candidates (name : String) : List String :=
  let full := canonicalChars name.toList
  (datedForms full ++ datedForms (afterLast '/' full)).map String.ofList

end Gadfly.Price
