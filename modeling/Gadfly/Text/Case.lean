/-
  Gadfly.Text.Case

  Lower and upper case.

  `lowerChar` and `upperChar` give a list for a single character: the dotted capital I becomes an
  i and a combining dot, and several ligatures become two or three capitals. `lower` takes a whole
  text character by character, except that a capital sigma at the end of a word (`endsWord`)
  becomes the final sigma.

  Main definitions: `lowerChar`, `upperChar`, `endsWord`, `lower`, `String.lowered`.
-/

import Gadfly.Text.CaseTable

namespace Gadfly.Text

/-! ## Single characters -/

/-- The first answer that the runs give for a character; the character itself without one. -/
def shiftBy (runs : List CaseRun) (c : Char) : Char :=
  match runs.findSome? (·.image? c.toNat) with
  | some n => Char.ofNat n
  | none => c

/-- The lower case of one character, whatever stands around it. -/
def lowerChar (c : Char) : List Char :=
  if c.toNat < 0x80 then [c.toLower]
  else if c.toNat = 0x130 then ['i', Char.ofNat 0x307]
  else [shiftBy lowerRuns c]

/-- The upper case of one character, whatever stands around it. -/
def upperChar (c : Char) : List Char :=
  if c.toNat < 0x80 then [c.toUpper]
  else
    match upperSequences.find? (·.1 == c.toNat) with
    | some (_, codes) => codes.map Char.ofNat
    | none => [shiftBy upperRuns c]

/-- An ASCII character has the lower case that core gives it. -/
theorem lowerChar_of_lt {c : Char} (h : c.toNat < 0x80) : lowerChar c = [c.toLower] := by
  simp [lowerChar, h]

/-! ## Whole texts -/

/-- Whether the first character that counts has case. -/
def reachesCased (cs : List Char) : Bool :=
  match cs.dropWhile fun c => inSpans caseIgnorableSpans c.toNat with
  | [] => false
  | c :: _ => inSpans casedSpans c.toNat

/-- Whether a word ends between `before`, which is given backwards, and `after`. -/
def endsWord (before after : List Char) : Bool :=
  reachesCased before && !reachesCased after

/-- The lower case of a text whose earlier characters, given backwards, are `before`. -/
def lowerAfter (before : List Char) : List Char → List Char
  | [] => []
  | c :: rest =>
    let here :=
      if c = 'Σ' then [if endsWord before rest then 'ς' else 'σ'] else lowerChar c
    here ++ lowerAfter (c :: before) rest

/-- The lower case of a text. -/
def lower (cs : List Char) : List Char :=
  lowerAfter [] cs

@[simp] theorem lower_nil : lower [] = [] := rfl

end Gadfly.Text

namespace String

/-- The text in lower case. -/
def lowered (s : String) : String :=
  String.ofList (Gadfly.Text.lower s.toList)

end String
