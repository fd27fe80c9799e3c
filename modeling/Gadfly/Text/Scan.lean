/-
  Gadfly.Text.Scan

  Readers of the front of a text.

  A `Scan` looks at the beginning of a text and gives what it found there and what is left, or
  nothing when the text does not start as it should. `scanChar`, `scanWord` and `scanDigits` are
  the ones that the larger readers are made of.

  Main definitions: `Scan`, `scanChar`, `scanWord`, `scanDigits`.
-/

namespace Gadfly.Text

/-- A reader of the front of a text: what it found and what is left. -/
abbrev Scan (α : Type) := List Char → Option (α × List Char)

/-- One character of a class. -/
def scanChar (p : Char → Bool) : Scan Char
  | c :: rest => if p c then some (c, rest) else none
  | [] => none

/-- A fixed word. -/
def scanWord (word : List Char) : Scan Unit := fun text =>
  if word.isPrefixOf text then some ((), text.drop word.length) else none

/-- Between one and `most` digits. -/
def scanDigits (most : Nat) : Scan (List Char) := fun text =>
  let digits := (text.take most).takeWhile Char.isDigit
  if digits.isEmpty then none else some (digits, text.drop digits.length)

end Gadfly.Text
