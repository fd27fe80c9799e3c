/-
  Gadfly.Decimal.Reader

  Reading decimal text.

  `Literal` is a decimal number as written: a sign, digits around a point, and a power of ten.
  `Literal.toFloat` is the double nearest to it. `readDouble?` reads the text of a double in
  the usual form, with the words for infinity and for no number in any case.

  Main definitions: `digitsValue`, `readNat?`, `Literal`, `Literal.toFloat`, `readDouble?`.
-/

import Gadfly.Decimal.Binary

namespace Gadfly.Decimal

/-! ## Digits -/

/-- The value of a decimal digit. -/
def digitValue (c : Char) : Nat :=
  c.toNat - '0'.toNat

/-- The number that decimal digits spell. -/
def digitsValue (cs : List Char) : Nat :=
  cs.foldl (fun n c => 10 * n + digitValue c) 0

/-- A natural number: decimal digits, at least one, after an optional plus sign. -/
def readNat? (cs : List Char) : Option Nat :=
  let body := match cs with
    | '+' :: rest => rest
    | _ => cs
  if body.isEmpty || !body.all Char.isDigit then none else some (digitsValue body)

/-! ## Literals -/

/-- The number `± digits · 10 ^ exponent`. -/
structure Literal where
  negative : Bool
  digits : Nat
  exponent : Int
  deriving Repr, DecidableEq

/-- The double nearest to a literal. Beyond `10 ^ 400` it is infinite and below `10 ^ -400` it
is zero, however long the digits are. -/
def Literal.toFloat (l : Literal) : Float :=
  let size : Int := (Nat.toDigits 10 l.digits).length
  if l.digits = 0 then nearest l.negative 0 1
  else if 400 < size + l.exponent then signed l.negative infinityBits
  else if size + l.exponent < -400 then nearest l.negative 0 1
  else if 0 ≤ l.exponent then nearest l.negative (l.digits * tenTo l.exponent.toNat) 1
  else nearest l.negative l.digits (tenTo (-l.exponent).toNat)

/-- A sign in front of the rest. -/
def readSign : List Char → Bool × List Char
  | '+' :: rest => (false, rest)
  | '-' :: rest => (true, rest)
  | rest => (false, rest)

/-- A power of ten after the mark `e`; nothing at all stands for zero. -/
def readExponent? : List Char → Option Int
  | [] => some 0
  | mark :: rest =>
    if mark = 'e' ∨ mark = 'E' then
      let (negative, digits) := readSign rest
      if digits.isEmpty || !digits.all Char.isDigit then none
      else some (if negative then -(digitsValue digits : Int) else digitsValue digits)
    else none

/-- Digits around an optional point, then an optional power of ten. -/
def readUnsigned? (negative : Bool) (cs : List Char) : Option Literal := do
  let whole := cs.takeWhile Char.isDigit
  let rest := cs.dropWhile Char.isDigit
  let (fraction, rest) := match rest with
    | '.' :: after => (after.takeWhile Char.isDigit, after.dropWhile Char.isDigit)
    | _ => ([], rest)
  if whole.isEmpty && fraction.isEmpty then none
  else
    let power ← readExponent? rest
    some ⟨negative, digitsValue (whole ++ fraction), power - fraction.length⟩

/-- The double that a text spells. -/
def readDouble? (s : String) : Option Float :=
  let (negative, body) := readSign s.toList
  let word := String.ofList (body.map Char.toLower)
  if word = "inf" || word = "infinity" then
    some (signed negative infinityBits)
  else if word = "nan" then some (0.0 / 0.0)
  else (readUnsigned? negative body).map Literal.toFloat

end Gadfly.Decimal
