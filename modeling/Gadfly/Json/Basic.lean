/-
  Gadfly.Json.Basic

  JSON values.

  An `object` is the list of its members in the order in which they were written, names that occur
  twice included: what a repeated name means is up to whoever reads the object. A `number` is kept
  as the `Numeral` that was written, because a whole number (`Numeral.natural?`), a number with a
  fraction and a number too large for a double (`Numeral.toFloat?`) are told apart later.

  `unreadable` stands for a piece of text that is well formed and yet no value: a string with an
  unpaired surrogate escape, or an object with such a name. It may be skipped, never read.

  Main definitions: `Numeral`, `Json`, `Numeral.natural?`, `Numeral.toFloat?`.
-/

import Gadfly.Decimal.Reader

namespace Gadfly

open Gadfly.Decimal

/-! ## Numbers -/

/-- A number as written. -/
structure Numeral where
  negative : Bool
  /-- The digits before the point. -/
  whole : List Char
  /-- The digits after the point; empty without a point. -/
  fraction : List Char
  /-- The power of ten, when one is written. -/
  exponent : Option Int
  deriving Repr, DecidableEq

namespace Numeral

/-- A natural number as a numeral. -/
def ofNat (n : Nat) : Numeral :=
  ⟨false, Nat.toDigits 10 n, [], none⟩

/-- Whether the numeral has neither a fraction nor a power of ten. -/
def isWhole (n : Numeral) : Bool :=
  n.fraction.isEmpty && n.exponent.isNone

/-- The natural number below `bound` that a numeral denotes. Zero with a sign is none. -/
def natural? (bound : Nat) (n : Numeral) : Option Nat :=
  if n.isWhole && !n.negative && digitsValue n.whole < bound then some (digitsValue n.whole)
  else none

/-- The largest number that fits into 64 bits. -/
def word : Nat := 0xFFFFFFFFFFFFFFFF

/-- Digits collected as long as they fit into 64 bits; `dropped` digits did not. -/
structure Significand where
  value : Nat
  dropped : Int

/-- Collects the digits before the point. From the first digit that does not fit, digits only
raise the power of ten. -/
def collectWhole : Significand → List Char → Significand
  | s, [] => s
  | s, c :: rest =>
    if s.dropped = 0 ∧ s.value * 10 + digitValue c ≤ word then
      collectWhole ⟨s.value * 10 + digitValue c, 0⟩ rest
    else collectWhole ⟨s.value, s.dropped + 1⟩ rest

/-- Collects the digits after the point, up to the first that does not fit. -/
def collectFraction : Significand → List Char → Significand
  | s, [] => s
  | s, c :: rest =>
    if s.value * 10 + digitValue c ≤ word then
      collectFraction ⟨s.value * 10 + digitValue c, s.dropped - 1⟩ rest
    else s

/-- A power of ten as a double. -/
def powerOfTen (n : Nat) : Float :=
  (Literal.mk false 1 n).toFloat

/-- Divides by powers of ten until the exponent is used up. -/
def divideDown : (fuel : Nat) → Float → (exponent : Nat) → Float
  | 0, f, _ => f
  | fuel + 1, f, exponent =>
    if exponent ≤ 308 then f / powerOfTen exponent
    else if f == 0.0 then f
    else divideDown fuel (f / powerOfTen 308) (exponent - 308)

/-- The double that a numeral denotes: its collected digits times or divided by a power of ten,
in double arithmetic. There is none when the result would be infinite. -/
def toFloat? (n : Numeral) : Option Float :=
  let s := collectFraction (collectWhole ⟨0, 0⟩ n.whole) n.fraction
  let exponent := s.dropped + n.exponent.getD 0
  let digits := (UInt64.ofNat s.value).toFloat
  let magnitude? :=
    if exponent < 0 then some (divideDown 16 digits exponent.natAbs)
    else if exponent ≤ 308 then
      let product := digits * powerOfTen exponent.toNat
      if product.isInf then none else some product
    else if s.value = 0 then some digits
    else none
  magnitude?.map fun m => if n.negative then -m else m

end Numeral

/-! ## Values -/

/-- A JSON value. -/
inductive Json where
  | null
  | bool (value : Bool)
  | number (value : Numeral)
  | string (value : String)
  | array (items : List Json)
  | object (members : List (String × Json))
  /-- Well formed, but no value. -/
  | unreadable
  deriving Repr, Inhabited

namespace Json

/-- A natural number. -/
def ofNat (n : Nat) : Json :=
  .number (Numeral.ofNat n)

/-- The first member with a name. -/
def find? (members : List (String × Json)) (name : String) : Option Json :=
  (members.find? (·.1 == name)).map (·.2)

/-- The member with a name, and `null` where there is none. -/
def member (name : String) : Json → Json
  | .object members => (find? members name).getD .null
  | _ => .null

end Json

end Gadfly
