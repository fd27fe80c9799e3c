/-
  Gadfly.Decimal.Fixed

  Doubles with a fixed number of places.

  `fixed` takes the double as the exact number it stands for and rounds it once, a tie going to
  the even last digit. The sign is kept also when every digit is zero.

  Main definitions: `placed`, `fixed`.
-/

import Gadfly.Decimal.Binary

namespace Gadfly.Decimal

/-- Puts zeros in front until there are `width` characters. -/
def padZeros (width : Nat) (digits : List Char) : List Char :=
  List.replicate (width - digits.length) '0' ++ digits

/-- `units / 10 ^ places` with all its places. -/
def placed (places units : Nat) : String :=
  let whole := toString (units / tenTo places)
  let fraction := padZeros places (Nat.toDigits 10 (units % tenTo places))
  whole ++ "." ++ String.ofList fraction

/-- The text of a double with `places` digits after the point. -/
def fixed (places : Nat) (x : Float) : String :=
  match parts x with
  | .nan => "NaN"
  | .infinite negative => (if negative then "-" else "") ++ "inf"
  | .finite negative mantissa exponent =>
    let units :=
      if 0 ≤ exponent then mantissa * twoTo exponent.toNat * tenTo places
      else roundDiv (mantissa * tenTo places) (twoTo (-exponent).toNat)
    (if negative then "-" else "") ++ placed places units

end Gadfly.Decimal
