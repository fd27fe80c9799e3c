/-
  Gadfly.Decimal.Shortest

  The fewest decimal digits that read back as a double.

  A double stands for every real that rounds to it. For one digit, two digits, … up to
  seventeen the two neighbours of the double on that decimal grid are tried, in exact
  arithmetic, and the first grid with a neighbour inside the interval wins; of two neighbours
  inside, the nearer.

  `Layout` holds the choices of the written form: which of two equally near neighbours is taken,
  where positional writing ends and what a whole number looks like. `rateLayout` is the one in
  which rates appear in the description of the settings.

  Main definitions: `Digits`, `Tie`, `shortest`, `Layout`, `Layout.write`, `rateLayout`.
-/

import Gadfly.Decimal.Binary

namespace Gadfly.Decimal

/-! ## Digits -/

/-- The number `value · 10 ^ exponent`. -/
structure Digits where
  value : Nat
  exponent : Int
  deriving Repr, DecidableEq

/-- The same number without zeros at the end of the digits. -/
def Digits.dropZeros : (fuel : Nat) → Digits → Digits
  | 0, d => d
  | fuel + 1, d =>
    if d.value ≠ 0 ∧ d.value % 10 = 0 then dropZeros fuel ⟨d.value / 10, d.exponent + 1⟩ else d

/-- The digits as characters. -/
def Digits.chars (d : Digits) : List Char :=
  Nat.toDigits 10 d.value

/-- The place of the decimal point, counted from the front of the digits. -/
def Digits.point (d : Digits) : Int :=
  d.chars.length + d.exponent

/-- A positive quotient. -/
structure Ratio where
  num : Nat
  den : Nat

/-- The quotient scaled by a power of ten. -/
def Ratio.scale (r : Ratio) (power : Int) : Ratio :=
  if 0 ≤ power then ⟨r.num * tenTo power.toNat, r.den⟩ else ⟨r.num, r.den * tenTo (-power).toNat⟩

/-- `mantissa · 2 ^ exponent` as a quotient. -/
def Ratio.ofBinary (mantissa : Nat) (exponent : Int) : Ratio :=
  if 0 ≤ exponent then ⟨mantissa * twoTo exponent.toNat, 1⟩ else ⟨mantissa, twoTo (-exponent).toNat⟩

/-- Comparing quotients by cross multiplication. -/
def Ratio.le (a b : Ratio) : Bool :=
  a.num * b.den ≤ b.num * a.den

/-- The reals that round to a double, and whether the ends belong to them. -/
structure Interval where
  low : Ratio
  high : Ratio
  closed : Bool

/-- The interval of `mantissa · 2 ^ exponent`. Below a power of two the neighbours are closer. -/
def Interval.ofBinary (mantissa : Nat) (exponent : Int) : Interval :=
  let low :=
    if mantissa = twoTo 52 ∧ -1074 < exponent then Ratio.ofBinary (4 * mantissa - 1) (exponent - 2)
    else Ratio.ofBinary (2 * mantissa - 1) (exponent - 1)
  ⟨low, Ratio.ofBinary (2 * mantissa + 1) (exponent - 1), mantissa % 2 == 0⟩

/-- Whether a quotient rounds to the double of the interval. -/
def Interval.holds (i : Interval) (r : Ratio) : Bool :=
  if i.closed then i.low.le r && r.le i.high else !r.le i.low && !i.high.le r

/-- The least `point` with `r < 10 ^ point`, found among the `fuel` candidates above `start`. -/
def pointFrom (r : Ratio) : (fuel : Nat) → (start : Int) → Int
  | 0, start => start
  | fuel + 1, start =>
    let scaled := r.scale (-start)
    if scaled.num < scaled.den then start else pointFrom r fuel (start + 1)

/-- The position of the decimal point before the first digit of a double. -/
def pointOf (r : Ratio) : Int :=
  let guess := ((r.num.log2 : Int) - r.den.log2) * 30103 / 100000 - 1
  pointFrom r 4 guess

/-- Which of two equally near neighbours is taken. -/
inductive Tie where
  | upper
  | even
  deriving Repr, DecidableEq

/-- The whole number nearest to a quotient. -/
def Ratio.nearestWhole (tie : Tie) (r : Ratio) : Nat :=
  match tie with
  | .even => roundDiv r.num r.den
  | .upper => if 2 * (r.num % r.den) < r.den then r.num / r.den else r.num / r.den + 1

example : (Ratio.mk 5 2).nearestWhole .upper = 3 ∧ (Ratio.mk 5 2).nearestWhole .even = 2 := by
  decide

/-- Tries grids of `places`, `places + 1`, … digits. -/
def searchGrid (tie : Tie) (r : Ratio) (interval : Interval) (point : Int) :
    (fuel : Nat) → (places : Nat) → Digits
  | 0, places =>
    let scaled := r.scale (places - point)
    ⟨scaled.nearestWhole tie, point - places⟩
  | fuel + 1, places =>
    let scaled := r.scale (places - point)
    let below := scaled.num / scaled.den
    let nearer := scaled.nearestWhole tie
    let farther := if nearer = below then below + 1 else below
    let readsBack := fun n => interval.holds ((Ratio.mk n 1).scale (point - places))
    if readsBack nearer then ⟨nearer, point - places⟩
    else if readsBack farther then ⟨farther, point - places⟩
    else searchGrid tie r interval point fuel (places + 1)

/-- The fewest digits that read back as `mantissa · 2 ^ exponent`, for a mantissa above zero. -/
def shortest (tie : Tie) (mantissa : Nat) (exponent : Int) : Digits :=
  let r := Ratio.ofBinary mantissa exponent
  (searchGrid tie r (Interval.ofBinary mantissa exponent) (pointOf r) 17 1).dropZeros 20

/-! ## Written forms -/

/-- The choices of a written form. -/
structure Layout where
  tie : Tie
  /-- Numbers whose point is at or after this place are written positionally, … -/
  firstPoint : Int
  /-- … up to this place. -/
  lastPoint : Int
  /-- What follows a whole number. -/
  whole : String
  nan : String
  infinity : String

/-- Digits with a decimal point at the given place, filled up with zeros. -/
def positional (layout : Layout) (digits : List Char) (point : Int) : String :=
  if point ≤ 0 then
    "0." ++ String.ofList (List.replicate (-point).toNat '0' ++ digits)
  else
    let place := point.toNat
    if digits.length ≤ place then
      String.ofList (digits ++ List.replicate (place - digits.length) '0') ++ layout.whole
    else String.ofList (digits.take place ++ '.' :: digits.drop place)

/-- Digits with one of them before the point and a power of ten after. -/
def scientific (digits : List Char) (point : Int) : String :=
  let head := digits.take 1
  let tail := digits.drop 1
  String.ofList (if tail.isEmpty then head else head ++ '.' :: tail) ++ "e" ++ toString (point - 1)

/-- The text of a double. -/
def Layout.write (layout : Layout) (x : Float) : String :=
  match parts x with
  | .nan => layout.nan
  | .infinite negative => (if negative then "-" else "") ++ layout.infinity
  | .finite negative mantissa exponent =>
    let body :=
      if mantissa = 0 then "0" ++ layout.whole
      else
        let d := shortest layout.tie mantissa exponent
        if layout.firstPoint ≤ d.point ∧ d.point ≤ layout.lastPoint then
          positional layout d.chars d.point
        else scientific d.chars d.point
    (if negative then "-" else "") ++ body

/-- Numbers are written positionally from `0.0001` to just below `10 ^ 16`, a whole number keeps
one zero after the point, and of two equally near numbers the upper is taken. -/
def rateLayout : Layout where
  tie := .upper
  firstPoint := -3
  lastPoint := 16
  whole := ".0"
  nan := "NaN"
  infinity := "inf"

end Gadfly.Decimal
