/-
  Gadfly.Decimal.Binary

  Doubles as exact numbers.

  A finite double is `mantissa · 2 ^ exponent`; `parts` reads the two off its bits and
  `nearest` goes the other way, from a quotient of natural numbers to the double nearest to
  it, a tie going to the even mantissa. Nothing here uses floating point arithmetic, so every
  rounding is visible.

  Main definitions: `roundDiv`, `Parts`, `parts`, `nearest`.
-/

namespace Gadfly.Decimal

/-! ## Rounding a quotient -/

/-- The natural number nearest to `num / den`, a tie going to the even neighbour. -/
def roundDiv (num den : Nat) : Nat :=
  let quotient := num / den
  let rest := num % den
  if 2 * rest < den then quotient
  else if den < 2 * rest then quotient + 1
  else quotient + quotient % 2

/-- Rounding moves by at most half a unit. -/
theorem roundDiv_close (num : Nat) {den : Nat} (h : 0 < den) :
    2 * num ≤ (2 * roundDiv num den + 1) * den ∧ 2 * roundDiv num den * den ≤ 2 * num + den := by
  have hdiv := Nat.div_add_mod num den
  have hlt := Nat.mod_lt num h
  have above : ∀ k, (2 * (num / den + k) + 1) * den
      = 2 * (den * (num / den)) + (2 * k + 1) * den := fun k => by
    rw [Nat.mul_comm den, Nat.add_mul, Nat.add_mul, Nat.mul_add, Nat.add_mul, Nat.mul_assoc]
    omega
  have below : ∀ k, 2 * (num / den + k) * den = 2 * (den * (num / den)) + 2 * k * den :=
    fun k => by rw [Nat.mul_comm den, Nat.mul_add, Nat.add_mul, Nat.mul_assoc]
  have above₀ := above 0
  have below₀ := below 0
  have above₁ := above 1
  have below₁ := below 1
  simp only [Nat.add_zero] at above₀ below₀
  unfold roundDiv
  dsimp only
  split
  · omega
  · split
    · omega
    · rcases Nat.mod_two_eq_zero_or_one (num / den) with even | odd
      · simp only [even, Nat.add_zero]; omega
      · simp only [odd]; omega

/-! ## Powers -/

/-- Two to a power. -/
def twoTo (n : Nat) : Nat := Nat.pow 2 n

/-- Ten to a power. -/
def tenTo (n : Nat) : Nat := Nat.pow 10 n

/-! ## Taking a double apart -/

/-- What a double stands for. -/
inductive Parts where
  | nan
  | infinite (negative : Bool)
  | finite (negative : Bool) (mantissa : Nat) (exponent : Int)
  deriving Repr, DecidableEq

/-- Reads a double off its bits. -/
def parts (x : Float) : Parts :=
  let bits : Nat := x.toBits.toNat
  let negative := bits / twoTo 63 == 1
  let field : Nat := bits / twoTo 52 % twoTo 11
  let fraction : Nat := bits % twoTo 52
  if field = 2047 then (if fraction = 0 then .infinite negative else .nan)
  else if field = 0 then .finite negative fraction (-1074)
  else .finite negative (twoTo 52 + fraction) ((field : Int) - 1075)

/-! ## Putting a double together -/

/-- The bits of positive infinity. -/
def infinityBits : Nat := 0x7FF0000000000000

/-- Whether `num / den < 2 ^ e`. -/
def belowPower (num den : Nat) (e : Int) : Bool :=
  if 0 ≤ e then num < den * twoTo e.toNat else num * twoTo (-e).toNat < den

/-- The bits of the double nearest to `num / den`. -/
def nearestBits (num den : Nat) : Nat :=
  if num = 0 then 0
  else
    let guess : Int := (num.log2 : Int) - den.log2
    let top := if belowPower num den guess then guess - 1 else guess
    let unit := max (top - 52) (-1074)
    let scaled :=
      if 0 ≤ unit then roundDiv num (den * twoTo unit.toNat)
      else roundDiv (num * twoTo (-unit).toNat) den
    min ((unit + 1074).toNat * twoTo 52 + scaled) infinityBits

/-- The double of some bits, with the given sign. -/
def signed (negative : Bool) (bits : Nat) : Float :=
  Float.ofBits (UInt64.ofNat (bits + if negative then twoTo 63 else 0))

/-- The double nearest to `num / den`, with the given sign. -/
def nearest (negative : Bool) (num den : Nat) : Float :=
  signed negative (nearestBits num den)

end Gadfly.Decimal
