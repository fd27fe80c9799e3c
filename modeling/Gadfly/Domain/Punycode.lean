/-
  Gadfly.Domain.Punycode

  Labels written with letters, digits and hyphens only.

  In what `encode` writes the ASCII characters of a label come first, before a hyphen. The others
  follow in the order of their code points, each as the number of steps from the one before: a
  step goes to the next place in the label, and from its end to the next code point at its start
  (`Progress`). A number is written in digits of a base that changes from place to place, with the
  low places first (`writeNumber`); the thresholds `threshold bias place` say which digit is the
  last, and `adapt` makes them fit the numbers seen.

  Main definitions: `Punycode.encode`, `Punycode.decode?`.
-/

import Gadfly.Text.Hex

namespace Gadfly.Domain.Punycode

/-! ## Digits -/

/-- A digit: the letters are 0 to 25, the figures 26 to 35. -/
def digit (n : Nat) : Char :=
  if n < 26 then Char.ofNat ('a'.toNat + n) else Char.ofNat ('0'.toNat + n - 26)

/-- The value of a digit. -/
def digitValue? (c : Char) : Option Nat :=
  if c.isDigit then some (c.toNat - '0'.toNat + 26)
  else if c.isAlpha then some (c.toLower.toNat - 'a'.toNat)
  else none

/-- A digit reads back. -/
theorem digitValue?_digit {n : Nat} (h : n < 36) : digitValue? (digit n) = some n := by
  have all : ∀ k ∈ List.range 36, digitValue? (digit k) = some k := by decide
  exact all n (List.mem_range.mpr h)

/-! ## Places -/

/-- The digits below it end a number at a place. Places are counted in steps of 36. -/
def threshold (bias place : Nat) : Nat :=
  if place ≤ bias then 1 else if bias + 26 ≤ place then 26 else place - bias

theorem one_le_threshold (bias place : Nat) : 1 ≤ threshold bias place := by
  unfold threshold
  split
  · omega
  · split <;> omega

theorem threshold_le (bias place : Nat) : threshold bias place ≤ 26 := by
  unfold threshold
  split
  · omega
  · split <;> omega

/-- Counts how often a number can be divided before it is small, in steps of 36, and what is
left. -/
def shrink (delta place : Nat) : Nat × Nat :=
  if 455 < delta then shrink (delta / 35) (place + 36) else (delta, place)
termination_by delta
decreasing_by exact Nat.div_lt_self (by omega) (by omega)

/-- The bias after a number. The first number of a label is damped more, and the numbers shrink
as the label grows to `length` characters. -/
def adapt (delta length : Nat) (isFirst : Bool) : Nat :=
  let damped := if isFirst then delta / 700 else delta / 2
  let (left, place) := shrink (damped + damped / length) 0
  place + 36 * left / (left + 38)

/-- The bias before the first number. -/
def startBias : Nat := 72

/-! ## Writing -/

/-- Writes a number from a place on. -/
def writeNumber (bias place n : Nat) : List Char :=
  let t := threshold bias place
  if n < t then [digit n]
  else digit (t + (n - t) % (36 - t)) :: writeNumber bias (place + 36) ((n - t) / (36 - t))
termination_by n
decreasing_by
  have low := one_le_threshold bias place
  exact Nat.lt_of_le_of_lt (Nat.div_le_self _ _) (by omega)

/-- How far the writing of a label has come. -/
structure Progress where
  written : List Char
  /-- The steps since the last character that was written. -/
  steps : Nat
  bias : Nat
  /-- The number of characters that have been written. -/
  count : Nat

/-- Walks past a character of the label while those with the code point `point` are written. -/
def Progress.walk (basic point : Nat) (p : Progress) (c : Char) : Progress :=
  if c.toNat < point then { p with steps := p.steps + 1 }
  else if c.toNat = point then
    { written := p.written ++ writeNumber p.bias 36 p.steps, steps := 0,
      bias := adapt p.steps (p.count + 1) (p.count == basic), count := p.count + 1 }
  else p

/-- Writes the characters with the code points given, which rise; all below `next` are done. -/
def writePoints (label : List Char) (basic : Nat) : (points : List Nat) → (next : Nat) →
    Progress → List Char
  | [], _, p => p.written
  | point :: points, next, p =>
    let p := { p with steps := p.steps + (point - next) * (p.count + 1) }
    let p := label.foldl (Progress.walk basic point) p
    writePoints label basic points (point + 1) { p with steps := p.steps + 1 }

/-- The code points beyond ASCII of a label, each once, rising. -/
def points (label : List Char) : List Nat :=
  ((label.map Char.toNat).filter (0x80 ≤ ·)).eraseDups.mergeSort

/-- Writes a label. -/
def encode (label : List Char) : List Char :=
  let basic := label.filter (·.toNat < 0x80)
  basic ++ (if basic.isEmpty then [] else ['-']) ++
    writePoints label basic.length (points label) 0x80 ⟨[], 0, startBias, basic.length⟩

/-! ## Reading -/

/-- Reads a number from a place on, whose digits count `weight` times; `sum` is what the places
before made. -/
def readNumber (bias place weight sum : Nat) : List Char → Option (Nat × List Char)
  | [] => none
  | c :: rest => do
    let d ← digitValue? c
    let t := threshold bias place
    if d < t then some (sum + d * weight, rest)
    else readNumber bias (place + 36) (weight * (36 - t)) (sum + d * weight) rest

/-- A number takes up room. -/
theorem length_of_readNumber {bias place weight sum : Nat} {text : List Char}
    {r : Nat × List Char} (h : readNumber bias place weight sum text = some r) :
    r.2.length < text.length := by
  induction text generalizing place weight sum with
  | nil => simp [readNumber] at h
  | cons c rest ih =>
    rw [readNumber] at h
    cases hd : digitValue? c with
    | none => simp [hd] at h
    | some d =>
      simp only [hd, Option.bind_eq_bind, Option.bind_some] at h
      split at h
      · obtain rfl := Option.some.inj h
        simp
      · have := ih h
        simp only [List.length_cons]
        omega

/-- Reads characters into a label; `place` is where the last one went, counted on through all
code points. -/
def readPoints (label : List Char) (bias place : Nat) (isFirst : Bool) (text : List Char) :
    Option (List Char) :=
  if text.isEmpty then some label
  else
    match h : readNumber bias 36 1 0 text with
    | none => none
    | some (steps, rest) =>
      let size := label.length + 1
      let reached := place + steps
      let point := reached / size
      if point.isValidChar then
        let label := label.take (reached % size) ++ Char.ofNat point :: label.drop (reached % size)
        readPoints label (adapt steps size isFirst)
          (point * (size + 1) + reached % size + 1) false rest
      else none
termination_by text.length
decreasing_by exact length_of_readNumber h

/-- What stands before the last hyphen, if something does, and after it. -/
def splitBasic (text : List Char) : List Char × List Char :=
  let last := (text.reverse.takeWhile (· != '-')).reverse
  let front := text.take (text.length - last.length - 1)
  if front.isEmpty then ([], text) else (front, last)

/-- The label that is written in a text. -/
def decode? (text : List Char) : Option (List Char) :=
  let (basic, rest) := splitBasic text
  readPoints basic startBias (0x80 * (basic.length + 1)) true rest

end Gadfly.Domain.Punycode
