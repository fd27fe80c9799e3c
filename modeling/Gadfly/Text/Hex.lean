/-
  Gadfly.Text.Hex

  Digits in base sixteen.

  `hexValue?` and `valueInBase` read digits with letters of either case, and `hexDigits` writes
  them with small ones.

  Main definitions: `isHexDigit`, `hexValue?`, `valueInBase`, `hexNumber`, `hexDigits`.
-/

namespace Gadfly.Text

/-- A digit in base sixteen. -/
def isHexDigit (c : Char) : Bool :=
  c.isDigit || ('a' ≤ c && c ≤ 'f') || ('A' ≤ c && c ≤ 'F')

/-- The value of a digit in a base up to sixteen. -/
def hexValue (c : Char) : Nat :=
  if c.isDigit then c.toNat - '0'.toNat else c.toLower.toNat - 'a'.toNat + 10

/-- The value of a digit in base sixteen; other characters have none. -/
def hexValue? (c : Char) : Option Nat :=
  if isHexDigit c then some (hexValue c) else none

/-- The number that digits spell in a base. -/
def valueInBase (base : Nat) (digits : List Char) : Nat :=
  digits.foldl (fun n c => base * n + hexValue c) 0

/-- The number that digits spell in base sixteen. -/
def hexNumber (digits : List Char) : Nat :=
  valueInBase 16 digits

/-- The characters of a number in base sixteen, without leading zeros. -/
def hexDigits (n : Nat) : List Char :=
  Nat.toDigits 16 n

example : hexNumber ['1', 'F', 'a'] = 0x1FA := by decide
example : hexDigits 0x1FA = ['1', 'f', 'a'] := by decide

end Gadfly.Text
