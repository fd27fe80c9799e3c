/-
  Gadfly.Toml.Scalar

  Numbers, truth values and moments in TOML text.

  Digits may be grouped by single underscores (`scanGrouped`). A whole number (`scanInteger`) does
  not start with a zero unless it is zero, and has to fit into 64 bits with a sign; a number with
  a fraction or a power of ten (`scanFloat`) may not be too large for a double. Moments
  (`scanMoment`) are checked but not kept.

  Main definitions: `Toml.scanInteger`, `Toml.scanFloat`, `Toml.scanMoment`, `Toml.scanScalar`.
-/

import Gadfly.Decimal.Reader
import Gadfly.Text.Hex
import Gadfly.Text.Scan
import Gadfly.Time.Timestamp
import Gadfly.Toml.Basic

namespace Gadfly.Toml

open Gadfly.Text Gadfly.Decimal Gadfly.Time

/-! ## Digits -/

/-- The digits that follow a first one. An underscore has to stand before a digit. -/
def scanMoreDigits (p : Char → Bool) : Scan (List Char)
  | '_' :: c :: rest =>
    if p c then (scanMoreDigits p rest).map fun (digits, rest) => (c :: digits, rest) else none
  | c :: rest =>
    if p c then (scanMoreDigits p rest).map fun (digits, rest) => (c :: digits, rest)
    else if c = '_' then none
    else some ([], c :: rest)
  | [] => some ([], [])

/-- One or more digits. -/
def scanGrouped (p : Char → Bool) : Scan (List Char) := fun text => do
  let (first, rest) ← scanChar p text
  let (digits, rest) ← scanMoreDigits p rest
  some (first :: digits, rest)

/-- A whole number without sign: a zero, or digits that do not start with one. -/
def scanWhole : Scan (List Char)
  | '0' :: rest => some (['0'], rest)
  | text => scanGrouped Char.isDigit text

/-! ## Whole numbers -/

/-- The numbers of 64 bits with a sign. -/
def fits (n : Int) : Bool :=
  -0x8000000000000000 ≤ n && n < 0x8000000000000000

/-- A number in a base, after the mark of the base. -/
def scanInBase (base : Nat) (p : Char → Bool) : Scan Int := fun text => do
  let (digits, rest) ← scanGrouped p text
  let n : Int := valueInBase base digits
  if fits n then some (n, rest) else none

/-- A whole number. -/
def scanInteger : Scan Int
  | '0' :: 'x' :: rest => scanInBase 16 isHexDigit rest
  | '0' :: 'o' :: rest => scanInBase 8 (fun c => '0' ≤ c && c ≤ '7') rest
  | '0' :: 'b' :: rest => scanInBase 2 (fun c => c = '0' || c = '1') rest
  | text => do
    let (negative, text) := readSign text
    let (digits, rest) ← scanWhole text
    let size : Int := digitsValue digits
    let n := if negative then -size else size
    if fits n then some (n, rest) else none

/-! ## Doubles -/

/-- The digits after a point. -/
def scanFraction : Scan (List Char)
  | '.' :: rest => scanGrouped Char.isDigit rest
  | _ => none

/-- A power of ten. -/
def scanPower : Scan Int := fun text => do
  let (_, rest) ← scanChar (fun c => c = 'e' || c = 'E') text
  let (negative, rest) := readSign rest
  let (digits, rest) ← scanGrouped Char.isDigit rest
  let size : Int := digitsValue digits
  some (if negative then -size else size, rest)

/-- What may follow the whole part of a double: a fraction, a power of ten, or both. -/
def scanTail : Scan (List Char × Int) := fun text =>
  match scanFraction text with
  | some (fraction, rest) =>
    match scanPower rest with
    | some (power, rest) => some ((fraction, power), rest)
    | none => some ((fraction, 0), rest)
  | none => (scanPower text).map fun (power, rest) => (([], power), rest)

/-- A double with digits. Nothing is read as the positive infinity. -/
def scanDecimal : Scan Float := fun text => do
  let (negative, text) := readSign text
  let (whole, text) ← scanWhole text
  let ((fraction, power), rest) ← scanTail text
  let digits := digitsValue (whole ++ fraction)
  let value := (Literal.mk negative digits (power - fraction.length)).toFloat
  if value.isInf && !negative then none else some (value, rest)

/-- The words for infinity and for no number. -/
def scanSpecial : Scan Float := fun text => do
  let (negative, text) := readSign text
  let (value, rest) ←
    match scanWord "inf".toList text with
    | some (_, rest) => some (1.0 / 0.0, rest)
    | none => (scanWord "nan".toList text).map fun (_, rest) => (0.0 / 0.0, rest)
  some (if negative then -value else value, rest)

/-- A double. -/
def scanFloat : Scan Float := fun text =>
  match scanDecimal text with
  | some found => some found
  | none => scanSpecial text

/-! ## Moments -/

/-- Exactly `count` digits. -/
def scanFixed (count : Nat) : Scan Nat := fun text =>
  let digits := text.take count
  if digits.length = count && digits.all Char.isDigit then
    some (digitsValue digits, text.drop count)
  else none

/-- Two digits with a value in a range. -/
def scanTwoIn (low high : Nat) : Scan Nat := fun text => do
  let (n, rest) ← scanFixed 2 text
  if low ≤ n ∧ n ≤ high then some (n, rest) else none

/-- One fixed character. -/
def scanMark (mark : Char) : Scan Char :=
  scanChar (· = mark)

/-- A date of the calendar. -/
def scanDate : Scan Unit := fun text => do
  let (year, text) ← scanFixed 4 text
  let (_, text) ← scanMark '-' text
  let (month, text) ← scanTwoIn 1 12 text
  let (_, text) ← scanMark '-' text
  let (_, text) ← scanTwoIn 1 (daysInMonth year month) text
  some ((), text)

/-- A time of day, perhaps with a fraction of a second. -/
def scanTime : Scan Unit := fun text => do
  let (_, text) ← scanTwoIn 0 23 text
  let (_, text) ← scanMark ':' text
  let (_, text) ← scanTwoIn 0 59 text
  let (_, text) ← scanMark ':' text
  let (_, text) ← scanTwoIn 0 60 text
  match text with
  | '.' :: rest => do
    let (_, rest) ← scanDigits rest.length rest
    some ((), rest)
  | _ => some ((), text)

/-- An offset from universal time, or nothing. -/
def scanOffset : Scan Unit := fun text =>
  match text with
  | c :: rest =>
    if c = 'Z' ∨ c = 'z' then some ((), rest)
    else if c = '+' ∨ c = '-' then do
      let (_, rest) ← scanTwoIn 0 23 rest
      let (_, rest) ← scanMark ':' rest
      let (_, rest) ← scanTwoIn 0 59 rest
      some ((), rest)
    else some ((), text)
  | [] => some ((), text)

/-- What may follow a date. -/
def scanTimeAfterDate : Scan Unit := fun text => do
  let (_, text) ← scanChar (fun c => c = 'T' || c = 't' || c = ' ') text
  let (_, text) ← scanTime text
  scanOffset text

/-- A date, a time of day, or both. -/
def scanMoment : Scan Unit := fun text =>
  match scanDate text with
  | some (_, rest) => some ((scanTimeAfterDate rest).getD ((), rest))
  | none => scanTime text

/-! ## All of them -/

/-- A number or a moment. -/
def scanNumeric : Scan Toml := fun text =>
  match scanMoment text with
  | some (_, rest) => some (.moment, rest)
  | none =>
    match scanFloat text with
    | some (x, rest) => some (.float x, rest)
    | none => (scanInteger text).map fun (n, rest) => (.integer n, rest)

/-- A value that is neither text nor made of other values. -/
def scanScalar : Scan Toml := fun text =>
  match text with
  | 't' :: _ => (scanWord "true".toList text).map fun (_, rest) => (.boolean true, rest)
  | 'f' :: _ => (scanWord "false".toList text).map fun (_, rest) => (.boolean false, rest)
  | _ => scanNumeric text

end Gadfly.Toml
