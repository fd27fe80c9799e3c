/-
  Gadfly.Time.Reader

  Reading the text of a timestamp.

  The form is date (`scanDate`), separator, time of day, offset (`scanOffset`), as in
  `2024-05-01T12:00:00+02:00`, read leniently: blanks may stand before every number, every mark
  and the offset, months, days, hours, minutes and seconds may have one digit, the separator may
  be a space, and a year may have a sign and then any number of digits. The offset is required; it
  is `Z`, `UTC`, or signed hours and minutes with or without a colon.

  Main definitions: `scanDate`, `scanOffset`, `Timestamp.read?`.
-/

import Gadfly.Decimal.Reader
import Gadfly.Text.Blank
import Gadfly.Text.Scan
import Gadfly.Time.Timestamp

namespace Gadfly.Time

open Gadfly.Text Gadfly.Decimal

/-! ## Pieces -/

/-- Blanks, then a number of one or two digits. -/
def scanPair : Scan Nat := fun text => do
  let (digits, rest) ← scanDigits 2 (trimStart text)
  some (digitsValue digits, rest)

/-- Blanks, then a year: up to four digits, or a sign and any number of digits. -/
def scanYear : Scan Int := fun text =>
  match trimStart text with
  | '-' :: rest => do
    let (digits, rest) ← scanDigits rest.length rest
    some (-(digitsValue digits : Int), rest)
  | '+' :: rest => do
    let (digits, rest) ← scanDigits rest.length rest
    some ((digitsValue digits : Int), rest)
  | text => do
    let (digits, rest) ← scanDigits 4 text
    some ((digitsValue digits : Int), rest)

/-- Blanks, then the mark. -/
def scanMark (mark : Char) : Scan Unit := fun text =>
  match trimStart text with
  | c :: rest => if c = mark then some ((), rest) else none
  | [] => none

/-- The nanoseconds of an optional fraction. Digits after the ninth are dropped. -/
def scanNanos : Scan Nat := fun text =>
  match text with
  | '.' :: rest => do
    let (digits, rest) ← scanDigits 9 rest
    some (digitsValue digits * tenTo (9 - digits.length), rest.dropWhile Char.isDigit)
  | _ => some (0, text)

/-- Exactly two digits. -/
def scanTwo : Scan Nat := fun text =>
  match text with
  | a :: b :: rest => if a.isDigit && b.isDigit then some (digitsValue [a, b], rest) else none
  | _ => none

/-- Hours and minutes of an offset, in seconds. -/
def scanOffsetSize : Scan Int := fun text => do
  let (hours, rest) ← scanTwo text
  let (minutes, rest) ← scanTwo (rest.dropWhile fun c => c == ':' || isBlank c)
  if 59 < minutes then none else some (hours * 3600 + minutes * 60, rest)

/-- The offset from universal time, in seconds. -/
def scanOffset : Scan Int := fun text =>
  if (text.take 3).map Char.toUpper = ['U', 'T', 'C'] then some (0, text.drop 3)
  else
    match text with
    | 'Z' :: rest => some (0, rest)
    | 'z' :: rest => some (0, rest)
    | '+' :: rest => scanOffsetSize rest
    | c :: rest =>
      if c = '-' ∨ c = '−' then (scanOffsetSize rest).map fun (size, rest) => (-size, rest)
      else none
    | [] => none

/-! ## The whole -/

/-- A date. -/
def scanDate : Scan Date := fun text => do
  let (year, text) ← scanYear text
  let (_, text) ← scanMark '-' text
  let (month, text) ← scanPair text
  let (_, text) ← scanMark '-' text
  let (day, text) ← scanPair text
  some (⟨year, month, day⟩, text)

/-- One character between the date and the time of day. -/
def scanSeparator : Scan Unit := fun text =>
  match text with
  | c :: rest => if c = 'T' ∨ c = 't' ∨ c = ' ' then some ((), rest) else none
  | [] => none

/-- The years that a timestamp may have, both where it was written and in universal time. -/
def isSupportedYear (year : Int) : Bool :=
  -262143 ≤ year && year ≤ 262142

/-- Keeps a moment in a year that a timestamp may have. -/
def Timestamp.inRange? (t : Timestamp) : Option Timestamp :=
  if isSupportedYear (civil t.day).year then some t else none

/-- The moment that a text names. -/
def Timestamp.read? (s : String) : Option Timestamp := do
  let (date, text) ← scanDate s.toList
  let (_, text) ← scanSeparator text
  let (hour, text) ← scanPair text
  let (_, text) ← scanMark ':' text
  let (minute, text) ← scanPair text
  let (_, text) ← scanMark ':' text
  let (second, text) ← scanPair text
  let (nanos, text) ← scanNanos text
  let (offset, text) ← scanOffset (trimStart text)
  if !allBlank text || !isSupportedYear date.year || !date.isValid then none
  else if 23 < hour || 59 < minute || 60 < second || 86400 ≤ offset.natAbs then none
  else
    let leap := second = 60
    let clock := hour * 3600 + minute * 60 + if leap then 59 else second
    (Timestamp.ofLocal date clock (nanos + if leap then 1000000000 else 0) offset).inRange?

end Gadfly.Time
