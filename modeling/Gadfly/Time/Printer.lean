/-
  Gadfly.Time.Printer

  The text of a timestamp: date, `T`, time of day, `Z`.

  The fraction of a second (`writeFraction`) has 0, 3, 6 or 9 digits, the fewest that lose
  nothing. A year outside 0 to 9999 carries its sign (`writeYear`).

  Main definitions: `writeYear`, `writeFraction`, `Timestamp.write`.
-/

import Gadfly.Decimal.Fixed
import Gadfly.Time.Timestamp

namespace Gadfly.Time

open Gadfly.Decimal

/-- A number with at least `width` digits. -/
def zeroPadded (width n : Nat) : String :=
  String.ofList (padZeros width (Nat.toDigits 10 n))

/-- Four digits for an ordinary year; a sign and at least four digits for any other. -/
def writeYear (year : Int) : String :=
  if 0 ≤ year ∧ year ≤ 9999 then zeroPadded 4 year.toNat
  else (if year < 0 then "-" else "+") ++ zeroPadded 4 year.natAbs

/-- The fraction of a second, with a point in front. -/
def writeFraction (nanos : Nat) : String :=
  if nanos = 0 then ""
  else if nanos % 1000000 = 0 then "." ++ zeroPadded 3 (nanos / 1000000)
  else if nanos % 1000 = 0 then "." ++ zeroPadded 6 (nanos / 1000)
  else "." ++ zeroPadded 9 nanos

/-- The text of a timestamp. A leap second is written as second 60. -/
def Timestamp.write (t : Timestamp) : String :=
  let date := civil t.day
  let leap := 1000000000 ≤ t.nanos
  let second := t.second % 60 + if leap then 1 else 0
  let nanos := if leap then t.nanos - 1000000000 else t.nanos
  writeYear date.year ++ "-" ++ zeroPadded 2 date.month ++ "-" ++ zeroPadded 2 date.day ++ "T" ++
    zeroPadded 2 (t.second / 3600) ++ ":" ++ zeroPadded 2 (t.second / 60 % 60) ++ ":" ++
    zeroPadded 2 second ++ writeFraction nanos ++ "Z"

end Gadfly.Time
