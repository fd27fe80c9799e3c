/-
  Gadfly.Time.Timestamp

  Moments in universal time.

  A `Timestamp` is a day, counted from the first of January 1970, a second of that day, and
  nanoseconds. During a leap second the nanoseconds run on past a thousand million while the
  second stays 59. `dayNumber` and `civil` go between day numbers and dates (`Date`) of the
  Gregorian calendar, extended to all years.

  Main definitions: `Timestamp`, `Date`, `dayNumber`, `civil`, `daysInMonth`.
-/

namespace Gadfly.Time

/-- A moment in universal time. -/
structure Timestamp where
  /-- Days since the first of January 1970. -/
  day : Int
  /-- Seconds since midnight. -/
  second : Nat
  /-- Nanoseconds since the second began. -/
  nanos : Nat
  deriving Repr, DecidableEq, Inhabited

/-- A date of the Gregorian calendar. -/
structure Date where
  year : Int
  month : Nat
  day : Nat
  deriving Repr, DecidableEq

/-! ## The calendar -/

/-- Whether a year has a 29th of February. -/
def isLeapYear (year : Int) : Bool :=
  year % 4 == 0 && (year % 100 != 0 || year % 400 == 0)

/-- The number of days of a month. -/
def daysInMonth (year : Int) (month : Nat) : Nat :=
  if month = 2 then (if isLeapYear year then 29 else 28)
  else if month = 4 ∨ month = 6 ∨ month = 9 ∨ month = 11 then 30
  else 31

/-- Whether the month and the day exist. -/
def Date.isValid (d : Date) : Bool :=
  1 ≤ d.month && d.month ≤ 12 && 1 ≤ d.day && d.day ≤ daysInMonth d.year d.month

/-- The day number of a date. Years are counted from March, so that the leap day comes last. -/
def dayNumber (d : Date) : Int :=
  let year := if d.month ≤ 2 then d.year - 1 else d.year
  let era := year / 400
  let yearOfEra := year - era * 400
  let month : Int := (d.month + 9) % 12
  let dayOfYear := (153 * month + 2) / 5 + d.day - 1
  let dayOfEra := yearOfEra * 365 + yearOfEra / 4 - yearOfEra / 100 + dayOfYear
  era * 146097 + dayOfEra - 719468

/-- The date of a day number. -/
def civil (day : Int) : Date :=
  let z := day + 719468
  let era := z / 146097
  let dayOfEra := z - era * 146097
  let yearOfEra :=
    (dayOfEra - dayOfEra / 1460 + dayOfEra / 36524 - dayOfEra / 146096) / 365
  let dayOfYear := dayOfEra - (365 * yearOfEra + yearOfEra / 4 - yearOfEra / 100)
  let shifted := (5 * dayOfYear + 2) / 153
  let month := if shifted < 10 then shifted + 3 else shifted - 9
  let year := yearOfEra + era * 400 + if month ≤ 2 then 1 else 0
  ⟨year, month.toNat, (dayOfYear - (153 * shifted + 2) / 5 + 1).toNat⟩

example : civil (dayNumber ⟨2024, 2, 29⟩) = ⟨2024, 2, 29⟩ := by decide
example : civil (dayNumber ⟨-1, 12, 31⟩) = ⟨-1, 12, 31⟩ := by decide
example : dayNumber ⟨1970, 1, 1⟩ = 0 := by decide

/-- The moment that clocks show as the given date and second of the day where they are
`offset` seconds ahead of universal time. -/
def Timestamp.ofLocal (date : Date) (second nanos : Nat) (offset : Int) : Timestamp :=
  let total := (second : Int) - offset
  ⟨dayNumber date + total / 86400, (total % 86400).toNat, nanos⟩

end Gadfly.Time
