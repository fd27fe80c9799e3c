/-
  Gadfly.Proofs.Timestamp

  Moments that are written and read again.

  Every day number has a date that exists (`isValid_civil`), and the date has the day number
  (`dayNumber_civil`). So `Timestamp.read?` reads a moment again from what `Timestamp.write` makes
  of it, as long as the text can say it (`IsRegular`): the second is one of a day, a leap second
  ends a minute, and the year is one that may be written.

  Main definitions: `Time.Timestamp.IsRegular`.
  Main statements: `Time.dayNumber_civil`, `Time.isValid_civil`, `Time.Timestamp.read?_write`.
-/

import Mathlib.Algebra.Order.Ring.Int
import Mathlib.Data.List.TakeWhile
import Gadfly.Proofs.Digits
import Gadfly.Time.Printer
import Gadfly.Time.Reader

namespace Gadfly.Time

open Gadfly.Decimal Gadfly.Text

/-! ## The calendar -/

/-- A year and a day in it, both counted from March, within an era of 400 years. -/
structure MarchDay (dayOfEra year day : Int) : Prop where
  year_nonneg : 0 ≤ year
  year_le : year ≤ 399
  day_nonneg : 0 ≤ day
  day_le : day ≤ 365
  sum : dayOfEra = 365 * year + year / 4 - year / 100 + day
  /-- The year has a last day of February. -/
  leap : day = 365 → isLeapYear (year + 1) = true

theorem isLeapYear_eq_true_iff {year : Int} :
    isLeapYear year = true ↔ year % 4 = 0 ∧ (year % 100 ≠ 0 ∨ year % 400 = 0) := by
  simp [isLeapYear]

/-- Before the last day of an era, the year is found century by century. -/
theorem marchDay_of_lt {d year : Int} (hpos : 0 ≤ d) (hlt : d < 146096)
    (hyear : year = (d - d / 1460 + d / 36524) / 365) :
    MarchDay d year (d - (365 * year + year / 4 - year / 100)) := by
  -- The century, the day in it, and the year in it.
  obtain ⟨c, hc⟩ : ∃ c, c = d / 36524 := ⟨_, rfl⟩
  obtain ⟨r, hr⟩ : ∃ r, r = d - 36524 * c := ⟨_, rfl⟩
  obtain ⟨k, hk⟩ : ∃ k, k = (r - (r + 24 * c) / 1460) / 365 := ⟨_, rfl⟩
  have hcentury : 0 ≤ c ∧ c ≤ 3 := by omega
  have hday : 0 ≤ r ∧ r < 36524 := by omega
  have hsum : year = 100 * c + k := by
    have hleaps : d / 1460 = 25 * c + (r + 24 * c) / 1460 := by omega
    rw [hyear, ← hc, hleaps, hk]
    omega
  have hrange : 0 ≤ k ∧ k ≤ 99 := by omega
  have hlow : 365 * k + k / 4 ≤ r := by omega
  have hhigh : r ≤ 365 * k + k / 4 + 365 := by omega
  have hlast : r = 365 * k + k / 4 + 365 → k % 4 = 3 ∧ k ≠ 99 := by omega
  have hfours : year / 4 = 25 * c + k / 4 := by omega
  have hhundreds : year / 100 = c := by omega
  refine ⟨by omega, by omega, by omega, by omega, by omega, fun hend => ?_⟩
  have hfourth := hlast (by omega)
  rw [isLeapYear_eq_true_iff]
  omega

theorem marchDay {d year : Int} (hpos : 0 ≤ d) (hle : d ≤ 146096)
    (hyear : year = (d - d / 1460 + d / 36524 - d / 146096) / 365) :
    MarchDay d year (d - (365 * year + year / 4 - year / 100)) := by
  by_cases hlast : d = 146096
  · subst hlast
    obtain rfl : year = 399 := by omega
    exact ⟨by decide, by decide, by decide, by decide, by decide, fun _ => by decide⟩
  · have hlt : d < 146096 := by omega
    refine marchDay_of_lt hpos hlt ?_
    rw [hyear, Int.ediv_eq_zero_of_lt hpos hlt, sub_zero]

/-- The date of a day that is counted from March. -/
theorem exists_civil_eq (day : Int) : ∃ era year n shifted month : Int,
    MarchDay (day + 719468 - era * 146097) year n ∧ shifted = (5 * n + 2) / 153 ∧
    month = (if shifted < 10 then shifted + 3 else shifted - 9) ∧
    civil day = ⟨year + era * 400 + if month ≤ 2 then 1 else 0, month.toNat,
      (n - (153 * shifted + 2) / 5 + 1).toNat⟩ := by
  have hmarch := marchDay (d := day + 719468 - (day + 719468) / 146097 * 146097) (by omega)
    (by omega) rfl
  exact ⟨_, _, _, _, _, hmarch, rfl, rfl, rfl⟩

/-- The date that `civil` gives for a day number has this day number. -/
theorem dayNumber_civil (day : Int) : dayNumber (civil day) = day := by
  obtain ⟨era, year, n, shifted, month, hmarch, hshifted, hmonth, hcivil⟩ := exists_civil_eq day
  obtain ⟨hyear, hyear', hday, hday', hsum, -⟩ := hmarch
  have hrange : 1 ≤ month ∧ month ≤ 12 := by split at hmonth <;> omega
  have hback : (month + 9) % 12 = shifted := by split at hmonth <;> omega
  have hmarchYear : (if month.toNat ≤ 2 then
      (year + era * 400 + if month ≤ 2 then 1 else 0) - 1
      else year + era * 400 + if month ≤ 2 then 1 else 0) = year + era * 400 := by
    split <;> split <;> omega
  -- The year within its era is less than 400, so dividing finds the era again.
  have hera : (year + era * 400) / 400 = era := by omega
  rw [hcivil]
  simp only [dayNumber, hmarchYear, hera, add_sub_cancel_right,
    Int.toNat_of_nonneg (by omega : 0 ≤ month), hback]
  omega

theorem isLeapYear_add_eras (year era : Int) :
    isLeapYear (year + era * 400) = isLeapYear year := by
  rw [Bool.eq_iff_iff, isLeapYear_eq_true_iff, isLeapYear_eq_true_iff]
  omega

/-- Every day number has a date that exists (`Date.isValid`). -/
theorem isValid_civil (day : Int) : (civil day).isValid = true := by
  obtain ⟨era, year, n, shifted, month, hmarch, hshifted, hmonth, hcivil⟩ := exists_civil_eq day
  obtain ⟨hyear, hyear', hday, hday', hsum, hleap⟩ := hmarch
  have hrange : 1 ≤ month ∧ month ≤ 12 := by split at hmonth <;> omega
  rw [hcivil]
  simp only [Date.isValid, Bool.and_eq_true, decide_eq_true_eq]
  refine ⟨⟨⟨by omega, by omega⟩, by omega⟩, ?_⟩
  by_cases hfebruary : month = 2
  · -- The last month of a year that is counted from March.
    have hshift : shifted = 11 := by split at hmonth <;> omega
    subst hfebruary
    rw [if_pos (by decide), add_right_comm, daysInMonth, if_pos (by decide), isLeapYear_add_eras]
    split
    · omega
    · have hno : n ≠ 365 := fun hn => absurd (hleap hn) ‹_›
      omega
  · rw [daysInMonth, if_neg (by omega)]
    split at hmonth <;> split <;> omega

/-! ## The text -/

section Text

variable {n width : Nat} {digits rest : List Char}

/-- The characters of a number with at least so many digits. -/
def padded (width n : Nat) : List Char :=
  padZeros width (Nat.toDigits 10 n)

theorem isDigits_padded (width n : Nat) : IsDigits (padded width n) :=
  (isDigits_toDigits n).padZeros

@[simp] theorem digitsValue_padded (width n : Nat) : digitsValue (padded width n) = n := by
  rw [padded, digitsValue_padZeros, digitsValue_toDigits]

theorem length_padded (hwidth : width ≠ 0) (h : n < 10 ^ width) :
    (padded width n).length = width :=
  length_padZeros (length_toDigits_le hwidth h)

theorem trimStart_digits (h : IsDigits digits) (rest : List Char) :
    trimStart (digits ++ rest) = digits ++ rest := by
  obtain ⟨c, digits, rfl⟩ := List.exists_cons_of_ne_nil h.ne_nil
  rw [trimStart, List.cons_append, List.dropWhile_cons,
    isBlank_of_isDigit (h.isDigit c List.mem_cons_self)]
  rfl

/-- Digits are taken as long as there is room. -/
theorem scanDigits_append {most : Nat} (h : IsDigits digits) (hmost : digits.length ≤ most)
    (hrest : Undigited (rest.take (most - digits.length))) :
    scanDigits most (digits ++ rest) = some (digits, rest) := by
  rw [scanDigits, List.take_append, List.take_of_length_le hmost, takeWhile_digits_append h hrest,
    if_neg, List.drop_left]
  simpa using h.ne_nil

theorem scanDigits_padded (hwidth : width ≠ 0) (h : n < 10 ^ width) (rest : List Char) :
    scanDigits width (padded width n ++ rest) = some (padded width n, rest) := by
  have hlength := length_padded hwidth h
  refine scanDigits_append (isDigits_padded width n) hlength.le ?_
  rw [hlength, Nat.sub_self]
  exact undigited_nil

theorem scanPair_padded (h : n < 100) (rest : List Char) :
    scanPair (padded 2 n ++ rest) = some (n, rest) := by
  rw [scanPair, trimStart_digits (isDigits_padded 2 n), scanDigits_padded (by decide) h]
  simp

theorem scanMark_cons (mark : Char) (h : isBlank mark = false) (rest : List Char) :
    scanMark mark (mark :: rest) = some ((), rest) := by
  rw [scanMark, trimStart, List.dropWhile_cons, h]
  simp

/-- The characters of a year. -/
def yearChars (year : Int) : List Char :=
  if 0 ≤ year ∧ year ≤ 9999 then padded 4 year.toNat
  else (if year < 0 then '-' else '+') :: padded 4 year.natAbs

theorem scanYear_yearChars (year : Int) (hrest : Undigited rest) :
    scanYear (yearChars year ++ rest) = some (year, rest) := by
  rw [yearChars]
  split
  · rename_i hshort
    have hdigits := isDigits_padded 4 year.toNat
    have hvalue : (year.toNat : Int) = year := Int.toNat_of_nonneg hshort.1
    rw [scanYear, trimStart_digits hdigits]
    split
    · exact absurd ‹_› (hdigits.append_ne '-' rfl rest _)
    · exact absurd ‹_› (hdigits.append_ne '+' rfl rest _)
    · have hscan : scanDigits 4 (padded 4 year.toNat ++ rest) = some (padded 4 year.toNat, rest) :=
        scanDigits_padded (by decide) (by omega) rest
      simp [hscan, hvalue]
  · -- After a sign, all digits are taken.
    have hdigits := isDigits_padded 4 year.natAbs
    have hscan : scanDigits (padded 4 year.natAbs ++ rest).length (padded 4 year.natAbs ++ rest) =
        some (padded 4 year.natAbs, rest) := by
      refine scanDigits_append hdigits (by simp) ?_
      rwa [List.take_of_length_le (by simp)]
    rw [List.cons_append]
    split
    · rw [scanYear, trimStart, List.dropWhile_cons_of_neg (by decide)]
      simp only [hscan, Option.bind_eq_bind, Option.bind_some, digitsValue_padded]
      rw [Int.ofNat_natAbs_of_nonpos (by omega), neg_neg]
    · rw [scanYear, trimStart, List.dropWhile_cons_of_neg (by decide)]
      simp only [hscan, Option.bind_eq_bind, Option.bind_some, digitsValue_padded]
      rw [Int.natAbs_of_nonneg (by omega)]

/-- The characters of a fraction of a second. -/
def nanosChars (nanos : Nat) : List Char :=
  if nanos = 0 then []
  else if nanos % 1000000 = 0 then '.' :: padded 3 (nanos / 1000000)
  else if nanos % 1000 = 0 then '.' :: padded 6 (nanos / 1000)
  else '.' :: padded 9 nanos

/-- A fraction of a second is found whole, however many of its digits are left out. -/
theorem scanNanos_fraction {places : Nat} (hplaces : places ≠ 0) (hmost : places ≤ 9)
    (h : n < 10 ^ places) (hrest : Undigited rest) :
    scanNanos ('.' :: (padded places n ++ rest)) = some (n * 10 ^ (9 - places), rest) := by
  have hdigits := isDigits_padded places n
  have hlength := length_padded hplaces h
  have hscan : scanDigits 9 (padded places n ++ rest) = some (padded places n, rest) :=
    scanDigits_append hdigits (hlength.trans_le hmost) (hrest.take _)
  simp only [scanNanos, hscan, Option.bind_eq_bind, Option.bind_some, digitsValue_padded, hlength,
    hrest.dropWhile]
  rfl

theorem scanNanos_nanosChars {nanos : Nat} (h : nanos < 1000000000) (rest : List Char) :
    scanNanos (nanosChars nanos ++ 'Z' :: rest) = some (nanos, 'Z' :: rest) := by
  have hrest : Undigited ('Z' :: rest) := undigited_cons rfl
  rw [nanosChars]
  split
  · rename_i hzero
    rw [hzero]
    rfl
  split
  · rw [List.cons_append, scanNanos_fraction (by decide) (by decide) (by omega) hrest]
    congr 2
    omega
  split
  · rw [List.cons_append, scanNanos_fraction (by decide) (by decide) (by omega) hrest]
    congr 2
    omega
  · rw [List.cons_append, scanNanos_fraction (by decide) (by decide) h hrest]
    congr 2
    omega

theorem toList_zeroPadded (width n : Nat) : (zeroPadded width n).toList = padded width n := by
  rw [zeroPadded, String.toList_ofList, padded]

theorem toList_writeYear (year : Int) : (writeYear year).toList = yearChars year := by
  rw [writeYear, yearChars]
  split
  · exact toList_zeroPadded 4 _
  · rw [String.toList_append, toList_zeroPadded]
    split <;> rfl

theorem toList_writeFraction (nanos : Nat) : (writeFraction nanos).toList = nanosChars nanos := by
  rw [writeFraction, nanosChars]
  split
  · rfl
  split
  · rw [String.toList_append, toList_zeroPadded]
    rfl
  split
  · rw [String.toList_append, toList_zeroPadded]
    rfl
  · rw [String.toList_append, toList_zeroPadded]
    rfl

/-! ## What can be read -/

theorem scanDigits_eq_some {most : Nat} {text digits rest : List Char}
    (h : scanDigits most text = some (digits, rest)) :
    IsDigits digits ∧ digits.length ≤ most := by
  rw [scanDigits] at h
  split at h
  · cases h
  · rename_i hne
    obtain ⟨rfl, -⟩ := Prod.mk.inj (Option.some.inj h)
    refine ⟨⟨by simpa using hne, fun c => List.mem_takeWhile_imp⟩, ?_⟩
    exact (List.takeWhile_prefix _).length_le.trans (List.length_take_le _ _)

theorem scanNanos_lt {text rest : List Char} {nanos : Nat}
    (h : scanNanos text = some (nanos, rest)) : nanos < 1000000000 := by
  rw [scanNanos.eq_def] at h
  split at h
  · simp only [Option.bind_eq_bind, Option.bind_eq_some_iff] at h
    obtain ⟨⟨digits, rest⟩, hscan, hdone⟩ := h
    obtain ⟨rfl, -⟩ := Prod.mk.inj (Option.some.inj hdone)
    obtain ⟨hdigits, hlength⟩ := scanDigits_eq_some hscan
    have hvalue := digitsValue_lt hdigits.isDigit
    calc
      digitsValue digits * 10 ^ (9 - digits.length)
        < 10 ^ digits.length * 10 ^ (9 - digits.length) :=
          Nat.mul_lt_mul_of_pos_right hvalue (Nat.pow_pos (by decide))
      _ = 1000000000 := by rw [← Nat.pow_add, Nat.add_sub_cancel' hlength]
  · obtain ⟨rfl, -⟩ := Prod.mk.inj (Option.some.inj h)
    decide

theorem scanOffsetSize_mod {text rest : List Char} {size : Int}
    (h : scanOffsetSize text = some (size, rest)) : size % 60 = 0 := by
  simp only [scanOffsetSize, Option.bind_eq_bind, Option.bind_eq_some_iff] at h
  obtain ⟨⟨hours, rest⟩, -, ⟨minutes, _⟩, -, hsize⟩ := h
  split at hsize
  · cases hsize
  · obtain ⟨rfl, -⟩ := Prod.mk.inj (Option.some.inj hsize)
    omega

theorem scanOffset_mod {text rest : List Char} {offset : Int}
    (h : scanOffset text = some (offset, rest)) : offset % 60 = 0 := by
  rw [scanOffset.eq_def] at h
  split at h
  · obtain ⟨rfl, -⟩ := Prod.mk.inj (Option.some.inj h)
    rfl
  split at h
  · obtain ⟨rfl, -⟩ := Prod.mk.inj (Option.some.inj h)
    rfl
  · obtain ⟨rfl, -⟩ := Prod.mk.inj (Option.some.inj h)
    rfl
  · exact scanOffsetSize_mod h
  · split at h
    · obtain ⟨⟨size, _⟩, hsize, hdone⟩ := Option.map_eq_some_iff.1 h
      have hmod := scanOffsetSize_mod hsize
      obtain ⟨rfl, -⟩ := Prod.mk.inj hdone
      omega
    · cases h
  · cases h

end Text

namespace Timestamp

/-- A moment that a text can say (`Timestamp.write`). -/
structure IsRegular (t : Timestamp) : Prop where
  second : t.second < 86400
  /-- A leap second ends a minute. -/
  nanos : t.nanos < 1000000000 ∨ t.second % 60 = 59 ∧ t.nanos < 2000000000
  year : isSupportedYear (civil t.day).year = true

/-- The second that is written: during a leap second, the one after the last. -/
def shownSecond (t : Timestamp) : Nat :=
  t.second % 60 + if 1000000000 ≤ t.nanos then 1 else 0

/-- The nanoseconds that are written. -/
def shownNanos (t : Timestamp) : Nat :=
  if 1000000000 ≤ t.nanos then t.nanos - 1000000000 else t.nanos

theorem toList_write (t : Timestamp) :
    t.write.toList = yearChars (civil t.day).year ++ '-' :: (padded 2 (civil t.day).month ++
      '-' :: (padded 2 (civil t.day).day ++ 'T' :: (padded 2 (t.second / 3600) ++
      ':' :: (padded 2 (t.second / 60 % 60) ++ ':' :: (padded 2 t.shownSecond ++
      (nanosChars t.shownNanos ++ ['Z'])))))) := by
  simp only [write, String.toList_append, toList_writeYear, toList_zeroPadded,
    toList_writeFraction, List.append_assoc, shownSecond, shownNanos]
  rfl

theorem shownSecond_le (t : Timestamp) : t.shownSecond ≤ 60 := by
  rw [shownSecond]
  split <;> omega

theorem IsRegular.shownNanos_lt {t : Timestamp} (h : t.IsRegular) :
    t.shownNanos < 1000000000 := by
  obtain hnanos | ⟨-, hnanos⟩ := h.nanos <;> rw [shownNanos] <;> split <;> omega

/-- The second is shown as 60 during a leap second, and never else. -/
theorem IsRegular.shownSecond_eq_iff {t : Timestamp} (h : t.IsRegular) :
    t.shownSecond = 60 ↔ 1000000000 ≤ t.nanos := by
  obtain hnanos | ⟨hsecond, hnanos⟩ := h.nanos <;> rw [shownSecond] <;> split <;> omega

theorem date_bounds (day : Int) :
    (civil day).month ≤ 12 ∧ (civil day).day ≤ 31 := by
  have hvalid := isValid_civil day
  simp only [Date.isValid, Bool.and_eq_true, decide_eq_true_eq] at hvalid
  obtain ⟨⟨⟨-, hmonth⟩, -⟩, hday⟩ := hvalid
  refine ⟨hmonth, hday.trans ?_⟩
  rw [daysInMonth]
  split
  · split <;> omega
  · split <;> omega

theorem scanDate_write (day : Int) (rest : List Char) :
    scanDate (yearChars (civil day).year ++ '-' :: (padded 2 (civil day).month ++
      '-' :: (padded 2 (civil day).day ++ rest))) = some (civil day, rest) := by
  obtain ⟨hmonth, hday⟩ := date_bounds day
  have hyear (rest : List Char) : Undigited ('-' :: rest) := undigited_cons rfl
  simp only [scanDate, scanYear_yearChars _ (hyear _), scanMark_cons '-' rfl,
    scanPair_padded (n := (civil day).month) (by omega),
    scanPair_padded (n := (civil day).day) (by omega), Option.bind_eq_bind, Option.bind_some]

theorem scanOffset_zulu : scanOffset (trimStart ['Z']) = some (0, []) := rfl

theorem scanSeparator_cons (rest : List Char) : scanSeparator ('T' :: rest) = some ((), rest) := rfl

theorem ofLocal_civil {day : Int} {second : Nat} (h : second < 86400) (nanos : Nat) :
    ofLocal (civil day) second nanos 0 = ⟨day, second, nanos⟩ := by
  rw [ofLocal, dayNumber_civil, Timestamp.mk.injEq]
  refine ⟨by omega, by omega, rfl⟩

/-- A moment is read again (`read?`) from its text (`write`). -/
theorem read?_write {t : Timestamp} (h : t.IsRegular) : read? t.write = some t := by
  have hsecond := h.second
  have hshown := t.shownSecond_le
  -- What is shown is put together to what it was taken from.
  have hclock : t.second / 3600 * 3600 + t.second / 60 % 60 * 60 +
      (if t.shownSecond = 60 then 59 else t.shownSecond) = t.second := by
    obtain hnanos | ⟨hlast, -⟩ := h.nanos <;> rw [shownSecond] <;> split <;> split <;> omega
  have hnanos : (t.shownNanos + if t.shownSecond = 60 then 1000000000 else 0) = t.nanos := by
    rw [shownNanos]
    simp only [h.shownSecond_eq_iff]
    split <;> omega
  simp only [read?, toList_write, scanDate_write, scanSeparator_cons,
    scanMark_cons ':' rfl,
    scanPair_padded (n := t.second / 3600) (by omega),
    scanPair_padded (n := t.second / 60 % 60) (by omega),
    scanPair_padded (n := t.shownSecond) (by omega),
    scanNanos_nanosChars h.shownNanos_lt, scanOffset_zulu, Option.bind_eq_bind, Option.bind_some,
    isValid_civil, h.year]
  rw [if_neg (by decide), if_neg (by simp; omega), hclock, hnanos, ofLocal_civil hsecond, inRange?,
    if_pos h.year]

theorem inRange?_eq_some {t known : Timestamp} (h : t.inRange? = some known) :
    known = t ∧ isSupportedYear (civil t.day).year = true := by
  rw [inRange?] at h
  split at h
  · exact ⟨(Option.some.inj h).symm, ‹_›⟩
  · cases h

/-- Offsets are whole minutes, so that the end of a minute stays where it is. -/
theorem second_ofLocal_mod {date : Date} {clock nanos : Nat} {offset : Int}
    (hoffset : offset % 60 = 0) :
    (ofLocal date clock nanos offset).second % 60 = clock % 60 := by
  simp only [ofLocal]
  omega

/-- A moment that was read is one that a text can say. -/
theorem isRegular_of_read? {s : String} {t : Timestamp} (h : read? s = some t) : t.IsRegular := by
  simp only [read?, Option.bind_eq_bind, Option.bind_eq_some_iff] at h
  obtain ⟨⟨date, _⟩, -, _, -, ⟨hour, _⟩, -, _, -, ⟨minute, _⟩, -, _, -, ⟨second, _⟩, -,
    ⟨nanos, _⟩, hnanos, ⟨offset, _⟩, hoffset, h⟩ := h
  have hfraction := scanNanos_lt hnanos
  have hminutes := scanOffset_mod hoffset
  split_ifs at h
  all_goals
    obtain ⟨rfl, hyear⟩ := inRange?_eq_some h
    refine ⟨by simp only [ofLocal]; omega, ?_, hyear⟩
    rw [second_ofLocal_mod hminutes]
    simp only [ofLocal]
    omega

end Timestamp

end Gadfly.Time
