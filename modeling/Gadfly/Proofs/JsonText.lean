/-
  Gadfly.Proofs.JsonText

  JSON text says what was written.

  Every value whose numbers are spelt well (`Legible`) is read again from its text
  (`read?_write`). `readValue` takes a whole value off the front of a text, whatever comes behind
  it, if only it cannot be taken for more of a number (`Parted`). So arrays and objects are read
  member by member, and the fuel of the reader is spent no faster than characters are. From bytes
  a text is read as it is (`readBytes?_encode`).

  Main definitions: `Numeral.IsSpelt`, `Json.Legible`, `Json.Parted`, `Json.Regained`.
  Main statements: `Json.readNumeral_write`, `Json.readString_write`, `Json.read?_write`,
  `Json.readBytes?_encode`.
-/

import Gadfly.Json.Printer
import Gadfly.Json.Reader
import Gadfly.Proofs.Digits
import Gadfly.Proofs.Utf8

namespace Gadfly

open Gadfly.Decimal Gadfly.Text

/-- A number that is spelt as JSON has it: there are digits, and no needless zero is in front. -/
structure Numeral.IsSpelt (n : Numeral) : Prop where
  whole : IsDigits n.whole
  noZero : 1 < n.whole.length → n.whole.head? ≠ some '0'
  fraction : ∀ c ∈ n.fraction, c.isDigit = true

theorem Numeral.isSpelt_ofNat (n : Nat) : (Numeral.ofNat n).IsSpelt where
  whole := isDigits_toDigits n
  noZero hlong := by
    by_cases hzero : n = 0
    · subst hzero
      exact absurd hlong (by decide)
    · exact head?_toDigits_ne hzero
  fraction := nofun

namespace Json

/-! ## Numbers -/

/-- What cannot be taken for more of a number: nothing, or a mark that goes between values. -/
inductive Parted : List Char → Prop
  | nil : Parted []
  | comma (rest : List Char) : Parted (',' :: rest)
  | bracket (rest : List Char) : Parted (']' :: rest)
  | brace (rest : List Char) : Parted ('\x7d' :: rest)

/-- The characters of a fraction. -/
def fractionChars (fraction : List Char) : List Char :=
  if fraction.isEmpty then [] else '.' :: fraction

/-- The characters of a power of ten. -/
def powerChars : Option Int → List Char
  | some e => 'e' :: (toString e).toList
  | none => []

theorem toList_writeNumeral (n : Numeral) :
    (writeNumeral n).toList = (if n.negative then ['-'] else []) ++
      (n.whole ++ (fractionChars n.fraction ++ powerChars n.exponent)) := by
  obtain ⟨negative, whole, fraction, exponent⟩ := n
  simp only [writeNumeral, fractionChars, String.toList_append, String.toList_ofList,
    List.append_assoc]
  congr 1
  · split <;> rfl
  congr 1
  congr 1
  · split
    · rfl
    · simp
  · cases exponent <;> simp [powerChars]

theorem toList_toString_int (e : Int) :
    (toString e).toList = (if e < 0 then ['-'] else []) ++ Nat.toDigits 10 e.natAbs := by
  cases e with
  | ofNat n => exact String.toList_ofList
  | negSucc n =>
    rw [if_pos (Int.negSucc_lt_zero n)]
    exact String.toList_append.trans (congrArg _ String.toList_ofList)

variable {digits rest : List Char}

theorem readDigits_append (h : IsDigits digits) (hrest : Undigited rest) :
    readDigits (digits ++ rest) = some (digits, rest) := by
  rw [readDigits, takeWhile_digits_append h hrest, dropWhile_digits_append h hrest, if_neg]
  simpa using h.ne_nil

theorem readSign_digits (h : IsDigits digits) :
    readSign (digits ++ rest) = (false, digits ++ rest) := by
  rw [readSign.eq_def]
  split
  · exact absurd ‹_› (h.append_ne '+' rfl rest _)
  · exact absurd ‹_› (h.append_ne '-' rfl rest _)
  · rfl

theorem undigited_powerChars (exponent : Option Int) (hrest : Parted rest) :
    Undigited (powerChars exponent ++ rest) := by
  cases exponent with
  | some e => exact undigited_cons rfl
  | none => cases hrest <;> rfl

theorem readPower_append (exponent : Option Int) (hrest : Parted rest) :
    readPower (powerChars exponent ++ rest) = some (exponent, rest) := by
  cases exponent with
  | none => cases hrest <;> rfl
  | some e =>
    have hundigited : Undigited rest := undigited_powerChars none hrest
    -- The sign is read apart from the digits.
    have hsign : readSign ((toString e).toList ++ rest) =
        (decide (e < 0), Nat.toDigits 10 e.natAbs ++ rest) := by
      rw [toList_toString_int]
      split
      · rename_i hneg
        rw [decide_eq_true hneg]
        rfl
      · rename_i hneg
        rw [decide_eq_false hneg]
        exact readSign_digits (isDigits_toDigits _)
    simp only [powerChars, List.cons_append, readPower, true_or, if_true, hsign,
      readDigits_append (isDigits_toDigits _) hundigited, Option.bind_eq_bind, Option.bind_some,
      digitsValue_toDigits, decide_eq_true_eq, Option.some.injEq, Prod.mk.injEq, and_true]
    split <;> omega

theorem readFraction_append {fraction : List Char} (h : ∀ c ∈ fraction, c.isDigit = true)
    (exponent : Option Int) (hrest : Parted rest) :
    readFraction (fractionChars fraction ++ (powerChars exponent ++ rest)) =
      some (fraction, powerChars exponent ++ rest) := by
  cases fraction with
  | nil =>
    cases exponent with
    | some e => rfl
    | none => cases hrest <;> rfl
  | cons c fraction =>
    exact readDigits_append ⟨List.cons_ne_nil _ _, h⟩ (undigited_powerChars exponent hrest)

theorem undigited_fractionChars (fraction : List Char) (exponent : Option Int)
    (hrest : Parted rest) :
    Undigited (fractionChars fraction ++ (powerChars exponent ++ rest)) := by
  cases fraction with
  | nil => exact undigited_powerChars exponent hrest
  | cons c fraction => exact undigited_cons rfl

theorem readWhole_append (h : IsDigits digits)
    (hzero : 1 < digits.length → digits.head? ≠ some '0') (hrest : Undigited rest) :
    readWhole (digits ++ rest) = some (digits, rest) := by
  rw [readWhole, readDigits_append h hrest]
  simpa using hzero

/-- A number is read again (`readNumeral`) from its text (`writeNumeral`). -/
theorem readNumeral_write {n : Numeral} (h : n.IsSpelt) (hrest : Parted rest) :
    readNumeral ((writeNumeral n).toList ++ rest) = some (n, rest) := by
  obtain ⟨negative, whole, fraction, exponent⟩ := n
  obtain ⟨hwhole, hzero, hfraction⟩ := h
  have hread := readWhole_append hwhole hzero (undigited_fractionChars fraction exponent hrest)
  rw [toList_writeNumeral, List.append_assoc, List.append_assoc, List.append_assoc,
    readNumeral.eq_def]
  cases negative with
  | true =>
    simp only [if_true, List.cons_append, List.nil_append, hread, Option.bind_eq_bind,
      Option.bind_some, readFraction_append hfraction exponent hrest,
      readPower_append exponent hrest]
  | false =>
    -- The first digit is not taken for a sign.
    have hminus :=
      hwhole.append_ne '-' rfl (fractionChars fraction ++ (powerChars exponent ++ rest))
    simp only [Bool.false_eq_true, if_false, List.nil_append, hread, Option.bind_eq_bind,
      Option.bind_some, readFraction_append hfraction exponent hrest,
      readPower_append exponent hrest]

/-! ## Strings -/

/-- A control character has two digits in base sixteen. -/
theorem hexDigits_of_lt : ∀ n < 0x20,
    (if n < 16 then ['0'] else []) ++ hexDigits n =
      [Nat.digitChar (n / 16), Nat.digitChar (n % 16)] := by
  decide

theorem hexUnit?_of_lt : ∀ n < 0x20,
    hexUnit? '0' '0' (Nat.digitChar (n / 16)) (Nat.digitChar (n % 16)) = some n := by
  decide

variable {c letter : Char} {s : Spelling}

theorem readString_short (hletter : letter ≠ 'u') (h : shortEscape? letter = some c) :
    readString s ('\\' :: letter :: rest) = readString (s.add c) rest := by
  rw [readString.eq_def]
  simp [hletter, h]

/-- A character is read again from the way in which it is written. -/
theorem readString_escapeChar (c : Char) (s : Spelling) (rest : List Char) :
    readString s (escapeChar c ++ rest) = readString (s.add c) rest := by
  unfold escapeChar
  -- Seven characters have a letter of their own.
  iterate 7
    split
    · rename_i hc
      subst hc
      exact readString_short (by decide) rfl
  split
  · rename_i hsmall
    have hdigits := hexDigits_of_lt c.toNat hsmall
    have hunit := hexUnit?_of_lt c.toNat hsmall
    have hadd : s.addUnit c.toNat = s.add c := by
      rw [Spelling.addUnit, if_neg (by omega), if_neg (by omega), Char.ofNat_toNat]
    rw [List.append_assoc _ _ (hexDigits c.toNat), hdigits]
    simp [readString, hunit, hadd]
  · rename_i hquote hback _ _ _ _ _ hlarge
    rw [List.singleton_append, readString.eq_def]
    split <;> simp_all

theorem text?_add (hhigh : s.high = none) (hpaired : s.paired = true) (cs : List Char) :
    (cs.foldl Spelling.add s).text? = some (String.ofList (s.found.reverse ++ cs)) := by
  induction cs generalizing s with
  | nil => simp [Spelling.text?, hhigh, hpaired]
  | cons c cs ih =>
    rw [List.foldl_cons, ih rfl (by simp [Spelling.add, hhigh, hpaired])]
    simp [Spelling.add]

theorem readString_escaped (cs : List Char) (s : Spelling) (rest : List Char) :
    readString s (cs.flatMap escapeChar ++ '"' :: rest) =
      some ((cs.foldl Spelling.add s).text?, rest) := by
  induction cs generalizing s with
  | nil => rfl
  | cons c cs ih =>
    rw [List.flatMap_cons, List.append_assoc, readString_escapeChar, ih, List.foldl_cons]

theorem toList_writeString (s : String) :
    (writeString s).toList = '"' :: (s.toList.flatMap escapeChar ++ ['"']) := by
  rw [writeString, String.toList_ofList]

/-- A string is read again (`readString`) from its text, once its opening quote is taken. -/
theorem readString_write (s : String) (rest : List Char) :
    readString {} (s.toList.flatMap escapeChar ++ '"' :: rest) = some (some s, rest) := by
  rw [readString_escaped, text?_add rfl rfl]
  exact congrArg (fun text => some (some text, rest)) (String.ofList_toList)

/-! ## Values -/

/-- A value that a text can say: its numbers are spelt well (`Numeral.IsSpelt`). -/
inductive Legible : Json → Prop
  | null : Legible .null
  | unreadable : Legible .unreadable
  | bool (value : Bool) : Legible (.bool value)
  | number {n : Numeral} (hspelt : n.IsSpelt) : Legible (.number n)
  | string (s : String) : Legible (.string s)
  | array {items : List Json} (hitems : ∀ item ∈ items, Legible item) : Legible (.array items)
  | object {members : List (String × Json)} (hmembers : ∀ member ∈ members, Legible member.2) :
      Legible (.object members)

attribute [simp] Legible.null Legible.unreadable Legible.bool Legible.string

@[simp] theorem legible_ofNat (n : Nat) : Legible (.ofNat n) :=
  .number (Numeral.isSpelt_ofNat n)

@[simp] theorem legible_array_iff {items : List Json} :
    Legible (.array items) ↔ ∀ item ∈ items, Legible item := by
  constructor
  · rintro ⟨⟩
    assumption
  · exact .array

@[simp] theorem legible_object_iff {members : List (String × Json)} :
    Legible (.object members) ↔ ∀ member ∈ members, Legible member.2 := by
  constructor
  · rintro ⟨⟩
    assumption
  · exact .object

/-- The characters of the text of a value. -/
def chars (j : Json) : List Char :=
  (write j).toList

/-- The characters of values with commas between them. -/
def itemChars (items : List Json) : List Char :=
  (writeItems items).toList

/-- The characters of members with commas between them. -/
def memberChars (members : List (String × Json)) : List Char :=
  (writeMembers members).toList

theorem chars_array (items : List Json) :
    chars (.array items) = '[' :: (itemChars items ++ [']']) := by
  simp [chars, itemChars, write]

theorem chars_object (members : List (String × Json)) :
    chars (.object members) = '\x7b' :: (memberChars members ++ ['\x7d']) := by
  simp [chars, memberChars, write]

theorem itemChars_singleton (item : Json) : itemChars [item] = chars item := by
  rw [itemChars, writeItems, chars]

theorem itemChars_cons_cons (item second : Json) (items : List Json) :
    itemChars (item :: second :: items) = chars item ++ ',' :: itemChars (second :: items) := by
  simp [itemChars, chars, writeItems]

theorem memberChars_singleton (name : String) (value : Json) :
    memberChars [(name, value)] =
      '"' :: (name.toList.flatMap escapeChar ++ '"' :: ':' :: chars value) := by
  simp [memberChars, chars, writeMembers, toList_writeString]

theorem memberChars_cons_cons (name : String) (value : Json) (second : String × Json)
    (members : List (String × Json)) :
    memberChars ((name, value) :: second :: members) =
      '"' :: (name.toList.flatMap escapeChar ++
        '"' :: ':' :: (chars value ++ ',' :: memberChars (second :: members))) := by
  simp [memberChars, chars, writeMembers, toList_writeString]

/-- With fuel for two steps for each character, a value is read off the front of a text. -/
def Regained (j : Json) : Prop :=
  ∀ fuel rest, 2 * (chars j).length ≤ fuel → Parted rest →
    readValue fuel (chars j ++ rest) = some (j, rest)

theorem skipGap_cons (h : isGap c = false) : skipGap (c :: rest) = c :: rest := by
  rw [skipGap, List.dropWhile_cons, h]
  rfl

theorem exists_numeral_eq_cons {n : Numeral} (h : n.IsSpelt) :
    ∃ c behind, chars (.number n) = c :: behind ∧ (c = '-' ∨ c.isDigit = true) := by
  rw [chars, write, toList_writeNumeral]
  obtain ⟨first, digits, hwhole⟩ := List.exists_cons_of_ne_nil h.whole.ne_nil
  cases n.negative with
  | true => exact ⟨'-', _, rfl, .inl rfl⟩
  | false =>
    rw [hwhole]
    exact ⟨first, _, rfl, .inr (h.whole.isDigit first (hwhole ▸ List.mem_cons_self))⟩

/-- Nothing else begins like a number. -/
theorem ne_of_numeral (h : c = '-' ∨ c.isDigit = true) (other : Char) (hminus : other ≠ '-')
    (hdigit : other.isDigit = false) : c ≠ other := by
  rintro rfl
  obtain hc | hc := h
  · exact hminus hc
  · exact Bool.noConfusion (hdigit.symm.trans hc)

theorem isGap_of_numeral (h : c = '-' ∨ c.isDigit = true) : isGap c = false := by
  have hspace := ne_of_numeral h ' ' (by decide) rfl
  have hline := ne_of_numeral h '\n' (by decide) rfl
  have htab := ne_of_numeral h '\t' (by decide) rfl
  have hreturn := ne_of_numeral h '\r' (by decide) rfl
  simp [isGap, hspace, hline, htab, hreturn]

/-- The first character of a value is neither passed over nor taken for the end of an array. -/
theorem exists_chars_eq_cons {j : Json} (h : Legible j) :
    ∃ c behind, chars j = c :: behind ∧ isGap c = false ∧ c ≠ ']' := by
  cases h with
  | null => exact ⟨'n', _, rfl, rfl, by decide⟩
  | unreadable => exact ⟨'"', _, rfl, rfl, by decide⟩
  | bool value =>
    cases value with
    | true => exact ⟨'t', _, rfl, rfl, by decide⟩
    | false => exact ⟨'f', _, rfl, rfl, by decide⟩
  | number hspelt =>
    obtain ⟨c, behind, hchars, hc⟩ := exists_numeral_eq_cons hspelt
    exact ⟨c, behind, hchars, isGap_of_numeral hc, ne_of_numeral hc ']' (by decide) rfl⟩
  | string s => exact ⟨'"', _, toList_writeString s, rfl, by decide⟩
  | array => exact ⟨'[', _, chars_array _, rfl, by decide⟩
  | object => exact ⟨'\x7b', _, chars_object _, rfl, by decide⟩

theorem exists_itemChars_eq_cons {item : Json} (h : Legible item) (items : List Json) :
    ∃ c behind, itemChars (item :: items) = c :: behind ∧ isGap c = false ∧ c ≠ ']' := by
  obtain ⟨c, behind, hchars, hc⟩ := exists_chars_eq_cons h
  cases items with
  | nil => exact ⟨c, behind, (itemChars_singleton item).trans hchars, hc⟩
  | cons second items =>
    rw [itemChars_cons_cons, hchars]
    exact ⟨c, _, rfl, hc⟩

theorem exists_memberChars_eq_cons (member : String × Json) (members : List (String × Json)) :
    ∃ behind, memberChars (member :: members) = '"' :: behind := by
  cases members with
  | nil => exact ⟨_, memberChars_singleton member.1 member.2⟩
  | cons second members => exact ⟨_, memberChars_cons_cons member.1 member.2 second members⟩

theorem readItems_itemChars {items : List Json} (hne : items ≠ [])
    (h : ∀ item ∈ items, Regained item) (fuel : Nat)
    (hfuel : 2 * (itemChars items).length + 1 ≤ fuel) (rest : List Char) :
    readItems fuel (itemChars items ++ ']' :: rest) = some (items, rest) := by
  induction items generalizing fuel with
  | nil => exact absurd rfl hne
  | cons item items ih =>
    rw [List.forall_mem_cons] at h
    obtain ⟨fuel, rfl⟩ := Nat.exists_eq_add_of_le' (Nat.le_of_add_left_le hfuel)
    -- One step for the item, one for the rest: the mark behind the item pays for both.
    cases items with
    | nil =>
      rw [itemChars_singleton] at hfuel ⊢
      rw [readItems, h.1 fuel _ (by omega) (.bracket rest)]
      rfl
    | cons second items =>
      rw [itemChars_cons_cons, List.length_append, List.length_cons] at hfuel
      have hfirst := h.1 fuel (',' :: (itemChars (second :: items) ++ ']' :: rest)) (by omega)
        (.comma _)
      have hrest := ih (List.cons_ne_nil _ _) h.2 fuel (by omega)
      rw [itemChars_cons_cons, List.append_assoc, List.cons_append, readItems, hfirst]
      simp (disch := decide) only [Option.bind_eq_bind, Option.bind_some, skipGap_cons, hrest]

theorem readMembers_memberChars {members : List (String × Json)} (hne : members ≠ [])
    (h : ∀ member ∈ members, Regained member.2) (fuel : Nat)
    (hfuel : 2 * (memberChars members).length + 1 ≤ fuel) (rest : List Char) :
    readMembers fuel (memberChars members ++ '\x7d' :: rest) =
      some (members.map fun member => (some member.1, member.2), rest) := by
  induction members generalizing fuel with
  | nil => exact absurd rfl hne
  | cons member members ih =>
    obtain ⟨name, value⟩ := member
    rw [List.forall_mem_cons] at h
    have hfirst : Regained value := h.1
    -- One step of fuel goes to this member, whose characters are worth more than one.
    obtain ⟨fuel, rfl⟩ := Nat.exists_eq_add_of_le' (Nat.le_of_add_left_le hfuel)
    cases members with
    | nil =>
      rw [memberChars_singleton] at hfuel ⊢
      simp only [List.length_append, List.length_cons] at hfuel
      have hvalue := hfirst fuel ('\x7d' :: rest) (by omega) (.brace rest)
      simp (disch := decide) only [readMembers, List.cons_append, List.append_assoc, skipGap_cons,
        readString_write, Option.bind_eq_bind, Option.bind_some, hvalue, List.map_cons,
        List.map_nil]
    | cons second members =>
      rw [memberChars_cons_cons] at hfuel ⊢
      simp only [List.length_append, List.length_cons] at hfuel
      have hvalue := hfirst fuel (',' :: (memberChars (second :: members) ++ '\x7d' :: rest))
        (by omega) (.comma _)
      have hrest := ih (List.cons_ne_nil _ _) h.2 fuel (by omega)
      simp (disch := decide) only [readMembers, List.cons_append, List.append_assoc, skipGap_cons,
        readString_write, Option.bind_eq_bind, Option.bind_some, hvalue, hrest, List.map_cons]

/-- What is taken from each item is found again item by item. -/
theorem mapM_map_eq_some {α β : Type} {f : α → β} {g : β → Option α}
    (h : ∀ a, g (f a) = some a) (as : List α) : (as.map f).mapM g = some as := by
  induction as with
  | nil => rfl
  | cons a as ih =>
    rw [List.map_cons, List.mapM_cons, h, ih]
    rfl

theorem ofMembers_map_some (members : List (String × Json)) :
    ofMembers (members.map fun member => (some member.1, member.2)) = .object members := by
  rw [ofMembers, mapM_map_eq_some]
  exact fun _ => rfl

theorem Legible.exists_fuel {j : Json} (h : Legible j) {fuel : Nat}
    (hfuel : 2 * (chars j).length ≤ fuel) : ∃ less, fuel = less + 1 := by
  obtain ⟨c, behind, hchars, -⟩ := exists_chars_eq_cons h
  rw [hchars, List.length_cons] at hfuel
  exact Nat.exists_eq_succ_of_ne_zero (by omega)

theorem regained_number {n : Numeral} (h : n.IsSpelt) : Regained (.number n) := by
  intro fuel rest hfuel hrest
  obtain ⟨fuel, rfl⟩ := (Legible.number h).exists_fuel hfuel
  obtain ⟨c, behind, hchars, hc⟩ := exists_numeral_eq_cons h
  have hread : readNumeral (chars (.number n) ++ rest) = some (n, rest) := by
    rw [chars, write, readNumeral_write h hrest]
  rw [hchars, List.cons_append] at hread ⊢
  -- No other kind of value begins like a number.
  have hother (other : Char) (hminus : other ≠ '-') (hdigit : other.isDigit = false)
      (after : List Char) : c :: (behind ++ rest) ≠ other :: after :=
    fun hsame => ne_of_numeral hc other hminus hdigit (List.cons.inj hsame).1
  rw [readValue, skipGap_cons (isGap_of_numeral hc)]
  split
  · exact absurd ‹_› (hother '"' (by decide) rfl _)
  · exact absurd ‹_› (hother '[' (by decide) rfl _)
  · exact absurd ‹_› (hother '\x7b' (by decide) rfl _)
  · exact absurd ‹_› (hother 't' (by decide) rfl _)
  · exact absurd ‹_› (hother 'f' (by decide) rfl _)
  · exact absurd ‹_› (hother 'n' (by decide) rfl _)
  · rw [hread]
    rfl

theorem regained_array {items : List Json} (hlegible : ∀ item ∈ items, Legible item)
    (h : ∀ item ∈ items, Regained item) : Regained (.array items) := by
  intro fuel rest hfuel _
  obtain ⟨fuel, rfl⟩ := (Legible.array hlegible).exists_fuel hfuel
  rw [chars_array, List.length_cons, List.length_append] at hfuel
  rw [chars_array, List.cons_append, List.append_assoc, List.singleton_append, readValue,
    skipGap_cons rfl]
  cases items with
  | nil => rfl
  | cons item items =>
    have hitems := readItems_itemChars (List.cons_ne_nil _ _) h fuel (by omega) rest
    obtain ⟨c, behind, hchars, hgap, hclose⟩ :=
      exists_itemChars_eq_cons (hlegible item List.mem_cons_self) items
    rw [hchars, List.cons_append] at hitems ⊢
    simp only [skipGap_cons hgap, hitems]
    split
    · exact absurd (List.cons.inj ‹_›).1 hclose
    · rfl

theorem regained_object {members : List (String × Json)}
    (hlegible : ∀ member ∈ members, Legible member.2)
    (h : ∀ member ∈ members, Regained member.2) : Regained (.object members) := by
  intro fuel rest hfuel _
  obtain ⟨fuel, rfl⟩ := (Legible.object hlegible).exists_fuel hfuel
  rw [chars_object, List.length_cons, List.length_append] at hfuel
  rw [chars_object, List.cons_append, List.append_assoc, List.singleton_append, readValue,
    skipGap_cons rfl]
  cases members with
  | nil => rfl
  | cons member members =>
    have hmembers :=
      readMembers_memberChars (List.cons_ne_nil _ _) h fuel (by omega) rest
    obtain ⟨behind, hchars⟩ := exists_memberChars_eq_cons member members
    rw [hchars, List.cons_append] at hmembers ⊢
    simp only [skipGap_cons (c := '"') rfl, hmembers, Option.bind_eq_bind, Option.bind_some,
      ofMembers_map_some]
    rfl

/-- A value that can be said is read off the front of a text that begins with it. -/
theorem regained_of_legible {j : Json} (h : Legible j) : Regained j := by
  -- Along the value: arrays and objects are regained when what they hold is.
  induction h with
  | null =>
    intro fuel rest hfuel _
    obtain ⟨fuel, rfl⟩ := Legible.null.exists_fuel hfuel
    rfl
  | unreadable =>
    intro fuel rest hfuel _
    obtain ⟨fuel, rfl⟩ := Legible.unreadable.exists_fuel hfuel
    rfl
  | bool value =>
    intro fuel rest hfuel _
    obtain ⟨fuel, rfl⟩ := (Legible.bool value).exists_fuel hfuel
    cases value <;> rfl
  | number hspelt => exact regained_number hspelt
  | string s =>
    intro fuel rest hfuel _
    obtain ⟨fuel, rfl⟩ := (Legible.string s).exists_fuel hfuel
    rw [chars, write, toList_writeString, List.cons_append, List.append_assoc,
      List.singleton_append, readValue, skipGap_cons rfl]
    simp only [readString_write, Option.bind_eq_bind, Option.bind_some]
    rfl
  | array hitems ih => exact regained_array hitems ih
  | object hmembers ih => exact regained_object hmembers ih

/-- A value that can be said (`Legible`) is read again from its text (`write`). -/
theorem read?_write {j : Json} (h : Legible j) : read? (write j) = some j := by
  have hvalue := regained_of_legible h (2 * (chars j).length + 2) [] (by omega) .nil
  rw [List.append_nil, chars] at hvalue
  simp only [read?, hvalue, Option.bind_eq_bind, Option.bind_some]
  rfl

/-! ## Bytes -/

theorem spell_map_some (place : Place) (cs : List Char) : spell place (cs.map some) = cs := by
  induction cs generalizing place with
  | nil => rfl
  | cons c cs ih => rw [List.map_cons, spell, ih]

/-- The bytes of a text are read by `readBytes?` as the text is by `read?`. -/
theorem readBytes?_encode (text : String) : readBytes? (Utf8.encode text) = read? text := by
  rw [readBytes?, Utf8.units_encode, spell_map_some, String.ofList_toList]

end Json

end Gadfly
