/-
  Gadfly.Proofs.Snapshot

  Dates at the end of the bytes of a name.

  A date is as long in bytes as in characters, so `undated` looks for it in the last bytes of a
  name, without reading the name from the front. Two things can go wrong there (`Utf8.Slip`): a
  byte can be asked for where there is none (`byteAt`), and the cut before the last bytes can fall
  between the bytes of one character (`cutAt`). The second is told by the byte at the cut
  (`isBoundary`): inside a text, both sides of the cut are texts exactly if that byte does not
  continue a character. So no name makes the search slip, and it finds what a search by characters
  finds (`withoutDate?`).

  Main definitions: `Utf8.charOf`.
  Main statements: `Utf8.cutAt_eq_ok_iff`, `Utf8.isBoundary_encode_iff`, `isDateBytes_encode`,
  `undated_eq_some_iff`, `undated_cuts_before_date`.
-/

import Gadfly.Proofs.Candidates
import Gadfly.Proofs.Utf8

namespace Gadfly

namespace Text.Utf8

variable {text front back : String} {bytes : List UInt8} {cs : List Char} {b : UInt8} {c : Char}
  {index : Nat}

/-! ## Cuts -/

theorem byteAt_of_lt (h : index < bytes.length) : byteAt bytes index = .ok bytes[index] := by
  rw [byteAt, List.getElem?_eq_getElem h]

theorem encode_append (front back : String) :
    encode (front ++ back) = encode front ++ encode back := by
  rw [encode_eq_flatMap, encode_eq_flatMap, encode_eq_flatMap, String.toList_append,
    List.flatMap_append]

theorem encode_inj : encode front = encode back ↔ front = back := by
  refine ⟨fun h => ?_, congrArg encode⟩
  have hread := decode_encode back
  rw [← h, decode_encode] at hread
  exact Except.ok.inj hread

/-- A cut (`cutAt`) succeeds exactly between two texts that make up the whole. -/
theorem cutAt_eq_ok_iff :
    cutAt text index = .ok (front, back) ↔
      text = front ++ back ∧ (encode front).length = index := by
  constructor
  · intro h
    simp only [cutAt] at h
    split at h
    · cases h
    rename_i hle
    split at h
    · rename_i hfront hback
      cases h
      rw [decode_eq_ok_iff] at hfront hback
      constructor
      · rw [← encode_inj, encode_append, hfront, hback, List.take_append_drop]
      · rw [hfront, List.length_take_of_le (Nat.le_of_not_lt hle)]
    · cases h
  · rintro ⟨rfl, rfl⟩
    have hle : ¬(encode front ++ encode back).length < (encode front).length := by
      rw [List.length_append]
      omega
    simp only [cutAt, encode_append, if_neg hle, List.take_left, List.drop_left, decode_encode]

/-! ## Boundaries -/

/-- The first byte of a character continues none, and all others do. -/
theorem Sequence.exists_lead (h : Sequence bytes c) :
    ∃ lead more, bytes = lead :: more ∧ isContinuation lead = false ∧
      ∀ b ∈ more, isContinuation b = true := by
  have hlead {b : UInt8} (hb : b.toNat < 0x80 ∨ 0xBF < b.toNat) : isContinuation b = false := by
    rw [Bool.eq_false_iff, Ne, isContinuation_iff]
    omega
  cases h with
  | one hb => exact ⟨_, [], rfl, hlead (.inl hb), nofun⟩
  | two hb h₂ => exact ⟨_, _, rfl, hlead (by omega), by simpa using h₂⟩
  | three hb h₂ h₃ =>
    have h₂ := (allowsSecond_iff.1 h₂).1
    exact ⟨_, _, rfl, hlead (by omega), by simp [h₂, h₃]⟩
  | four hb h₂ h₃ h₄ =>
    have h₂ := (allowsSecond_iff.1 h₂).1
    exact ⟨_, _, rfl, hlead (by omega), by simp [h₂, h₃, h₄]⟩

theorem exists_lead (c : Char) :
    ∃ lead more, String.utf8EncodeChar c = lead :: more ∧ isContinuation lead = false ∧
      ∀ b ∈ more, isContinuation b = true :=
  (sequence_encode c).exists_lead

/-- Where a byte does not continue a character, the characters can be parted. -/
theorem exists_append_of_boundary (hle : index ≤ (cs.flatMap String.utf8EncodeChar).length)
    (h : ∀ b ∈ (cs.flatMap String.utf8EncodeChar)[index]?, isContinuation b = false) :
    ∃ front back, cs = front ++ back ∧
      (front.flatMap String.utf8EncodeChar).length = index := by
  -- Character by character: the index is counted from the end of the last one.
  induction cs generalizing index with
  | nil => exact ⟨[], [], rfl, (Nat.le_zero.1 hle).symm⟩
  | cons c rest ih =>
    by_cases hzero : index = 0
    · exact ⟨[], c :: rest, rfl, hzero.symm⟩
    obtain ⟨lead, more, hencode, -, hmore⟩ := exists_lead c
    rw [List.flatMap_cons, List.length_append] at hle
    rw [List.flatMap_cons] at h
    by_cases hin : index < (String.utf8EncodeChar c).length
    · -- All bytes of the character but the first continue it.
      rw [List.getElem?_append_left hin, hencode, ← Nat.succ_pred hzero,
        List.getElem?_cons_succ] at h
      rw [hencode, List.length_cons] at hin
      have hlt : index.pred < more.length := by
        rw [Nat.pred_eq_sub_one]
        omega
      have hfalse := h _ (List.getElem?_eq_getElem hlt)
      rw [hmore _ (List.getElem_mem hlt)] at hfalse
      cases hfalse
    · have hge := Nat.le_of_not_lt hin
      rw [List.getElem?_append_right hge] at h
      obtain ⟨front, back, rfl, hsize⟩ := ih (by omega) h
      refine ⟨c :: front, back, rfl, ?_⟩
      rw [List.flatMap_cons, List.length_append, hsize]
      omega

theorem not_isContinuation_of_mem_head? (h : b ∈ (encode text).head?) :
    isContinuation b = false := by
  rw [encode_eq_flatMap] at h
  cases hcs : text.toList with
  | nil =>
    rw [hcs] at h
    cases h
  | cons c rest =>
    obtain ⟨lead, more, hencode, hlead, -⟩ := exists_lead c
    rw [hcs, List.flatMap_cons, hencode] at h
    obtain rfl : lead = b := Option.some.inj h
    exact hlead

/-- The bytes at which a text may be cut (`isBoundary`) are those before which a part of it ends. -/
theorem isBoundary_encode_iff :
    isBoundary (encode text) index = true ↔
      ∃ front back, text = front ++ back ∧ (encode front).length = index := by
  rw [isBoundary, Bool.or_eq_true, Bool.or_eq_true, beq_iff_eq, beq_iff_eq, Option.any_eq_true]
  constructor
  · rintro ((rfl | rfl) | ⟨b, hb, hlead⟩)
    · exact ⟨"", text, by simp, rfl⟩
    · exact ⟨text, "", by simp, rfl⟩
    · have hlt := (List.getElem?_eq_some_iff.1 hb).1
      rw [encode_eq_flatMap] at hb hlt
      obtain ⟨front, back, hcs, hsize⟩ := exists_append_of_boundary (Nat.le_of_lt hlt)
        (by simpa [hb] using hlead)
      refine ⟨.ofList front, .ofList back, ?_, ?_⟩
      · rw [← String.ofList_append, ← hcs, String.ofList_toList]
      · rw [encode_eq_flatMap, String.toList_ofList, hsize]
  · rintro ⟨front, back, rfl, rfl⟩
    cases hback : (encode back).head? with
    | none =>
      rw [List.head?_eq_none_iff] at hback
      rw [encode_append, hback, List.append_nil]
      exact .inl (.inr rfl)
    | some b =>
      refine .inr ⟨b, ?_, ?_⟩
      · rw [encode_append, List.getElem?_append_right (Nat.le_refl _), Nat.sub_self,
          ← List.head?_eq_getElem?, hback]
      · rw [not_isContinuation_of_mem_head? hback]
        rfl

/-- The test for a boundary keeps just those cuts out that slip. -/
theorem isBoundary_encode_iff_cutAt :
    isBoundary (encode text) index = true ↔ ∃ parts, cutAt text index = .ok parts := by
  simp only [isBoundary_encode_iff, Prod.exists, cutAt_eq_ok_iff]

example : cutAt "o1€" 2 = .ok ("o1", "€") ∧ cutAt "o1€" 3 = .error (.insideCharacter 3) ∧
    cutAt "o1€" 6 = .error (.outOfRange 6 5) := by
  decide +kernel

/-! ## Bytes of ASCII -/

/-- The character with the code of a byte. -/
def charOf (b : UInt8) : Char :=
  Char.ofNat b.toNat

theorem toNat_charOf (b : UInt8) : (charOf b).toNat = b.toNat :=
  val_ofNat (.inl (Nat.lt_trans b.toNat_lt (by decide)))

theorem map_charOf_encodeChar (h : c.toNat < 0x80) :
    (String.utf8EncodeChar c).map charOf = [c] := by
  have hone : c.val.toNat ≤ 0x7F := Nat.le_of_lt_succ h
  have hbyte : (UInt8.ofNat c.val.toNat).toNat = c.toNat :=
    Nat.mod_eq_of_lt (Nat.lt_trans h (by decide))
  rw [String.utf8EncodeChar, if_pos hone, List.map_singleton, charOf, hbyte, Char.ofNat_toNat]

theorem ascii_of_encodeChar (h : ∀ b ∈ String.utf8EncodeChar c, b.toNat < 0x80) :
    c.toNat < 0x80 := by
  have hsequence := sequence_encode c
  generalize String.utf8EncodeChar c = bytes at h hsequence
  cases hsequence with
  | @one b hb => exact (toNat_charOf b).trans_lt hb
  | two hb | three hb | four hb =>
    have hfirst := h _ List.mem_cons_self
    omega

/-- A text of ASCII has a byte for each character. -/
theorem map_charOf_encode (h : ∀ c ∈ text.toList, c.toNat < 0x80) :
    (encode text).map charOf = text.toList := by
  rw [encode_eq_flatMap, List.map_flatMap,
    List.flatMap_congr fun c hc => map_charOf_encodeChar (h c hc), List.flatMap_singleton']

theorem ascii_of_encode (h : ∀ b ∈ encode text, b.toNat < 0x80) :
    ∀ c ∈ text.toList, c.toNat < 0x80 := by
  intro c hc
  apply ascii_of_encodeChar
  intro b hb
  rw [encode_eq_flatMap] at h
  exact h b (List.mem_flatMap_of_mem hc hb)

end Text.Utf8

open Text

namespace Price

variable {name base date : String} {bytes : List UInt8} {spots : List Nat} {b : UInt8}

/-! ## Dates in bytes -/

theorem hyphensAt_of_lt (h : ∀ spot ∈ spots, spot < bytes.length) :
    hyphensAt bytes spots = .ok (spots.all fun spot => bytes[spot]? == some 0x2D) := by
  induction spots with
  | nil => rfl
  | cons spot spots ih =>
    obtain ⟨hspot, hspots⟩ := List.forall_mem_cons.1 h
    rw [hyphensAt, Utf8.byteAt_of_lt hspot, ih hspots, List.all_cons,
      List.getElem?_eq_getElem hspot]
    by_cases hhyphen : bytes[spot] = 0x2D <;> simp [hhyphen, bind, Except.bind, pure, Except.pure]

/-- The test for a date looks at each byte once: a hyphen where a date has one, else a digit. -/
theorem isDateBytes_of_length (hsize : bytes.length = dateShape.length) :
    ∃ dated, isDateBytes bytes = .ok dated ∧
      (dated = true ↔ ∀ spot (h : spot < bytes.length),
        if spot ∈ hyphenSpots then bytes[spot] = 0x2D else isDigitByte bytes[spot] = true) := by
  have hspots : ∀ spot ∈ hyphenSpots, spot < bytes.length := by
    rw [hsize]
    decide
  rw [isDateBytes, hyphensAt_of_lt hspots]
  refine ⟨_, rfl, ?_⟩
  rw [Bool.and_eq_true, List.all_eq_true, List.all_eq_true]
  constructor
  · rintro ⟨hhyphens, hdigits⟩ spot hspot
    split
    · rename_i hmem
      have hhyphen := hhyphens spot hmem
      rw [List.getElem?_eq_getElem hspot, beq_iff_eq] at hhyphen
      exact Option.some.inj hhyphen
    · rename_i hnot
      have hmem : (bytes[spot], spot) ∈ bytes.zipIdx :=
        List.mk_mem_zipIdx_iff_getElem?.2 (List.getElem?_eq_getElem hspot)
      simpa [hnot] using hdigits _ hmem
  · intro h
    constructor
    · intro spot hmem
      have hhyphen := h spot (hspots spot hmem)
      rw [if_pos hmem] at hhyphen
      rw [List.getElem?_eq_getElem (hspots spot hmem), hhyphen]
      rfl
    · rintro ⟨b, spot⟩ hmem
      obtain ⟨hspot, rfl⟩ := List.getElem?_eq_some_iff.1 (List.mk_mem_zipIdx_iff_getElem?.1 hmem)
      have hdigit := h spot hspot
      by_cases hin : spot ∈ hyphenSpots
      · simp [hin]
      · rw [if_neg hin] at hdigit
        simp [hdigit]

theorem fits_charOf_iff {shape : Char} : Fits (Utf8.charOf b) shape ↔
    if shape = '-' then b = 0x2D else isDigitByte b = true := by
  rw [Fits]
  split
  · rw [← Char.toNat_inj, Utf8.toNat_charOf, ← UInt8.toNat_inj]
    exact Iff.rfl
  · rw [Decimal.isDigit_iff, Utf8.toNat_charOf, isDigitByte, Bool.and_eq_true, decide_eq_true_iff,
      decide_eq_true_iff, UInt8.le_iff_toNat_le, UInt8.le_iff_toNat_le]
    exact Iff.rfl

theorem dateShape_eq_hyphen_iff :
    ∀ spot (h : spot < dateShape.length), dateShape[spot] = '-' ↔ spot ∈ hyphenSpots := by
  decide

/-- As many bytes as a date has are tested without a slip, like the characters with their codes. -/
theorem isDateBytes_eq (hsize : bytes.length = dateShape.length) :
    isDateBytes bytes = .ok (isDate (bytes.map Utf8.charOf)) := by
  obtain ⟨dated, hdated, hiff⟩ := isDateBytes_of_length hsize
  rw [hdated, Except.ok.injEq, Bool.eq_iff_iff, hiff, isDate_iff_forall₂, List.forall₂_iff_get]
  constructor
  · intro h
    refine ⟨by rw [List.length_map, hsize], fun spot hspot hshape => ?_⟩
    rw [List.get_eq_getElem, List.getElem_map, fits_charOf_iff, List.get_eq_getElem]
    simpa only [dateShape_eq_hyphen_iff] using h spot (hsize ▸ hshape)
  · rintro ⟨hlength, h⟩ spot hspot
    have hfits := h spot (hlength ▸ hsize ▸ hspot) (hsize ▸ hspot)
    rw [List.get_eq_getElem, List.getElem_map, fits_charOf_iff, List.get_eq_getElem] at hfits
    simpa only [dateShape_eq_hyphen_iff] using hfits

/-- A date is written in ASCII. -/
theorem ascii_of_isDate {text : List Char} (h : isDate text = true) :
    ∀ c ∈ text, c.toNat < 0x80 := by
  obtain ⟨year, month, day, rfl, -, -, -, hdigits⟩ := isDate_iff.1 h
  have hdigit : ∀ c ∈ year ++ month ++ day, c.toNat < 0x80 := fun c hc => by
    have hrange := Decimal.isDigit_iff.1 (hdigits c hc)
    omega
  have hhyphen : '-'.toNat < 0x80 := by decide
  simp only [List.forall_mem_append, List.forall_mem_cons] at hdigit ⊢
  exact ⟨hhyphen, hdigit.1.1, hhyphen, hdigit.1.2, hhyphen, hdigit.2⟩

/-- The bytes of a text are those of a date exactly if the text is one. -/
theorem isDate_map_charOf_encode (text : String) :
    isDate ((Utf8.encode text).map Utf8.charOf) = isDate text.toList := by
  rw [Bool.eq_iff_iff]
  -- Whichever of the two is a date, the text is ASCII, and its bytes are its characters.
  constructor
  · intro h
    have hascii : ∀ b ∈ Utf8.encode text, b.toNat < 0x80 := fun b hb => by
      rw [← Utf8.toNat_charOf]
      exact ascii_of_isDate h _ (List.mem_map_of_mem hb)
    rwa [← Utf8.map_charOf_encode (Utf8.ascii_of_encode hascii)]
  · intro h
    rwa [Utf8.map_charOf_encode (ascii_of_isDate h)]

theorem isDateBytes_encode {text : String}
    (hsize : (Utf8.encode text).length = dateShape.length) :
    isDateBytes (Utf8.encode text) = .ok (isDate text.toList) := by
  rw [isDateBytes_eq hsize, isDate_map_charOf_encode]

/-- A date has as many bytes as characters. -/
theorem IsDateSuffix.length_encode (h : IsDateSuffix date.toList) :
    (Utf8.encode date).length = dateShape.length := by
  rw [← List.length_map Utf8.charOf, Utf8.map_charOf_encode (ascii_of_isDate (isDate_iff.2 h)),
    h.length_eq]

/-! ## Names without their dates -/

/-- A name with a long enough end is cut into two texts, of which the second is tested. -/
theorem undated_append (hsize : (Utf8.encode date).length = dateShape.length) :
    undated (base ++ date) =
      .ok (if isDate date.toList ∧ base ≠ "" then some base else none) := by
  have hlength : (Utf8.encode (base ++ date)).length =
      (Utf8.encode base).length + dateShape.length := by
    rw [Utf8.encode_append, List.length_append, hsize]
  have hcut : (Utf8.encode (base ++ date)).length - dateShape.length =
      (Utf8.encode base).length := by
    omega
  -- The cut falls behind the base, where the test for a boundary lets it pass.
  have hparts : Utf8.cutAt (base ++ date) (Utf8.encode base).length = .ok (base, date) :=
    Utf8.cutAt_eq_ok_iff.2 ⟨rfl, rfl⟩
  have hboundary :
      Utf8.isBoundary (Utf8.encode (base ++ date)) (Utf8.encode base).length = true :=
    Utf8.isBoundary_encode_iff_cutAt.2 ⟨_, hparts⟩
  have hlong : ¬(Utf8.encode (base ++ date)).length < dateShape.length := by omega
  simp only [undated, hcut, hboundary, hparts, hlong, decide_false, Bool.not_true, Bool.or_false,
    Bool.false_eq_true, if_false]
  dsimp only [bind, Except.bind]
  rw [isDateBytes_encode hsize]
  rfl

/-- A name is not cut at all, or in front of as many bytes as a date has. -/
theorem undated_cases (name : String) :
    undated name = .ok none ∨
      ∃ base date, name = base ++ date ∧ (Utf8.encode date).length = dateShape.length := by
  by_cases hstop : (decide ((Utf8.encode name).length < dateShape.length) ||
      !Utf8.isBoundary (Utf8.encode name) ((Utf8.encode name).length - dateShape.length)) = true
  · exact .inl (if_pos hstop)
  · rw [Bool.not_eq_true, Bool.or_eq_false_iff, decide_eq_false_iff_not,
      Bool.not_eq_false'] at hstop
    obtain ⟨hlong, hboundary⟩ := hstop
    obtain ⟨⟨base, date⟩, hparts⟩ := Utf8.isBoundary_encode_iff_cutAt.1 hboundary
    obtain ⟨rfl, hsize⟩ := Utf8.cutAt_eq_ok_iff.1 hparts
    refine .inr ⟨base, date, rfl, ?_⟩
    rw [Utf8.encode_append, List.length_append] at hlong hsize
    omega

/-- The search never slips. -/
theorem exists_undated_eq_ok (name : String) : ∃ base?, undated name = .ok base? := by
  obtain hnone | ⟨base, date, rfl, hsize⟩ := undated_cases name
  · exact ⟨none, hnone⟩
  · exact ⟨_, undated_append hsize⟩

-- The last bytes of the name begin inside a character.
example : Utf8.cutAt "gpt-4o€024-08-06" 7 = .error (.insideCharacter 7) ∧
    undated "gpt-4o€024-08-06" = .ok none := by
  decide +kernel

theorem undated_eq_some_iff :
    undated name = .ok (some base) ↔
      base ≠ "" ∧ ∃ date : String, IsDateSuffix date.toList ∧ name = base ++ date := by
  constructor
  · intro h
    obtain hnone | ⟨front, back, rfl, hsize⟩ := undated_cases name
    · rw [hnone] at h
      cases h
    · rw [undated_append hsize, Except.ok.injEq, Option.ite_none_right_eq_some] at h
      obtain ⟨⟨hdate, hne⟩, hbase⟩ := h
      obtain rfl : front = base := Option.some.inj hbase
      exact ⟨hne, back, isDate_iff.1 hdate, rfl⟩
  · rintro ⟨hne, date, hdate, rfl⟩
    rw [undated_append hdate.length_encode, if_pos ⟨isDate_iff.2 hdate, hne⟩]

theorem withoutDate?_toList_eq_some_iff :
    withoutDate? name.toList = some base.toList ↔
      base ≠ "" ∧ ∃ date : String, IsDateSuffix date.toList ∧ name = base ++ date := by
  rw [withoutDate?_eq_some_iff, Ne, Ne, String.toList_eq_nil_iff]
  refine and_congr_right fun _ => ⟨?_, ?_⟩
  · rintro ⟨date, hdate, hsplit⟩
    refine ⟨String.ofList date, by rwa [String.toList_ofList], ?_⟩
    rw [← String.toList_inj, String.toList_append, String.toList_ofList, hsplit]
  · rintro ⟨date, hdate, rfl⟩
    exact ⟨date.toList, hdate, String.toList_append⟩

/-- The search by bytes finds what the search by characters finds. -/
theorem undated_eq_withoutDate? (name : String) :
    undated name = .ok ((withoutDate? name.toList).map String.ofList) := by
  obtain ⟨base?, hundated⟩ := exists_undated_eq_ok name
  rw [hundated, Except.ok.injEq]
  apply Option.ext
  intro base
  have hbytes : base? = some base ↔ undated name = .ok (some base) := by
    rw [hundated, Except.ok.injEq]
  rw [hbytes, undated_eq_some_iff, ← withoutDate?_toList_eq_some_iff, Option.map_eq_some_iff]
  constructor
  · intro hchars
    exact ⟨base.toList, hchars, String.ofList_toList⟩
  · rintro ⟨chars, hchars, rfl⟩
    rwa [String.toList_ofList]

/-- All dates are of one length, so a name ends in a date in one way only. -/
theorem base_eq_of_append_date {other date' : String} (hdate : IsDateSuffix date.toList)
    (hdate' : IsDateSuffix date'.toList) (hsame : base ++ date = other ++ date') :
    base = other := by
  have hlength : date.toList.length = date'.toList.length :=
    hdate.length_eq.trans hdate'.length_eq.symm
  have hchars : base.toList ++ date.toList = other.toList ++ date'.toList := by
    rw [← String.toList_append, hsame, String.toList_append]
  exact String.toList_inj.1 (List.append_inj_left' hchars hlength)

/-- No name makes the search for a date by bytes (`undated`) slip. It cuts a name exactly in front
of a date at its end (`IsDateSuffix`) that is not all of the name, and then there is one way to cut,
which leaves a proper part of the name. -/
theorem undated_cuts_before_date (name : String) :
    undated name = .ok ((withoutDate? name.toList).map String.ofList) ∧
    ∀ base : String,
      (undated name = .ok (some base) ↔
        base ≠ "" ∧ ∃ date : String, IsDateSuffix date.toList ∧ name = base ++ date) ∧
      (undated name = .ok (some base) →
        (∀ other date : String, IsDateSuffix date.toList → name = other ++ date →
          other = base) ∧
        base.toList <+: name.toList ∧ base ≠ name) := by
  refine ⟨undated_eq_withoutDate? name, fun base => ⟨undated_eq_some_iff, fun hundated => ?_⟩⟩
  have hfound := undated_eq_some_iff.1 hundated
  have hshorter := length_withoutDate? (withoutDate?_toList_eq_some_iff.2 hfound)
  obtain ⟨-, date, hdate, rfl⟩ := hfound
  refine ⟨fun other date' hdate' hsplit => ?_, ?_, ?_⟩
  · exact (base_eq_of_append_date hdate hdate' hsplit).symm
  · rw [String.toList_append]
    exact List.prefix_append _ _
  · intro hwhole
    rw [← hwhole] at hshorter
    exact Nat.lt_irrefl _ hshorter

/-- Of two dates only the last is cut off, and the name before them need not be ASCII. -/
theorem undated_of_two_dates :
    undated "modèle-2024-05-13-2024-08-06" = .ok (some "modèle-2024-05-13") ∧
      ∀ other date : String, IsDateSuffix date.toList →
        "modèle-2024-05-13-2024-08-06" = other ++ date → other = "modèle-2024-05-13" := by
  have hundated : undated "modèle-2024-05-13-2024-08-06" = .ok (some "modèle-2024-05-13") := by
    decide +kernel
  obtain ⟨-, hbase⟩ := undated_cuts_before_date "modèle-2024-05-13-2024-08-06"
  obtain ⟨honly, -, -⟩ := (hbase _).2 hundated
  exact ⟨hundated, honly⟩

end Price

end Gadfly
