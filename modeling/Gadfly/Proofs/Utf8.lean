/-
  Gadfly.Proofs.Utf8

  What bytes spell.

  A character is spelt by one to four bytes (`Sequence`). The first tells how many there are, and
  together with the second it keeps out what has a shorter spelling, and what is no character. The
  characters are read one after the other, so `decode` reads a text from just the bytes that
  `encode` gives for it, and on these bytes `units` and `decodeLossy` find no faults.

  Main definitions: `Utf8.Sequence`.
  Main statements: `Utf8.front_eq_ok_iff`, `Utf8.sequence_iff`, `Utf8.decode_eq_ok_iff`,
  `Utf8.units_encode`, `Utf8.decodeLossy_encode`.
-/

import Mathlib.Data.List.Basic
import Gadfly.Text.Utf8

namespace Gadfly.Text.Utf8

variable {b b₂ : UInt8} {rest bytes : List UInt8} {c : Char} {n : Nat}

/-! ## Bytes -/

theorem isContinuation_iff : isContinuation b = true ↔ 0x80 ≤ b.toNat ∧ b.toNat ≤ 0xBF := by
  rw [isContinuation, Bool.and_eq_true, decide_eq_true_iff, decide_eq_true_iff]
  rfl

/-- The second of more than two bytes is a continuation, within narrower bounds after some. -/
theorem allowsSecond_iff : allowsSecond b b₂ = true ↔ isContinuation b₂ = true ∧
    (b.toNat = 0xE0 → 0xA0 ≤ b₂.toNat) ∧ (b.toNat = 0xED → b₂.toNat ≤ 0x9F) ∧
    (b.toNat = 0xF0 → 0x90 ≤ b₂.toNat) ∧ (b.toNat = 0xF4 → b₂.toNat ≤ 0x8F) := by
  rw [isContinuation_iff]
  simp only [allowsSecond, ← UInt8.toNat_inj, UInt8.reduceToNat]
  split_ifs <;> simp only [isContinuation_iff, Bool.and_eq_true, decide_eq_true_iff,
    UInt8.le_iff_toNat_le, UInt8.reduceToNat] <;> omega

theorem ofNat_eq_of_toNat (h : n = b.toNat) : UInt8.ofNat n = b := by
  rw [h, UInt8.ofNat_toNat]

theorem exists_byte (h : n < 0x100) : ∃ b : UInt8, UInt8.ofNat n = b ∧ b.toNat = n :=
  ⟨_, rfl, by rw [UInt8.toNat_ofNat', Nat.mod_eq_of_lt h]⟩

/-! ## Characters -/

/-- The bytes that spell a character. -/
inductive Sequence : List UInt8 → Char → Prop
  | one {b : UInt8} (hb : b.toNat < 0x80) : Sequence [b] (.ofNat b.toNat)
  | two {b b₂ : UInt8} (hb : 0xC2 ≤ b.toNat ∧ b.toNat < 0xE0) (h₂ : isContinuation b₂ = true) :
      Sequence [b, b₂] (.ofNat (b.toNat % 32 * 64 + payload b₂))
  | three {b b₂ b₃ : UInt8} (hb : 0xE0 ≤ b.toNat ∧ b.toNat < 0xF0)
      (h₂ : allowsSecond b b₂ = true) (h₃ : isContinuation b₃ = true) :
      Sequence [b, b₂, b₃] (.ofNat ((b.toNat % 16 * 64 + payload b₂) * 64 + payload b₃))
  | four {b b₂ b₃ b₄ : UInt8} (hb : 0xF0 ≤ b.toNat ∧ b.toNat ≤ 0xF4)
      (h₂ : allowsSecond b b₂ = true) (h₃ : isContinuation b₃ = true)
      (h₄ : isContinuation b₄ = true) :
      Sequence [b, b₂, b₃, b₄]
        (.ofNat (((b.toNat % 8 * 64 + payload b₂) * 64 + payload b₃) * 64 + payload b₄))

theorem val_ofNat (h : n.isValidChar) : (Char.ofNat n).val.toNat = n :=
  congrArg Char.toNat (dif_pos h)

/-- Such bytes are the encoding of the character. -/
theorem Sequence.encode_eq (h : Sequence bytes c) : String.utf8EncodeChar c = bytes := by
  cases h with
  | @one b hb =>
    have hvalid : b.toNat.isValidChar := .inl (by omega)
    rw [String.utf8EncodeChar, val_ofNat hvalid, if_pos (by omega), UInt8.ofNat_toNat]
  | @two b b₂ hb h₂ =>
    rw [isContinuation_iff] at h₂
    rw [payload]
    set n := b.toNat % 32 * 64 + b₂.toNat % 64
    have hvalid : n.isValidChar := .inl (by omega)
    rw [String.utf8EncodeChar, val_ofNat hvalid, if_neg (by omega), if_pos (by omega),
      ofNat_eq_of_toNat (b := b) (by omega), ofNat_eq_of_toNat (b := b₂) (by omega)]
  | @three b b₂ b₃ hb h₂ h₃ =>
    rw [allowsSecond_iff, isContinuation_iff] at h₂
    rw [isContinuation_iff] at h₃
    rw [payload, payload]
    set n := (b.toNat % 16 * 64 + b₂.toNat % 64) * 64 + b₃.toNat % 64
    -- The bounds for the second byte keep out the surrogates.
    have hvalid : n.isValidChar := by
      rw [Nat.isValidChar]
      omega
    rw [String.utf8EncodeChar, val_ofNat hvalid, if_neg (by omega), if_neg (by omega),
      if_pos (by omega), ofNat_eq_of_toNat (b := b) (by omega),
      ofNat_eq_of_toNat (b := b₂) (by omega), ofNat_eq_of_toNat (b := b₃) (by omega)]
  | @four b b₂ b₃ b₄ hb h₂ h₃ h₄ =>
    rw [allowsSecond_iff, isContinuation_iff] at h₂
    rw [isContinuation_iff] at h₃ h₄
    rw [payload, payload, payload]
    set n := ((b.toNat % 8 * 64 + b₂.toNat % 64) * 64 + b₃.toNat % 64) * 64 + b₄.toNat % 64
    have hvalid : n.isValidChar := .inr (by omega)
    rw [String.utf8EncodeChar, val_ofNat hvalid, if_neg (by omega), if_neg (by omega),
      if_neg (by omega), ofNat_eq_of_toNat (b := b) (by omega),
      ofNat_eq_of_toNat (b := b₂) (by omega), ofNat_eq_of_toNat (b := b₃) (by omega),
      ofNat_eq_of_toNat (b := b₄) (by omega)]

/-- Every character has such bytes. -/
theorem sequence_encode (c : Char) : Sequence (String.utf8EncodeChar c) c := by
  have hvalid : c.val.toNat.isValidChar := c.valid
  have hc : Char.ofNat c.val.toNat = c := Char.ofNat_toNat c
  rw [Nat.isValidChar] at hvalid
  rw [String.utf8EncodeChar]
  generalize c.val.toNat = v at *
  subst hc
  -- The cases are those of the encoding, by the size of the code point `v`.
  split_ifs with hone htwo hthree
  · obtain ⟨b, hb, hnb⟩ := exists_byte (show v < 0x100 by omega)
    rw [hb, ← hnb]
    exact .one (by omega)
  · obtain ⟨b, hb, hnb⟩ := exists_byte (show v / 64 % 32 + 192 < 0x100 by omega)
    obtain ⟨b₂, hb₂, hnb₂⟩ := exists_byte (show v % 64 + 128 < 0x100 by omega)
    have hv : v = b.toNat % 32 * 64 + payload b₂ := by
      rw [payload]
      omega
    rw [hb, hb₂, hv]
    exact .two (by omega) (isContinuation_iff.2 (by omega))
  · obtain ⟨b, hb, hnb⟩ := exists_byte (show v / 4096 % 16 + 224 < 0x100 by omega)
    obtain ⟨b₂, hb₂, hnb₂⟩ := exists_byte (show v / 64 % 64 + 128 < 0x100 by omega)
    obtain ⟨b₃, hb₃, hnb₃⟩ := exists_byte (show v % 64 + 128 < 0x100 by omega)
    have hv : v = (b.toNat % 16 * 64 + payload b₂) * 64 + payload b₃ := by
      rw [payload, payload]
      omega
    have hsecond : allowsSecond b b₂ = true := by
      rw [allowsSecond_iff, isContinuation_iff]
      omega
    rw [hb, hb₂, hb₃, hv]
    exact .three (by omega) hsecond (isContinuation_iff.2 (by omega))
  · obtain ⟨b, hb, hnb⟩ := exists_byte (show v / 262144 % 8 + 240 < 0x100 by omega)
    obtain ⟨b₂, hb₂, hnb₂⟩ := exists_byte (show v / 4096 % 64 + 128 < 0x100 by omega)
    obtain ⟨b₃, hb₃, hnb₃⟩ := exists_byte (show v / 64 % 64 + 128 < 0x100 by omega)
    obtain ⟨b₄, hb₄, hnb₄⟩ := exists_byte (show v % 64 + 128 < 0x100 by omega)
    have hv : v = ((b.toNat % 8 * 64 + payload b₂) * 64 + payload b₃) * 64 + payload b₄ := by
      rw [payload, payload, payload]
      omega
    have hsecond : allowsSecond b b₂ = true := by
      rw [allowsSecond_iff, isContinuation_iff]
      omega
    rw [hb, hb₂, hb₃, hb₄, hv]
    exact .four (by omega) hsecond (isContinuation_iff.2 (by omega))
      (isContinuation_iff.2 (by omega))

theorem sequence_iff : Sequence bytes c ↔ String.utf8EncodeChar c = bytes :=
  ⟨Sequence.encode_eq, fun h => h ▸ sequence_encode c⟩

/-! ## The front -/

/-- What begins with a sequence has the character at its front. -/
theorem Sequence.front_eq (h : Sequence (b :: bytes) c) (tail : List UInt8) :
    front b (bytes ++ tail) = .ok (c, bytes.length + 1) := by
  unfold front
  simp only [UInt8.lt_iff_toNat_lt, UInt8.reduceToNat, Bool.or_eq_true, decide_eq_true_iff]
  -- The first byte decides between the lengths; what follows is checked for each of them.
  cases h with
  | one hb =>
    rw [if_pos hb]
    rfl
  | two hb h₂ =>
    rw [if_neg (by omega), if_neg (by omega)]
    simp only [List.cons_append, hb, h₂, if_true]
    rfl
  | three hb h₂ h₃ =>
    have hlong : ¬ b.toNat < 0xE0 := by omega
    rw [if_neg (by omega), if_neg (by omega)]
    simp only [List.cons_append, hlong, hb, h₂, h₃, if_true, if_false, Bool.not_true,
      Bool.false_eq_true]
    rfl
  | four hb h₂ h₃ h₄ =>
    have hlong : ¬ b.toNat < 0xE0 ∧ ¬ b.toNat < 0xF0 := by omega
    rw [if_neg (by omega), if_neg (by omega)]
    simp only [List.cons_append, hlong, h₂, h₃, h₄, if_false, Bool.not_true, Bool.false_eq_true]
    rfl

/-- A character stands at the front of what begins with a sequence. -/
theorem exists_sequence_of_front (h : front b rest = .ok (c, n)) :
    ∃ more tail, rest = more ++ tail ∧ Sequence (b :: more) c ∧ n = more.length + 1 := by
  unfold front at h
  simp only [UInt8.lt_iff_toNat_lt, UInt8.reduceToNat, Bool.or_eq_true, decide_eq_true_iff,
    Bool.not_eq_true', Bool.eq_false_iff, ite_not, ne_eq] at h
  split at h
  · cases h
    exact ⟨[], rest, rfl, .one ‹_›, rfl⟩
  split at h
  · cases h
  rename_i hfirst
  -- From here on the checks are those of one more byte each.
  cases rest with
  | nil => cases h
  | cons b₂ rest =>
    dsimp only at h
    split at h
    · split at h
      · cases h
        exact ⟨[b₂], rest, rfl, .two (by omega) ‹_›, rfl⟩
      · cases h
    split at h
    case isFalse => cases h
    rename_i h₂
    cases rest with
    | nil => cases h
    | cons b₃ rest =>
      dsimp only at h
      split at h
      case isFalse => cases h
      rename_i h₃
      split at h
      · cases h
        exact ⟨[b₂, b₃], rest, rfl, .three (by omega) h₂ h₃, rfl⟩
      cases rest with
      | nil => cases h
      | cons b₄ rest =>
        dsimp only at h
        split at h
        case isFalse => cases h
        rename_i h₄
        cases h
        exact ⟨[b₂, b₃, b₄], rest, rfl, .four (by omega) h₂ h₃ h₄, rfl⟩

theorem front_eq_ok_iff : front b rest = .ok (c, n) ↔
    ∃ more tail, rest = more ++ tail ∧ String.utf8EncodeChar c = b :: more ∧
      n = more.length + 1 := by
  constructor
  · intro h
    obtain ⟨more, tail, hrest, hsequence, hn⟩ := exists_sequence_of_front h
    exact ⟨more, tail, hrest, sequence_iff.1 hsequence, hn⟩
  · rintro ⟨more, tail, rfl, hencode, rfl⟩
    exact (sequence_iff.2 hencode).front_eq tail

/-! ## Texts -/

theorem encode_eq_flatMap (text : String) :
    encode text = text.toList.flatMap String.utf8EncodeChar := by
  rw [encode, String.toUTF8_eq_toByteArray, ← String.utf8Encode_toList, List.utf8Encode,
    List.toList_data_toByteArray]

/-- What belongs to the character that was just read is passed over. -/
theorem decodeFrom_skip (index skip : Nat) (bytes : List UInt8) :
    decodeFrom index skip bytes = decodeFrom (index + skip) 0 (bytes.drop skip) := by
  induction bytes generalizing index skip with
  | nil => rw [List.drop_nil, decodeFrom, decodeFrom]
  | cons b rest ih =>
    cases skip with
    | zero => rfl
    | succ skip => rw [decodeFrom, ih, List.drop_succ_cons, Nat.add_right_comm, Nat.add_assoc]

/-- The bytes that spell a character have it at their front. -/
theorem exists_front_encode (c : Char) (tail : List UInt8) :
    ∃ b more, String.utf8EncodeChar c = b :: more ∧
      front b (more ++ tail) = .ok (c, more.length + 1) := by
  obtain ⟨b, more, hencode⟩ := List.exists_cons_of_ne_nil (String.utf8EncodeChar_ne_nil (c := c))
  exact ⟨b, more, hencode, front_eq_ok_iff.2 ⟨more, tail, rfl, hencode, rfl⟩⟩

/-- A character is read from the bytes that spell it, and then what comes after them. -/
theorem decodeFrom_encode_append (index : Nat) (c : Char) (tail : List UInt8) :
    decodeFrom index 0 (String.utf8EncodeChar c ++ tail) =
      (decodeFrom (index + c.utf8Size) 0 tail).map (c :: ·) := by
  obtain ⟨b, more, hencode, hfront⟩ := exists_front_encode c tail
  have hsize : more.length + 1 = c.utf8Size := by
    rw [← String.length_utf8EncodeChar, hencode, List.length_cons]
  rw [hencode, List.cons_append, decodeFrom, hfront]
  dsimp only
  rw [decodeFrom_skip, Nat.add_sub_cancel, List.drop_left, Nat.add_right_comm, Nat.add_assoc,
    hsize]

/-- A text was read from nothing, or from what begins with its first character. -/
theorem decodeFrom_eq_ok_cases {index : Nat} {text : List Char}
    (h : decodeFrom index 0 bytes = .ok text) :
    text = [] ∧ bytes = [] ∨
      ∃ c text' tail, text = c :: text' ∧ bytes = String.utf8EncodeChar c ++ tail ∧
        decodeFrom (index + c.utf8Size) 0 tail = .ok text' := by
  cases bytes with
  | nil =>
    cases h
    exact .inl ⟨rfl, rfl⟩
  | cons b rest =>
    cases hfront : front b rest with
    | error length =>
      rw [decodeFrom, hfront] at h
      cases h
    | ok read =>
      obtain ⟨more, tail, rfl, hencode, -⟩ := front_eq_ok_iff.1 hfront
      rw [← List.cons_append, ← hencode, decodeFrom_encode_append] at h
      cases htail : decodeFrom (index + read.1.utf8Size) 0 tail with
      | error fault =>
        rw [htail] at h
        cases h
      | ok text' =>
        rw [htail] at h
        cases h
        exact .inr ⟨_, text', tail, rfl, by rw [hencode, List.cons_append], htail⟩

theorem decodeFrom_eq_ok_iff {index : Nat} {text : List Char} :
    decodeFrom index 0 bytes = .ok text ↔ text.flatMap String.utf8EncodeChar = bytes := by
  constructor
  · intro h
    -- The text tells how the bytes were read: each of its characters took some of them.
    induction text generalizing index bytes with
    | nil =>
      obtain ⟨-, rfl⟩ | ⟨_, _, _, hcons, -⟩ := decodeFrom_eq_ok_cases h
      · rfl
      · cases hcons
    | cons c text ih =>
      obtain ⟨hnil, -⟩ | ⟨_, _, tail, hcons, rfl, htail⟩ := decodeFrom_eq_ok_cases h
      · cases hnil
      · cases hcons
        rw [List.flatMap_cons, ih htail]
  · rintro rfl
    induction text generalizing index with
    | nil => rfl
    | cons c text ih =>
      rw [List.flatMap_cons, decodeFrom_encode_append, ih]
      rfl

/-- A text is read by `decode` from just the bytes that spell it (`encode`). -/
theorem decode_eq_ok_iff {text : String} : decode bytes = .ok text ↔ encode text = bytes := by
  have hchars : decodeFrom 0 0 bytes = .ok text.toList ↔ _ := decodeFrom_eq_ok_iff
  rw [encode_eq_flatMap, ← hchars, decode]
  cases decodeFrom 0 0 bytes with
  | error fault => exact iff_of_false nofun nofun
  | ok cs =>
    rw [Except.map, Except.ok.injEq, Except.ok.injEq, ← String.toList_inj, String.toList_ofList]

theorem decode_encode (text : String) : decode (encode text) = .ok text :=
  decode_eq_ok_iff.2 rfl

/-- No text is spelt by bytes that are faulty. -/
theorem encode_ne_of_fault {fault : Fault} (h : decode bytes = .error fault) (text : String) :
    encode text ≠ bytes := by
  rintro rfl
  rw [decode_encode] at h
  cases h

example : decode (encode "ä€𝄞") = .ok "ä€𝄞" ∧ decode [0x61, 0xC3] = .error ⟨1, none⟩ := by
  decide +kernel

/-! ## Faults passed over -/

theorem units_skip (skip : Nat) (bytes : List UInt8) :
    units skip bytes = units 0 (bytes.drop skip) := by
  -- Byte by byte: those that are skipped leave no trace.
  induction bytes generalizing skip with
  | nil => rw [List.drop_nil, units, units]
  | cons b rest ih =>
    cases skip with
    | zero => rfl
    | succ skip => rw [units, ih, List.drop_succ_cons]

theorem units_encode_append (c : Char) (tail : List UInt8) :
    units 0 (String.utf8EncodeChar c ++ tail) = some c :: units 0 tail := by
  obtain ⟨b, more, hencode, hfront⟩ := exists_front_encode c tail
  rw [hencode, List.cons_append, units, hfront]
  dsimp only
  rw [units_skip, Nat.add_sub_cancel, List.drop_left]

/-- The bytes of a text (`encode`) spell its characters and nothing else. -/
theorem units_encode (text : String) : units 0 (encode text) = text.toList.map some := by
  rw [encode_eq_flatMap]
  induction text.toList with
  | nil => rfl
  | cons c cs ih => rw [List.flatMap_cons, units_encode_append, ih, List.map_cons]

theorem decodeLossy_encode (text : String) : decodeLossy (encode text) = text := by
  rw [decodeLossy, units_encode, List.map_map]
  exact (congrArg String.ofList (List.map_id _)).trans String.ofList_toList

example : decodeLossy [0x61, 0xE2, 0x82, 0x62, 0xC3] = "a\uFFFDb\uFFFD" := by
  decide +kernel

end Gadfly.Text.Utf8
