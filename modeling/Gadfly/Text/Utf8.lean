/-
  Gadfly.Text.Utf8

  Bytes and the UTF-8 that they spell.

  `encode` gives the bytes of a text, and `decode` accepts exactly these. Where `decode` stops,
  its `Fault` says how many bytes could be read before the fault and how long the faulty sequence
  is; a sequence that the end of the bytes cuts short has no length. `units` does not stop: it
  passes over a faulty sequence and goes on behind it, and `decodeLossy` puts U+FFFD in its place.

  `byteAt`, `isBoundary` and `cutAt` work on a text by the numbers of its bytes, and slip where
  there is no such byte, or where the cut would fall into a character.

  Main definitions: `Utf8.encode`, `Utf8.Fault`, `Utf8.Fault.message`, `Utf8.decode`,
  `Utf8.units`, `Utf8.decodeLossy`, `Utf8.Slip`, `Utf8.byteAt`, `Utf8.isBoundary`, `Utf8.cutAt`.
-/

namespace Gadfly.Text.Utf8

/-- The bytes that spell a text. -/
def encode (text : String) : List UInt8 :=
  text.toUTF8.data.toList

/-! ## Reading -/

/-- Where and how bytes fail to be UTF-8. -/
structure Fault where
  /-- The number of bytes before the fault. -/
  index : Nat
  /-- The length of the faulty sequence, unless the bytes end inside it. -/
  length : Option Nat
  deriving Repr, DecidableEq

/-- The wording of a fault. -/
def Fault.message (fault : Fault) : String :=
  match fault.length with
  | some n => s!"invalid utf-8 sequence of {n} bytes from index {fault.index}"
  | none => s!"incomplete utf-8 byte sequence from index {fault.index}"

/-- Whether a byte continues a sequence. -/
def isContinuation (b : UInt8) : Bool :=
  0x80 ≤ b && b ≤ 0xBF

/-- Whether `second` may follow `first` in a sequence of three or four bytes. -/
def allowsSecond (first second : UInt8) : Bool :=
  if first = 0xE0 then 0xA0 ≤ second && second ≤ 0xBF
  else if first = 0xED then 0x80 ≤ second && second ≤ 0x9F
  else if first = 0xF0 then 0x90 ≤ second && second ≤ 0xBF
  else if first = 0xF4 then 0x80 ≤ second && second ≤ 0x8F
  else isContinuation second

/-- The low bits of a continuation byte. -/
def payload (b : UInt8) : Nat :=
  b.toNat % 64

/-- What stands at the front of the bytes: a character and the number of bytes it takes, or
the length of a faulty sequence. -/
def front (b : UInt8) (rest : List UInt8) : Except (Option Nat) (Char × Nat) :=
  if b < 0x80 then .ok (Char.ofNat b.toNat, 1)
  else if b < 0xC2 || 0xF4 < b then .error (some 1)
  else
    match rest with
    | [] => .error none
    | b₂ :: rest =>
      if b < 0xE0 then
        if isContinuation b₂ then .ok (Char.ofNat (b.toNat % 32 * 64 + payload b₂), 2)
        else .error (some 1)
      else if !allowsSecond b b₂ then .error (some 1)
      else
        match rest with
        | [] => .error none
        | b₃ :: rest =>
          if !isContinuation b₃ then .error (some 2)
          else if b < 0xF0 then
            .ok (Char.ofNat ((b.toNat % 16 * 64 + payload b₂) * 64 + payload b₃), 3)
          else
            match rest with
            | [] => .error none
            | b₄ :: _ =>
              if !isContinuation b₄ then .error (some 3)
              else
                .ok (Char.ofNat
                  (((b.toNat % 8 * 64 + payload b₂) * 64 + payload b₃) * 64 + payload b₄), 4)

/-- Reads bytes of which `index` came before; `skip` of them belong to the character just
read. -/
def decodeFrom (index : Nat) : (skip : Nat) → List UInt8 → Except Fault (List Char)
  | _, [] => .ok []
  | skip + 1, _ :: rest => decodeFrom (index + 1) skip rest
  | 0, b :: rest =>
    match front b rest with
    | .error length => .error ⟨index, length⟩
    | .ok (c, size) => (decodeFrom (index + 1) (size - 1) rest).map (c :: ·)

/-- The text that the bytes spell, or the first `Fault`. -/
def decode (bytes : List UInt8) : Except Fault String :=
  (decodeFrom 0 0 bytes).map String.ofList

/-! ## Reading in spite of faults -/

/-- The characters that bytes spell, and `none` for each faulty sequence between them; `skip` of
the bytes belong to what was just read. -/
def units : (skip : Nat) → List UInt8 → List (Option Char)
  | _, [] => []
  | skip + 1, _ :: rest => units skip rest
  | 0, b :: rest =>
    match front b rest with
    | .ok (c, size) => some c :: units (size - 1) rest
    | .error (some size) => none :: units (size - 1) rest
    | .error none => [none]

/-- The text that bytes spell (`units`), with U+FFFD for each faulty sequence. -/
def decodeLossy (bytes : List UInt8) : String :=
  String.ofList ((units 0 bytes).map (·.getD '\uFFFD'))

/-! ## Bytes by number -/

/-- How work on the bytes of a text goes wrong. -/
inductive Slip
  /-- A byte is asked for where there is none. -/
  | outOfRange (index size : Nat)
  /-- A text is cut between the bytes of one character. -/
  | insideCharacter (index : Nat)
  deriving Repr, DecidableEq

/-- The byte at an index, if it is in range; otherwise `Slip.outOfRange`. -/
def byteAt (bytes : List UInt8) (index : Nat) : Except Slip UInt8 :=
  match bytes[index]? with
  | some b => .ok b
  | none => .error (.outOfRange index bytes.length)

/-- The texts before and from a byte on. Both sides of the cut have to be texts (`isBoundary`). -/
def cutAt (text : String) (index : Nat) : Except Slip (String × String) :=
  let bytes := encode text
  if bytes.length < index then .error (.outOfRange index bytes.length)
  else
    match decode (bytes.take index), decode (bytes.drop index) with
    | .ok front, .ok back => .ok (front, back)
    | _, _ => .error (.insideCharacter index)

/-- Whether a text may be cut at a byte: at both of its ends, and where the byte does not continue
a character. -/
def isBoundary (bytes : List UInt8) (index : Nat) : Bool :=
  index == 0 || index == bytes.length || bytes[index]?.any (!isContinuation ·)

end Gadfly.Text.Utf8
