/-
  Gadfly.Http.Host

  The hosts of addresses.

  A `Host` on the web is a domain, a number of four bytes, or a number of sixteen bytes in square
  brackets (`Host.ofWeb?`). The numbers may be written in several ways and are written back in one
  (`Host.write`). The host of any other address is kept as it is, apart from the numbers in
  brackets (`Host.ofOther?`).

  Main definitions: `Host`, `Host.write`, `Host.ofWeb?`, `Host.ofOther?`.
-/

import Gadfly.Decimal.Reader
import Gadfly.Domain.Name
import Gadfly.Http.Percent

namespace Gadfly

open Gadfly.Text Gadfly.Decimal

/-- The host of an address. -/
inductive Host where
  | none
  | name (text : String)
  /-- A number of four bytes. -/
  | four (number : Nat)
  /-- A number of sixteen bytes, in eight pieces. -/
  | six (pieces : List Nat)
  deriving Repr, DecidableEq

namespace Host

/-! ## Four bytes -/

/-- The number that a part spells, in base sixteen after `0x`, in base eight after another zero,
and else in base ten. -/
def partValue? : List Char → Option Nat
  | [] => .none
  | ['0'] => some 0
  | '0' :: 'x' :: digits | '0' :: 'X' :: digits =>
    if digits.all isHexDigit then some (hexNumber digits) else .none
  | '0' :: digits =>
    if digits.all fun c => '0' ≤ c && c ≤ '7' then some (valueInBase 8 digits) else .none
  | digits => if digits.all Char.isDigit then some (digitsValue digits) else .none

/-- The parts of a domain, without an empty one at the end. -/
def parts (domain : List Char) : List (List Char) :=
  let parts := cutWhere (· = '.') domain
  if parts.getLast? = some [] && 1 < parts.length then parts.dropLast else parts

/-- Whether a domain is meant as a number: its last part is one. -/
def endsInNumber (domain : List Char) : Bool :=
  match (parts domain).getLast? with
  | some last => (!last.isEmpty && last.all Char.isDigit) || (partValue? last).isSome
  | .none => false

/-- The number of four bytes that values make. Each value is a byte, and the last one fills what
is left. -/
def fourOf? : (room : Nat) → List Nat → Option Nat
  | _, [] => .none
  | room, [last] => if last < room then some last else .none
  | room, value :: rest =>
    if 255 < value || room ≤ 256 then .none
    else (fourOf? (room / 256) rest).map (value * (room / 256) + ·)

/-- The number of four bytes that a domain spells. -/
def four? (domain : List Char) : Option Nat := do
  fourOf? 0x100000000 (← (parts domain).mapM partValue?)

example : four? "127.1".toList = some 0x7F000001 := by decide
example : four? "0x10".toList = some 16 := by decide
example : four? "1.2.3.4.5".toList = .none := by decide

/-- The four bytes of a number. -/
def writeFour (number : Nat) : String :=
  ".".intercalate ([0x1000000, 0x10000, 0x100, 1].map fun unit => toString (number / unit % 256))

/-! ## Sixteen bytes -/

/-- A byte in base ten, without needless zeros. -/
def byte? (digits : List Char) : Option Nat :=
  if digits.isEmpty || !digits.all Char.isDigit || 3 < digits.length then .none
  else if digits.head? = some '0' && 1 < digits.length then .none
  else if digitsValue digits ≤ 255 then some (digitsValue digits)
  else .none

/-- The two pieces that four bytes make. -/
def byteFields? (text : List Char) : Option (List Nat) := do
  match ← (cutWhere (· = '.') text).mapM byte? with
  | [a, b, c, d] => some [a * 256 + b, c * 256 + d]
  | _ => .none

/-- A piece of up to four digits. -/
def piece? (digits : List Char) : Option Nat :=
  if digits.isEmpty || 4 < digits.length || !digits.all isHexDigit then .none
  else some (hexNumber digits)

/-- Pieces with colons between them. The last two may be written as four bytes. -/
def pieces? : List (List Char) → Option (List Nat)
  | [] => some []
  | [last] => if last.contains '.' then byteFields? last else (piece? last).map ([·])
  | first :: rest => do some ((← piece? first) :: (← pieces? rest))

/-- The parts before and after the first two colons in a row. -/
def splitGap : List Char → Option (List Char × List Char)
  | ':' :: ':' :: rest => some ([], rest)
  | c :: rest => (splitGap rest).map fun (front, back) => (c :: front, back)
  | [] => .none

/-- Pieces of a text that may be empty. -/
def optionalPieces? (text : List Char) : Option (List Nat) :=
  if text.isEmpty then some [] else pieces? (cutWhere (· = ':') text)

/-- Pieces before a gap, which are not written as bytes. -/
def frontPieces? (text : List Char) : Option (List Nat) :=
  if text.contains '.' then .none else optionalPieces? text

/-- The eight pieces that a text spells. Two colons in a row stand for one zero or more. -/
def six? (text : List Char) : Option (List Nat) :=
  match splitGap text with
  | some (front, back) => do
    let front ← frontPieces? front
    let back ← optionalPieces? back
    let filled := front.length + back.length
    if filled ≤ 7 then some (front ++ List.replicate (8 - filled) 0 ++ back) else .none
  | .none => do
    let pieces ← optionalPieces? text
    if pieces.length = 8 then some pieces else .none

example : six? "1::2".toList = some [1, 0, 0, 0, 0, 0, 0, 2] := by decide
example : six? "::ffff:1.2.3.4".toList = some [0, 0, 0, 0, 0, 0xFFFF, 0x102, 0x304] := by decide
example : six? "1:2:3:4:5:6:7:8:9".toList = .none := by decide

/-- The number of zeros at the front. -/
def leadingZeros (pieces : List Nat) : Nat :=
  (pieces.takeWhile (· = 0)).length

/-- Where the first of the longest runs of zeros starts, and how long it is; `index` pieces came
before. -/
def longestGap (index : Nat) : List Nat → Nat × Nat
  | [] => (index, 0)
  | piece :: rest =>
    let later := longestGap (index + 1) rest
    if later.2 ≤ leadingZeros (piece :: rest) then (index, leadingZeros (piece :: rest)) else later

/-- Pieces with colons between them. -/
def writePieces (pieces : List Nat) : String :=
  ":".intercalate (pieces.map fun piece => String.ofList (hexDigits piece))

/-- Eight pieces. The longest run of zeros is left out if it is longer than one. -/
def writeSix (pieces : List Nat) : String :=
  let (start, length) := longestGap 0 pieces
  if length < 2 then writePieces pieces
  else writePieces (pieces.take start) ++ "::" ++ writePieces (pieces.drop (start + length))

example : longestGap 0 [1, 0, 0, 2, 0, 0, 0, 3] = (4, 3) := by decide
example : longestGap 0 [1, 0, 0, 2, 0, 0, 4, 3] = (1, 2) := by decide

/-! ## Hosts -/

/-- A host as it is written. -/
def write : Host → String
  | .none => ""
  | .name text => text
  | .four number => writeFour number
  | .six pieces => "[" ++ writeSix pieces ++ "]"

/-- The host in square brackets, if the text has them around it. -/
def bracketed? (text : List Char) : Option Host :=
  match text.dropLast, text.getLast? with
  | '[' :: inside, some ']' => (six? inside).map .six
  | _, _ => .none

/-- The host on the web that a text spells. -/
def ofWeb? (text : List Char) : Option Host :=
  if text.head? = some '[' then bracketed? text
  else do
    let domain ← Domain.ascii? (← Percent.decode? text)
    if domain.isEmpty then .none
    else if endsInNumber domain then (four? domain).map .four
    else some (.name (String.ofList domain))

/-- The characters that no host outside the web has. -/
def isForbidden (c : Char) : Bool :=
  c = '\x00' || " \t\n\r#/:<>?@[\\]^|".toList.contains c

/-- The host outside the web that a text spells; there may be none. -/
def ofOther? (text : List Char) : Option Host :=
  if text.isEmpty then some .none
  else if text.head? = some '[' then bracketed? text
  else if text.any isForbidden then Option.none
  else some (.name (String.ofList (Percent.escape Percent.isPrintable text)))

end Host

end Gadfly
