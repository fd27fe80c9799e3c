/-
  Gadfly.Http.Percent

  Characters written as percent signs and numbers.

  A character that may not stand in some part of an address is written as its bytes in UTF-8, each
  as a percent sign and two digits in base sixteen (`escape`). What may stand where is a class of
  characters. `bytes` and `decode?` read the numbers back.

  Main definitions: `Percent.escape`, `Percent.bytes`, `Percent.decode?`, the classes
  `Percent.keepsPath`, `Percent.keepsQuery` and others.
-/

import Gadfly.Text.Hex
import Gadfly.Text.Utf8

namespace Gadfly.Percent

open Gadfly.Text

/-! ## Writing -/

/-- The bytes of a character in UTF-8. -/
def utf8Bytes (c : Char) : List Nat :=
  let n := c.toNat
  if n < 0x80 then [n]
  else if n < 0x800 then [0xC0 + n / 0x40, 0x80 + n % 0x40]
  else if n < 0x10000 then [0xE0 + n / 0x1000, 0x80 + n / 0x40 % 0x40, 0x80 + n % 0x40]
  else [0xF0 + n / 0x40000, 0x80 + n / 0x1000 % 0x40, 0x80 + n / 0x40 % 0x40, 0x80 + n % 0x40]

/-- A digit in base sixteen, letters in upper case. -/
def upperHexDigit (n : Nat) : Char :=
  (Nat.digitChar n).toUpper

/-- A byte as a percent sign and two digits. -/
def percentByte (n : Nat) : List Char :=
  ['%', upperHexDigit (n / 16), upperHexDigit (n % 16)]

/-- A character as percent signs and numbers. -/
def percentChar (c : Char) : List Char :=
  (utf8Bytes c).flatMap percentByte

/-- Writes the characters outside a class as percent signs and numbers. -/
def escape (keeps : Char → Bool) (text : List Char) : List Char :=
  text.flatMap fun c => if keeps c then [c] else percentChar c

/-! ## Reading -/

/-- The bytes that a text spells. A percent sign without two digits after it stands for
itself. -/
def bytes : List Char → List UInt8
  | [] => []
  | '%' :: a :: b :: rest =>
    if isHexDigit a && isHexDigit b then UInt8.ofNat (hexNumber [a, b]) :: bytes rest
    else UInt8.ofNat '%'.toNat :: bytes (a :: b :: rest)
  | c :: rest => (utf8Bytes c).map UInt8.ofNat ++ bytes rest

/-- The text that the bytes of a text spell. -/
def decode? (text : List Char) : Option (List Char) :=
  match Utf8.decode (bytes text) with
  | .ok s => some s.toList
  | .error _ => none

/-! ## Classes -/

/-- The characters of ASCII that are visible, and the space. -/
def isPrintable (c : Char) : Bool :=
  0x20 ≤ c.toNat && c.toNat < 0x7F

/-- The visible characters other than those listed. -/
def allBut (listed : String) (c : Char) : Bool :=
  isPrintable c && !listed.toList.contains c

/-- What may stand in a fragment. -/
def keepsFragment : Char → Bool := allBut " \"<>`"

/-- What may stand in a path. -/
def keepsPath : Char → Bool := allBut " \"<>`#?\x7b\x7d"

/-- What may stand in a name or a password. -/
def keepsUser : Char → Bool := allBut " \"<>`#?\x7b\x7d/:;=@[\\]^|"

/-- What may stand in a query. -/
def keepsQuery : Char → Bool := allBut " \"#<>"

/-- What may stand in a query of an address on the web. -/
def keepsWebQuery : Char → Bool := allBut " \"#<>'"

end Gadfly.Percent
