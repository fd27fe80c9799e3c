/-
  Gadfly.Json.Reader

  Reading JSON text.

  `read?` takes one value with nothing but blanks around it. The readers below it take a list of
  characters and give back what they found and what is left. The `fuel` of `readValue` bounds the
  number of nested calls; twice the length of the text is enough, since every two calls take at
  least one character.

  `readBytes?` takes the bytes of a text. A string in it that is not UTF-8 is well formed, but
  no value, as is one with an unpaired surrogate escape: `spell` turns the one into the other.
  Anywhere else such bytes are a fault.

  Main definitions: `Json.readString`, `Json.readValue`, `Json.read?`, `Json.spell`,
  `Json.readBytes?`.
-/

import Gadfly.Json.Basic
import Gadfly.Text.Hex
import Gadfly.Text.Utf8

namespace Gadfly.Json

open Gadfly.Decimal Gadfly.Text

/-! ## Blanks and numbers -/

/-- The characters that may stand between the tokens of JSON text. -/
def isGap (c : Char) : Bool :=
  c == ' ' || c == '\n' || c == '\t' || c == '\r'

/-- Drops the blanks in front. -/
def skipGap (text : List Char) : List Char :=
  text.dropWhile isGap

/-- One or more digits. -/
def readDigits (text : List Char) : Option (List Char × List Char) :=
  let digits := text.takeWhile Char.isDigit
  if digits.isEmpty then none else some (digits, text.dropWhile Char.isDigit)

/-- The digits before the point: no zero in front of other digits. -/
def readWhole (text : List Char) : Option (List Char × List Char) := do
  let (digits, rest) ← readDigits text
  if digits.length > 1 && digits.head? == some '0' then none else some (digits, rest)

/-- An optional fraction. -/
def readFraction (text : List Char) : Option (List Char × List Char) :=
  match text with
  | '.' :: rest => readDigits rest
  | _ => some ([], text)

/-- An optional power of ten. -/
def readPower (text : List Char) : Option (Option Int × List Char) :=
  match text with
  | mark :: rest =>
    if mark = 'e' ∨ mark = 'E' then do
      let (negative, rest) := readSign rest
      let (digits, rest) ← readDigits rest
      let size : Int := digitsValue digits
      some (some (if negative then -size else size), rest)
    else some (none, text)
  | [] => some (none, text)

/-- A number. -/
def readNumeral (text : List Char) : Option (Numeral × List Char) := do
  let (negative, text) := match text with
    | '-' :: rest => (true, rest)
    | _ => (false, text)
  let (whole, text) ← readWhole text
  let (fraction, text) ← readFraction text
  let (exponent, text) ← readPower text
  some (⟨negative, whole, fraction, exponent⟩, text)

/-! ## Strings -/

/-- The value of four digits in base sixteen. -/
def hexUnit? (a b c d : Char) : Option Nat := do
  some ((((← hexValue? a) * 16 + (← hexValue? b)) * 16 + (← hexValue? c)) * 16 + (← hexValue? d))

/-- The character that a backslash and a letter stand for. -/
def shortEscape? (c : Char) : Option Char :=
  if c = '"' ∨ c = '\\' ∨ c = '/' then some c
  else if c = 'b' then some '\x08'
  else if c = 'f' then some '\x0c'
  else if c = 'n' then some '\n'
  else if c = 'r' then some '\r'
  else if c = 't' then some '\t'
  else none

/-- The state of reading a string: the characters found so far, backwards, a high surrogate
that waits for its partner, and whether every surrogate so far was paired. -/
structure Spelling where
  found : List Char := []
  high : Option Nat := none
  paired : Bool := true

/-- Adds an ordinary character. -/
def Spelling.add (s : Spelling) (c : Char) : Spelling :=
  ⟨c :: s.found, none, s.paired && s.high.isNone⟩

/-- Adds a unit given by number. -/
def Spelling.addUnit (s : Spelling) (n : Nat) : Spelling :=
  if 0xDC00 ≤ n ∧ n ≤ 0xDFFF then
    match s.high with
    | some high =>
      ⟨Char.ofNat (0x10000 + (high - 0xD800) * 0x400 + (n - 0xDC00)) :: s.found, none, s.paired⟩
    | none => { s with paired := false }
  else if 0xD800 ≤ n ∧ n ≤ 0xDBFF then ⟨s.found, some n, s.paired && s.high.isNone⟩
  else s.add (Char.ofNat n)

/-- The text that was spelt; none with an unpaired surrogate. -/
def Spelling.text? (s : Spelling) : Option String :=
  if s.paired && s.high.isNone then some (String.ofList s.found.reverse) else none

/-- Reads the rest of a string, after its opening quote. -/
def readString (s : Spelling) : List Char → Option (Option String × List Char)
  | [] => none
  | '"' :: rest => some (s.text?, rest)
  | '\\' :: 'u' :: a :: b :: c :: d :: rest =>
    match hexUnit? a b c d with
    | some n => readString (s.addUnit n) rest
    | none => none
  | '\\' :: c :: rest =>
    match shortEscape? c with
    | some e => readString (s.add e) rest
    | none => none
  | c :: rest => if c.toNat < 0x20 then none else readString (s.add c) rest

/-! ## Values -/

/-- A word, when the text starts with it. -/
def readWord (word : String) (value : Json) (text : List Char) : Option (Json × List Char) :=
  if word.toList.isPrefixOf text then some (value, text.drop word.length) else none

/-- An object from members of which some names may be unreadable. -/
def ofMembers (members : List (Option String × Json)) : Json :=
  match members.mapM fun (name?, value) => name?.map (·, value) with
  | some members => .object members
  | none => .unreadable

mutual

/-- Reads one value. -/
def readValue : (fuel : Nat) → List Char → Option (Json × List Char)
  | 0, _ => none
  | fuel + 1, text =>
    match skipGap text with
    | '"' :: rest => do
      let (text?, rest) ← readString {} rest
      some ((text?.map Json.string).getD .unreadable, rest)
    | '[' :: rest =>
      match skipGap rest with
      | ']' :: rest => some (.array [], rest)
      | _ => do
        let (items, rest) ← readItems fuel rest
        some (.array items, rest)
    | '\x7b' :: rest =>
      match skipGap rest with
      | '\x7d' :: rest => some (.object [], rest)
      | _ => do
        let (members, rest) ← readMembers fuel rest
        some (ofMembers members, rest)
    | 't' :: rest => readWord "rue" (.bool true) rest
    | 'f' :: rest => readWord "alse" (.bool false) rest
    | 'n' :: rest => readWord "ull" .null rest
    | text => do
      let (n, rest) ← readNumeral text
      some (.number n, rest)

/-- Reads one or more values and the closing bracket. -/
def readItems : (fuel : Nat) → List Char → Option (List Json × List Char)
  | 0, _ => none
  | fuel + 1, text => do
    let (item, rest) ← readValue fuel text
    match skipGap rest with
    | ']' :: rest => some ([item], rest)
    | ',' :: rest => do
      let (items, rest) ← readItems fuel rest
      some (item :: items, rest)
    | _ => none

/-- Reads one or more members and the closing brace. -/
def readMembers : (fuel : Nat) → List Char → Option (List (Option String × Json) × List Char)
  | 0, _ => none
  | fuel + 1, text =>
    match skipGap text with
    | '"' :: rest => do
      let (name?, rest) ← readString {} rest
      match skipGap rest with
      | ':' :: rest => do
        let (value, rest) ← readValue fuel rest
        match skipGap rest with
        | '\x7d' :: rest => some ([(name?, value)], rest)
        | ',' :: rest => do
          let (members, rest) ← readMembers fuel rest
          some ((name?, value) :: members, rest)
        | _ => none
      | _ => none
    | _ => none

end

/-- The value that a text spells. -/
def read? (s : String) : Option Json := do
  let text := s.toList
  let (value, rest) ← readValue (2 * text.length + 2) text
  if (skipGap rest).isEmpty then some value else none

/-! ## Bytes -/

/-- Where a character of JSON text stands. -/
inductive Place where
  | betweenStrings
  | inString
  /-- In a string, right behind a backslash. -/
  | escaped
  deriving Repr, DecidableEq

/-- The place of what comes after a character. -/
def Place.next : Place → Char → Place
  | .betweenStrings, c => if c = '"' then .inString else .betweenStrings
  | .inString, c =>
    if c = '"' then .betweenStrings else if c = '\\' then .escaped else .inString
  | .escaped, _ => .inString

/-- What is read instead of a faulty sequence of bytes: an unpaired surrogate in a string, and
anywhere else a character that may not stand there. -/
def Place.fault : Place → List Char
  -- The letter keeps an escape that follows from making a pair with this one.
  | .inString => "\\ud800x".toList
  | .betweenStrings | .escaped => ['\x00']

/-- The characters to read, when faulty sequences of bytes are among them. -/
def spell : Place → List (Option Char) → List Char
  | _, [] => []
  | place, some c :: rest => c :: spell (place.next c) rest
  | place, none :: rest => place.fault ++ spell place rest

/-- The value that bytes spell: the one in the text that `spell` makes of them. -/
def readBytes? (bytes : List UInt8) : Option Json :=
  read? (String.ofList (spell .betweenStrings (Utf8.units 0 bytes)))

end Gadfly.Json
