/-
  Gadfly.Json.Printer

  Writing JSON text, without blanks between the tokens.

  `write` gives a text that is read as the value: what is `unreadable` is written as an unpaired
  surrogate escape.

  Main definitions: `Json.writeNumeral`, `Json.writeString`, `Json.write`.
-/

import Gadfly.Json.Basic
import Gadfly.Text.Quoted

namespace Gadfly.Json

open Gadfly.Text

/-- A number as it was written. -/
def writeNumeral (n : Numeral) : String :=
  (if n.negative then "-" else "") ++ String.ofList n.whole ++
    (if n.fraction.isEmpty then "" else "." ++ String.ofList n.fraction) ++
    (match n.exponent with
    | some e => "e" ++ toString e
    | none => "")

/-- One character of a string. -/
def escapeChar (c : Char) : List Char :=
  if c = '"' then ['\\', '"']
  else if c = '\\' then ['\\', '\\']
  else if c = '\n' then ['\\', 'n']
  else if c = '\r' then ['\\', 'r']
  else if c = '\t' then ['\\', 't']
  else if c = '\x08' then ['\\', 'b']
  else if c = '\x0c' then ['\\', 'f']
  else if c.toNat < 0x20 then
    ['\\', 'u', '0', '0'] ++ (if c.toNat < 16 then ['0'] else []) ++ hexDigits c.toNat
  else [c]

/-- A string between quotes. -/
def writeString (s : String) : String :=
  String.ofList ('"' :: (s.toList.flatMap escapeChar ++ ['"']))

mutual

/-- The text of a value. -/
def write : Json → String
  | .null => "null"
  | .bool true => "true"
  | .bool false => "false"
  | .number n => writeNumeral n
  | .string s => writeString s
  | .array items => "[" ++ writeItems items ++ "]"
  | .object members => "\x7b" ++ writeMembers members ++ "\x7d"
  | .unreadable => "\"\\ud800\""

/-- Values with commas between them. -/
def writeItems : List Json → String
  | [] => ""
  | [item] => write item
  | item :: items => write item ++ "," ++ writeItems items

/-- Members with commas between them. -/
def writeMembers : List (String × Json) → String
  | [] => ""
  | [(name, value)] => writeString name ++ ":" ++ write value
  | (name, value) :: members =>
    writeString name ++ ":" ++ write value ++ "," ++ writeMembers members

end

end Gadfly.Json
