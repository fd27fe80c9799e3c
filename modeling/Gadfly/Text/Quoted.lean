/-
  Gadfly.Text.Quoted

  The quoted form of a text: between double quotes, with every character that could not be seen
  written as an escape.

  Tab, line feed, carriage return and NUL have short escapes, the double quote and the backslash
  are preceded by a backslash, and the characters of `unshownSpans` are written by number in
  braces (`quoteChar`).

  Main definitions: `quoteChar`, `quoted`, `quotedList`.
-/

import Gadfly.Text.EscapeTable

namespace Gadfly.Text

/-- Whether a quoted text writes the character by number. -/
def isUnshown (c : Char) : Bool :=
  inSpans unshownSpans c.toNat

/-- One character inside a quoted text. -/
def quoteChar (c : Char) : List Char :=
  if c = '"' then ['\\', '"']
  else if c = '\\' then ['\\', '\\']
  else if c = '\n' then ['\\', 'n']
  else if c = '\r' then ['\\', 'r']
  else if c = '\t' then ['\\', 't']
  else if c = '\x00' then ['\\', '0']
  else if 0x20 ≤ c.toNat ∧ c.toNat < 0x7F then [c]
  else if isUnshown c then ['\\', 'u', '\x7b'] ++ hexDigits c.toNat ++ ['\x7d']
  else [c]

/-- The quoted form of a text. -/
def quoted (s : String) : String :=
  String.ofList ('"' :: (s.toList.flatMap quoteChar ++ ['"']))

/-- The quoted form of a list of texts, in square brackets. -/
def quotedList (texts : List String) : String :=
  "[" ++ ", ".intercalate (texts.map quoted) ++ "]"

end Gadfly.Text
