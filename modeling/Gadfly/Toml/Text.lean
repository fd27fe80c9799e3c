/-
  Gadfly.Toml.Text

  Blanks, comments, strings and keys in TOML text.

  No control character other than the tab may stand anywhere (`isPlain`). A basic string
  (`scanBasic`) has escapes, a literal string (`scanLiteral`) has none; either may be written on
  several lines between triple quotes. Up to two quotes may stand right before the closing three
  (`closeTriple`).

  Main definitions: `Toml.skipBlanks`, `Toml.skipLines`, `Toml.scanLineEnd`, `Toml.scanString`,
  `Toml.scanKey`.
-/

import Gadfly.Text.Scan
import Gadfly.Toml.Scalar

namespace Gadfly.Toml

open Gadfly.Text

/-! ## Blanks and comments -/

/-- The characters that may stand in a line. -/
def isPlain (c : Char) : Bool :=
  c = '\t' || (0x20 ≤ c.toNat && c.toNat ≠ 0x7F)

/-- Spaces and tabs. -/
def isWhite (c : Char) : Bool :=
  c = ' ' || c = '\t'

/-- Drops spaces and tabs. -/
def skipBlanks (text : List Char) : List Char :=
  text.dropWhile isWhite

/-- Drops a comment, if the text starts with one. -/
def skipComment : List Char → List Char
  | '#' :: rest => rest.dropWhile isPlain
  | text => text

/-- A line break. -/
def scanNewline : Scan Unit
  | '\n' :: rest => some ((), rest)
  | '\r' :: '\n' :: rest => some ((), rest)
  | _ => none

/-- The end of a line, after blanks and perhaps a comment; the end of the text ends a line too. -/
def scanLineEnd : Scan Unit := fun text =>
  match skipComment (skipBlanks text) with
  | [] => some ((), [])
  | text => scanNewline text

/-- Drops blanks, line breaks and comments. Inside a comment, that is until the end of the line,
everything goes. -/
def skipLines : (inComment : Bool) → List Char → List Char
  | _, [] => []
  | true, c :: rest =>
    if isPlain c then skipLines true rest
    else match c, rest with
      | '\n', rest => skipLines false rest
      | '\r', '\n' :: rest => skipLines false rest
      | c, rest => c :: rest
  | false, c :: rest =>
    if isWhite c then skipLines false rest
    else match c, rest with
      | '#', rest => skipLines true rest
      | '\n', rest => skipLines false rest
      | '\r', '\n' :: rest => skipLines false rest
      | c, rest => c :: rest

/-! ## Strings -/

/-- The character with a number written in `count` digits of base sixteen. -/
def scanCodePoint (count : Nat) : Scan Char := fun text =>
  let digits := text.take count
  let n := valueInBase 16 digits
  if digits.length = count && digits.all isHexDigit && n.isValidChar then
    some (Char.ofNat n, text.drop count)
  else none

/-- What stands after a backslash. -/
def scanEscape : Scan Char
  | 'b' :: rest => some ('\x08', rest)
  | 'f' :: rest => some ('\x0c', rest)
  | 'n' :: rest => some ('\n', rest)
  | 'r' :: rest => some ('\r', rest)
  | 't' :: rest => some ('\t', rest)
  | 'u' :: rest => scanCodePoint 4 rest
  | 'U' :: rest => scanCodePoint 8 rest
  | '\\' :: rest => some ('\\', rest)
  | '"' :: rest => some ('"', rest)
  | _ => none

theorem length_of_scanCodePoint {count : Nat} {text rest : List Char} {c : Char}
    (h : scanCodePoint count text = some (c, rest)) : rest.length ≤ text.length := by
  simp only [scanCodePoint] at h
  split at h
  · obtain ⟨-, rfl⟩ := Prod.mk.inj (Option.some.inj h)
    simp
  · simp at h

/-- An escape takes at least one character. -/
theorem length_of_scanEscape {text rest : List Char} {c : Char}
    (h : scanEscape text = some (c, rest)) : rest.length < text.length := by
  unfold scanEscape at h
  split at h
  case h_6 | h_7 => exact Nat.lt_succ_of_le (length_of_scanCodePoint h)
  case h_10 => cases h
  all_goals
    cases h
    exact Nat.lt_succ_self _

/-- The rest of a basic string on one line, after its opening quote. -/
def scanBasic (text : List Char) : Option (List Char × List Char) :=
  match text with
  | [] => none
  | '"' :: rest => some ([], rest)
  | '\\' :: rest =>
    match _h : scanEscape rest with
    | some (c, rest) => (scanBasic rest).map fun (cs, rest) => (c :: cs, rest)
    | none => none
  | c :: rest =>
    if isPlain c then (scanBasic rest).map fun (cs, rest) => (c :: cs, rest) else none
termination_by text.length
decreasing_by
  · have := length_of_scanEscape ‹_›
    simp
    omega
  · simp

/-- The rest of a literal string on one line, after its opening quote. -/
def scanLiteral : Scan (List Char)
  | [] => none
  | '\'' :: rest => some ([], rest)
  | c :: rest =>
    if isPlain c then (scanLiteral rest).map fun (cs, rest) => (c :: cs, rest) else none

/-- How many times a character stands at the front. -/
def countLead (mark : Char) (text : List Char) : Nat :=
  (text.takeWhile (· = mark)).length

/-- The end of a string between triple quotes, at a run of `run` quotes: those beyond three
belong to the string, two at the most. -/
def closeTriple (mark : Char) (run : Nat) (text : List Char) : List Char × List Char :=
  let taken := min run 5
  (List.replicate (taken - 3) mark, text.drop taken)

/-- What a backslash at the end of a line swallows: blanks, the line break, and all blanks and
line breaks after it. -/
def scanContinuation : Scan Unit := fun text => do
  let (_, rest) ← scanNewline (skipBlanks text)
  some ((), skipBreaks rest)
where
  /-- Drops blanks and line breaks. -/
  skipBreaks : List Char → List Char
    | '\r' :: '\n' :: rest => skipBreaks rest
    | c :: rest => if isWhite c || c = '\n' then skipBreaks rest else c :: rest
    | [] => []

/-- The rest of a basic string between triple quotes. `fuel` bounds the number of pieces by the
length of the text. -/
def scanTripleBasic : (fuel : Nat) → Scan (List Char)
  | 0, _ => none
  | fuel + 1, text =>
    match text with
    | [] => none
    | '"' :: rest =>
      let run := countLead '"' text
      if 3 ≤ run then some (closeTriple '"' run text)
      else (scanTripleBasic fuel rest).map fun (cs, rest) => ('"' :: cs, rest)
    | '\\' :: rest =>
      match scanContinuation rest with
      | some (_, rest) => scanTripleBasic fuel rest
      | none => do
        let (c, rest) ← scanEscape rest
        (scanTripleBasic fuel rest).map fun (cs, rest) => (c :: cs, rest)
    | '\r' :: '\n' :: rest => (scanTripleBasic fuel rest).map fun (cs, rest) => ('\n' :: cs, rest)
    | c :: rest =>
      if isPlain c || c = '\n' then
        (scanTripleBasic fuel rest).map fun (cs, rest) => (c :: cs, rest)
      else none

/-- The rest of a literal string between triple quotes. -/
def scanTripleLiteral : Scan (List Char)
  | [] => none
  | '\r' :: '\n' :: rest => (scanTripleLiteral rest).map fun (cs, rest) => ('\n' :: cs, rest)
  | c :: rest =>
    if c = '\'' then
      let run := countLead '\'' (c :: rest)
      if 3 ≤ run then some (closeTriple '\'' run (c :: rest))
      else (scanTripleLiteral rest).map fun (cs, rest) => ('\'' :: cs, rest)
    else if isPlain c || c = '\n' then
      (scanTripleLiteral rest).map fun (cs, rest) => (c :: cs, rest)
    else none

/-- Drops the line break right after the opening quotes. -/
def skipFirstBreak (text : List Char) : List Char :=
  match scanNewline text with
  | some (_, rest) => rest
  | none => text

/-- A string of any of the four kinds. -/
def scanString : Scan String := fun text => do
  let (cs, rest) ← match text with
    | '"' :: '"' :: '"' :: rest => scanTripleBasic (rest.length + 1) (skipFirstBreak rest)
    | '"' :: rest => scanBasic rest
    | '\'' :: '\'' :: '\'' :: rest => scanTripleLiteral (skipFirstBreak rest)
    | '\'' :: rest => scanLiteral rest
    | _ => none
  some (String.ofList cs, rest)

/-! ## Keys -/

/-- The characters of a key without quotes. -/
def isKeyChar (c : Char) : Bool :=
  c.isAlphanum || c = '-' || c = '_'

/-- One part of a key. -/
def scanKeyPart : Scan String := fun text => do
  let (cs, rest) ← match text with
    | '"' :: rest => scanBasic rest
    | '\'' :: rest => scanLiteral rest
    | _ =>
      let name := text.takeWhile isKeyChar
      if name.isEmpty then none else some (name, text.dropWhile isKeyChar)
  some (String.ofList cs, rest)

/-- A key has fewer parts than this. -/
def keyLimit : Nat := 80

/-- The parts of a key, with blanks around them: all but the last, and the last. -/
def scanParts : (fuel : Nat) → Scan (List String × String)
  | 0, _ => none
  | fuel + 1, text => do
    let (name, rest) ← scanKeyPart (skipBlanks text)
    match skipBlanks rest with
    | '.' :: rest =>
      let ((path, last), rest) ← scanParts fuel rest
      some ((name :: path, last), rest)
    | rest => some (([], name), rest)

/-- A key: at least one part, and fewer than the limit. -/
def scanKey : Scan (List String × String) :=
  scanParts (keyLimit - 1)

end Gadfly.Toml
