/-
  Gadfly.Toml.Reader

  Reading TOML documents.

  `read?` scans the statements and builds up the tables (`build`). Arrays and tables between
  braces may be nested, less than `depthLimit` deep. An array may be spread over lines and may
  have a comma after its last item; a table between braces may not.

  Main definitions: `Toml.scanValue`, `Toml.scanStatements`, `Toml.read?`.
-/

import Gadfly.Toml.Text

namespace Gadfly.Toml

open Gadfly.Text

/-! ## Values -/

/-- Puts keys and values together to a table between braces. -/
def inlineTable (pairs : List ((List String × String) × Toml)) : Option Toml :=
  (pairs.foldlM (fun members ((path, name), value) => setKey path name value members) []).map
    (.table .inline)

/-- Values are nested less deeply than this. -/
def depthLimit : Nat := 80

mutual

/-- One value. `depth` is how many levels may still be opened, with one to spare, and `fuel`
bounds the number of nested calls; twice the length of the text is enough, since every two calls
take at least one character. -/
def scanValue : (fuel : Nat) → (depth : Nat) → Scan Toml
  | 0, _, _ => none
  | fuel + 1, depth, text =>
    match text with
    | '"' :: _ | '\'' :: _ => (scanString text).map fun (s, rest) => (.string s, rest)
    | '[' :: rest =>
      if depth ≤ 1 then none
      else do
        let (items, rest) ← scanItems fuel (depth - 1) rest
        some (.array items, rest)
    | '\x7b' :: rest =>
      if depth ≤ 1 then none
      else
        match skipBlanks rest with
        | '\x7d' :: rest => some (.table .inline [], rest)
        | _ => do
          let (pairs, rest) ← scanPairs fuel (depth - 1) rest
          let table ← inlineTable pairs
          some (table, rest)
    | _ => scanScalar text

/-- The items of an array, and the closing bracket. -/
def scanItems : (fuel : Nat) → (depth : Nat) → Scan (List Toml)
  | 0, _, _ => none
  | fuel + 1, depth, text =>
    match skipLines false text with
    | ']' :: rest => some ([], rest)
    | text => do
      let (item, rest) ← scanValue fuel depth text
      match skipLines false rest with
      | ']' :: rest => some ([item], rest)
      | ',' :: rest =>
        let (items, rest) ← scanItems fuel depth rest
        some (item :: items, rest)
      | _ => none

/-- The keys and values of a table between braces, at least one, and the closing brace. -/
def scanPairs : (fuel : Nat) → (depth : Nat) → Scan (List ((List String × String) × Toml))
  | 0, _, _ => none
  | fuel + 1, depth, text => do
    let (key, rest) ← scanKey text
    let (_, rest) ← scanMark '=' rest
    let (value, rest) ← scanValue fuel depth (skipBlanks rest)
    match skipBlanks rest with
    | '\x7d' :: rest => some ([(key, value)], rest)
    | ',' :: rest =>
      let (pairs, rest) ← scanPairs fuel depth rest
      some ((key, value) :: pairs, rest)
    | _ => none

end

/-! ## Statements -/

/-- A key with its value, up to the end of the line. -/
def scanAssignment : Scan Statement := fun text => do
  let ((path, name), rest) ← scanKey text
  let (_, rest) ← scanMark '=' rest
  let (value, rest) ← scanValue (2 * rest.length + 2) depthLimit (skipBlanks rest)
  let (_, rest) ← scanLineEnd rest
  some (.assign path name value, rest)

/-- A header, up to the end of the line. -/
def scanHeader : Scan Statement := fun text =>
  match text with
  | '[' :: '[' :: rest => do
    let ((path, name), rest) ← scanKey rest
    let (_, rest) ← scanWord "]]".toList rest
    let (_, rest) ← scanLineEnd rest
    some (.element path name, rest)
  | '[' :: rest => do
    let ((path, name), rest) ← scanKey rest
    let (_, rest) ← scanMark ']' rest
    let (_, rest) ← scanLineEnd rest
    some (.table path name, rest)
  | _ => none

/-- A line: a statement, or none when there is only a comment or nothing. -/
def scanLine : Scan (Option Statement) := fun text =>
  match skipBlanks text with
  | '[' :: rest => (scanHeader ('[' :: rest)).map fun (s, rest) => (some s, rest)
  | c :: rest =>
    if c = '#' ∨ c = '\n' ∨ c = '\r' then
      (scanLineEnd (c :: rest)).map fun (_, rest) => (none, rest)
    else (scanAssignment (c :: rest)).map fun (s, rest) => (some s, rest)
  | [] => some (none, [])

/-- The statements of a document. `fuel` bounds the number of lines. -/
def scanStatements : (fuel : Nat) → List Char → Option (List Statement)
  | _, [] => some []
  | 0, _ => none
  | fuel + 1, text => do
    let (statement?, rest) ← scanLine text
    let statements ← scanStatements fuel rest
    some (statement?.toList ++ statements)

/-- A byte order mark in front of a document says nothing. -/
def skipByteOrderMark : List Char → List Char
  | '\uFEFF' :: rest => rest
  | text => text

/-- The table that a document describes. -/
def read? (s : String) : Option Members := do
  let text := skipByteOrderMark s.toList
  let statements ← scanStatements text.length text
  build statements

end Gadfly.Toml
