/-
  Gadfly.Http.Path

  The paths of addresses.

  A path is a list of segments. A segment `.` stands for the one before it and `..` for the one
  before that, also when the dots are written as numbers (`isDot`, `isDotDot`); `resolve` takes
  them out. A segment such as `C:` names a drive (`namesDrive`), and nothing goes back past it; at
  the front of the path of a file it is always written with a colon.

  Main definitions: `Path.resolve`, `Path.write`, `Path.startsWithDrive`.
-/

import Gadfly.Http.Percent
import Gadfly.Text.Search

namespace Gadfly.Path

open Gadfly.Text

/-! ## Segments -/

/-- The ways to write `.` in a path. -/
def isDot (segment : List Char) : Bool :=
  [".", "%2e"].contains (String.ofList (segment.map Char.toLower))

/-- The ways to write `..` in a path. -/
def isDotDot (segment : List Char) : Bool :=
  ["..", ".%2e", "%2e.", "%2e%2e"].contains (String.ofList (segment.map Char.toLower))

/-- Whether a text is a letter with a colon or a bar after it. -/
def isDrive : List Char → Bool
  | [letter, mark] => letter.isAlpha && (mark = ':' || mark = '|')
  | _ => false

/-- Whether a segment names a drive, alone or before a backslash. -/
def namesDrive (segment : List Char) : Bool :=
  isDrive (segment.takeWhile (· != '\\'))

/-- A drive as it is written, with a colon. -/
def writeDrive (segment : List Char) : List Char :=
  segment.take 1 ++ [':']

/-! ## Resolving -/

/-- Goes back by one segment, of which the last is given first, but not past a drive. -/
def back : List (List Char) → List (List Char)
  | [] => []
  | segment :: rest => if namesDrive segment then segment :: rest else rest

/-- A segment as it is kept after `done`. -/
def kept (isFile : Bool) (done : List (List Char)) (segment : List Char) : List Char :=
  if isFile && done.isEmpty && isDrive segment then writeDrive segment
  else Percent.escape Percent.keepsPath segment

/-- Resolves the segments of a path; `done` are those before them, backwards. -/
def resolveAfter (isFile : Bool) : (done segments : List (List Char)) → List (List Char)
  | done, [] => done.reverse
  | done, [segment] =>
    if isDotDot segment then ([] :: back done).reverse
    else if isDot segment then ([] :: done).reverse
    else (kept isFile done segment :: done).reverse
  | done, segment :: rest =>
    if isDotDot segment then resolveAfter isFile (back done) rest
    else if isDot segment then resolveAfter isFile done rest
    else resolveAfter isFile (kept isFile done segment :: done) rest

/-- Resolves the segments of a path. -/
def resolve (isFile : Bool) (segments : List (List Char)) : List (List Char) :=
  resolveAfter isFile [] segments

/-- A path with a slash before every segment. -/
def write (segments : List (List Char)) : String :=
  String.ofList (segments.flatMap ('/' :: ·))

/-- Whether a path starts with a drive. -/
def startsWithDrive (segments : List (List Char)) : Bool :=
  match segments with
  | first :: _ => isDrive first
  | [] => false

end Gadfly.Path
