/-
  Gadfly.Http.Url

  Addresses.

  `Url.parse?` takes an address apart leniently: blanks around it and line breaks inside it are
  dropped (`cleaned`), and in an address on the web or of a file (`Kind`) a backslash counts as a
  slash. Hosts and paths are brought into one form, the usual endpoint is left out, and characters
  that may not stand in a part are written as percent signs and numbers. `Url.write` puts the
  parts together again.

  Main definitions: `Url`, `Url.parse?`, `Url.write`, `Url.target`, `Url.hasHost`,
  `Url.withoutUser`, `Url.trimSlashes`, `Url.withQuery`.
-/

import Gadfly.Http.Host
import Gadfly.Http.Path

namespace Gadfly

open Gadfly.Text Gadfly.Decimal

/-- What stands between the two slashes and the path. -/
structure Authority where
  /-- A name, before the host. -/
  user : String
  /-- A password, after the name. -/
  password : Option String
  host : Host
  /-- The endpoint, unless it is the usual one. -/
  endpoint : Option Nat
  deriving Repr, DecidableEq

/-- An address. -/
structure Url where
  scheme : String
  authority : Option Authority
  path : String
  query : Option String
  fragment : Option String
  deriving Repr, DecidableEq

namespace Url

/-! ## Schemes -/

/-- Line breaks and tabs are dropped wherever they are. -/
def isDropped (c : Char) : Bool :=
  c = '\n' || c = '\r' || c = '\t'

/-- Blanks and control characters are dropped at both ends. -/
def isEdge (c : Char) : Bool :=
  c.toNat ≤ 0x20

/-- The text of an address without what does not count. -/
def cleaned (text : List Char) : List Char :=
  (((text.dropWhile isEdge).reverse.dropWhile isEdge).reverse).filter (!isDropped ·)

/-- The characters of a scheme after the first, which is a letter. -/
def isSchemeChar (c : Char) : Bool :=
  c.isAlphanum || c = '+' || c = '-' || c = '.'

/-- The scheme, in lower case, and what follows its colon. -/
def splitScheme? (text : List Char) : Option (String × List Char) :=
  match text with
  | c :: _ =>
    match text.dropWhile isSchemeChar with
    | ':' :: rest =>
      if c.isAlpha then
        some (String.ofList ((text.takeWhile isSchemeChar).map Char.toLower), rest)
      else none
    | _ => none
  | [] => none

/-- What the scheme of an address says about the rest. -/
inductive Kind where
  /-- On the web: a host comes first, and it has a usual endpoint. -/
  | web (usual : Nat)
  | file
  | other
  deriving Repr, DecidableEq

/-- The kind of a scheme. -/
def Kind.ofScheme (scheme : String) : Kind :=
  match scheme with
  | "http" | "ws" => .web 80
  | "https" | "wss" => .web 443
  | "ftp" => .web 21
  | "file" => .file
  | _ => .other

/-- Whether a character divides the path. -/
def Kind.isSlash (kind : Kind) (c : Char) : Bool :=
  c = '/' || (kind != .other && c = '\\')

/-- What may stand in the query. -/
def Kind.keepsQuery (kind : Kind) : Char → Bool :=
  if kind = .other then Percent.keepsQuery else Percent.keepsWebQuery

/-! ## Authorities -/

/-- The parts of a text before and after a mark, which is dropped. -/
def splitMark (mark : Char) (text : List Char) : List Char × Option (List Char) :=
  match splitAtFirst (· = mark) text with
  | some (front, back) => (front, some back)
  | none => (text, none)

/-- Name and password, as they are written. -/
def readUser (text : List Char) : String × Option String :=
  let (name, password) := splitMark ':' text
  let write := fun part => String.ofList (Percent.escape Percent.keepsUser part)
  (write name, if password.getD [] = [] then none else password.map write)

/-- Host and endpoint: the parts before and after the first colon that is not in brackets. -/
def splitEndpoint (inside : Bool) : List Char → List Char × Option (List Char)
  | [] => ([], none)
  | c :: rest =>
    if c = ':' && !inside then ([], some rest)
    else
      let (host, digits) := splitEndpoint (c = '[' || (inside && c != ']')) rest
      (c :: host, digits)

/-- An endpoint other than the usual one; none for the usual one and for no digits at all. -/
def endpoint? (kind : Kind) (digits : List Char) : Option (Option Nat) :=
  if digits.isEmpty then some none
  else if !digits.all Char.isDigit || 65535 < digitsValue digits then none
  else if kind = .web (digitsValue digits) then some none
  else some (some (digitsValue digits))

/-- The host that a text spells. On the web there is always one. -/
def host? (kind : Kind) (text : List Char) : Option Host :=
  if kind = .other then Host.ofOther? text else Host.ofWeb? text

/-- What stands before the last `@` of a text, and after it. -/
def splitUser (text : List Char) : Option (List Char) × List Char :=
  if text.contains '@' then
    let host := afterLast '@' text
    (some (text.take (text.length - host.length - 1)), host)
  else (none, text)

/-- The authority that a text spells, and what is left of it: a backslash ends an endpoint.
Without a host there is nothing else. -/
def authority? (kind : Kind) (text : List Char) : Option (Authority × List Char) := do
  let (login, text) := splitUser text
  let (user, password) := readUser (login.getD [])
  let (hostText, rest) := splitEndpoint false text
  let digits := rest.map (·.takeWhile (· != '\\'))
  let host ← host? kind hostText
  let endpoint ← endpoint? kind (digits.getD [])
  if host = .none && (digits.isSome || login = some [] || user != "" || password.isSome) then none
  else some (⟨user, password, host, endpoint⟩, (rest.getD []).dropWhile (· != '\\'))

/-! ## Paths -/

/-- The segments of a path, after its first slash. -/
def segments (kind : Kind) (text : List Char) : List (List Char) :=
  Path.resolve (kind = .file) (cutWhere kind.isSlash text)

/-- The path after a host. On the web it is never empty. -/
def pathAfterHost (kind : Kind) : List Char → String
  | [] => if kind = .other then "" else "/"
  | _ :: rest => Path.write (segments kind rest)

/-- A path with one slash at its front. -/
def oneSlash (path : String) : String :=
  String.ofList ('/' :: path.toList.dropWhile (· = '/'))

/-! ## Kinds -/

/-- An address on the web: the host comes after any number of slashes. -/
def readWeb? (kind : Kind) (text : List Char) : Option (Option Authority × String) := do
  let text := text.dropWhile kind.isSlash
  let (authority, _) ← authority? kind (text.takeWhile (!kind.isSlash ·))
  some (some authority, pathAfterHost kind (text.dropWhile (!kind.isSlash ·)))

/-- The authority of a file, on the host given. -/
def fileAuthority (host : Host) : Option Authority :=
  some ⟨"", none, host, none⟩

/-- The file at the segments given, on this machine. -/
def localFile (segments : List (List Char)) : Option Authority × String :=
  (fileAuthority .none, oneSlash (Path.write segments))

/-- A file. The host comes after two slashes, but a drive is no host; a file on a drive, and one
on `localhost`, is on this machine. -/
def readFile? (text : List Char) : Option (Option Authority × String) :=
  let isSlash := Kind.file.isSlash
  match text with
  | a :: b :: rest =>
    if isSlash a && isSlash b then
      let hostText := rest.takeWhile (!isSlash ·)
      if hostText.isEmpty || Path.isDrive hostText then some (localFile (segments .file rest))
      else do
        let host ← Host.ofWeb? hostText
        let path := rest.drop hostText.length
        if host = .name "localhost" then some (localFile (segments .file path))
        else
          let segments := segments .file path.tail
          let host := if Path.startsWithDrive segments then .none else host
          some (fileAuthority host, oneSlash (Path.write segments))
    else some (localFile (segments .file (if isSlash a then b :: rest else text)))
  | [a] => some (localFile (segments .file (if isSlash a then [] else [a])))
  | [] => some (localFile (segments .file []))

/-- Any other address: its host, if it has one, and its path. What is left of the authority
belongs to the path. -/
def readOther? (text : List Char) : Option (Option Authority × String) :=
  match text with
  | '/' :: '/' :: rest => do
    let (authority, left) ← authority? .other (rest.takeWhile (· != '/'))
    let path := rest.dropWhile (· != '/')
    some (some authority, pathAfterHost .other (if left.isEmpty then path else '/' :: left ++ path))
  | '/' :: rest => some (none, Path.write (segments .other rest))
  | _ => some (none, String.ofList (Percent.escape Percent.isPrintable text))

/-! ## Whole addresses -/

/-- Takes an address apart. There is none without a scheme, or with a host that cannot be. -/
def parse? (s : String) : Option Url := do
  let (scheme, text) ← splitScheme? (cleaned s.toList)
  let kind := Kind.ofScheme scheme
  let (text, fragment) := splitMark '#' text
  let (text, query) := splitMark '?' text
  let (authority, path) ← match kind with
    | .web _ => readWeb? kind text
    | .file => readFile? text
    | .other => readOther? text
  some {
    scheme, authority, path
    query := query.map fun q => String.ofList (Percent.escape kind.keepsQuery q)
    fragment := fragment.map fun f => String.ofList (Percent.escape Percent.keepsFragment f) }

/-- An optional part behind its mark. -/
def marked (mark : String) : Option String → String
  | some part => mark ++ part
  | none => ""

/-- Name and password before the host. -/
def writeUser (authority : Authority) : String :=
  if authority.user = "" && authority.password.isNone then ""
  else authority.user ++ marked ":" authority.password ++ "@"

/-- An authority as it is written. -/
def writeAuthority (authority : Authority) : String :=
  writeUser authority ++ authority.host.write ++ marked ":" (authority.endpoint.map toString)

/-- What is asked of the host: path and query. -/
def target (url : Url) : String :=
  url.path ++ marked "?" url.query

/-- What keeps a path without an authority from being taken for one. -/
def guardDot (url : Url) : String :=
  if url.authority.isNone && url.path.startsWith "//" then "/." else ""

/-- The text of an address. -/
def write (url : Url) : String :=
  url.scheme ++ ":" ++ marked "//" (url.authority.map writeAuthority) ++ url.guardDot ++
    url.target ++ marked "#" url.fragment

/-- Whether an address leads to a host. -/
def hasHost (url : Url) : Bool :=
  match url.authority with
  | some authority => authority.host != .none
  | none => false

/-- Whether name or password can be read, and say something. -/
def hasLogin (authority : Authority) : Bool :=
  match Percent.decode? authority.user.toList with
  | none => false
  | some user =>
    !user.isEmpty || (authority.password.bind fun p => Percent.decode? p.toList).isSome

/-- An address without name and password, unless they cannot be read. -/
def withoutUser (url : Url) : Url :=
  { url with
    authority := url.authority.map fun authority =>
      if hasLogin authority then { authority with user := "", password := none } else authority }

/-- Drops the slashes at the end of an address, so that a path can follow. -/
def trimSlashes (address : String) : String :=
  String.ofList ((address.toList.reverse.dropWhile (· = '/')).reverse)

/-! ## Parameters -/

/-- What a parameter may hold as it is; a space becomes a plus sign. -/
def encodeParameter (s : String) : String :=
  String.ofList (s.toList.flatMap fun c =>
    if c = ' ' then ['+']
    else if c.isAlphanum || "*-._".toList.contains c then [c]
    else Percent.percentChar c)

/-- Parameters with their values. -/
def encodeParameters (parameters : List (String × String)) : String :=
  "&".intercalate
    (parameters.map fun (name, value) => encodeParameter name ++ "=" ++ encodeParameter value)

/-- Adds parameters to the query. -/
def withQuery (url : Url) (parameters : List (String × String)) : Url :=
  let added := encodeParameters parameters
  let query := match url.query with
    | some query => if query = "" then added else query ++ "&" ++ added
    | none => added
  { url with query := some query }

end Url

end Gadfly
