/-
  Gadfly.Toml.Basic

  TOML values, and how the statements of a document build up its tables.

  A table can come about in four ways (`Origin`), and the way decides what may still be added to
  it. A table between braces is complete. A table with a header of its own may not get a second
  one (`openTable`). A table that a header only passed through on its way may still get its own
  header. A table that a dotted key passed through (`setKey`) may be reached by dotted keys only.

  Main definitions: `Toml`, `Origin`, `Statement`, `build`.
-/

namespace Gadfly

/-- How a table came about. -/
inductive Toml.Origin where
  /-- Written between braces. -/
  | inline
  /-- Opened by a header of its own. -/
  | header
  /-- Passed through by the header of a table inside it. -/
  | path
  /-- Passed through by a dotted key. -/
  | dotted
  deriving Repr, DecidableEq

/-- A TOML value. -/
inductive Toml where
  | string (value : String)
  | integer (value : Int)
  | float (value : Float)
  | boolean (value : Bool)
  /-- A date, a time of day, or both. -/
  | moment
  | array (items : List Toml)
  | table (origin : Toml.Origin) (members : List (String × Toml))
  /-- Tables under one name, each with a header of its own. -/
  | tables (elements : List (List (String × Toml)))
  deriving Inhabited

namespace Toml

/-- The contents of a table. -/
abbrev Members := List (String × Toml)

/-- The value under a name. -/
def find? (members : Members) (name : String) : Option Toml :=
  (members.find? (·.1 == name)).map (·.2)

/-! ## Changing tables -/

/-- Changes the value under a name, or puts one there; `f` sees what is there. -/
def alter (name : String) (f : Option Toml → Option Toml) : Members → Option Members
  | [] => (f none).map fun value => [(name, value)]
  | (other, value) :: rest =>
    if name = other then (f (some value)).map fun value => (name, value) :: rest
    else (alter name f rest).map ((other, value) :: ·)

/-- Changes the table at the end of a path. Tables missing on the way are made, with the given
origin. A dotted key does not enter a table with a header, nothing enters a table between
braces, and of tables under one name the last is entered. -/
def within (made : Origin) :
    (path : List String) → (f : Origin → Members → Option Members) → Origin → Members →
      Option Members
  | [], f, origin, members => f origin members
  | name :: path, f, _, members =>
    alter name (fun
      | none => (within made path f made []).map (.table made)
      | some (.table origin inner) =>
        if origin = .inline ∨ (made = .dotted ∧ origin = .header) then none
        else (within made path f origin inner).map (.table origin)
      | some (.tables elements) =>
        match elements.getLast? with
        | some last =>
          (within made path f .header last).map fun last => .tables (elements.dropLast ++ [last])
        | none => none
      | some _ => none)
      members

/-- Puts a value under a name that is still free. -/
def putNew (name : String) (value : Toml) : Members → Option Members :=
  alter name fun
    | none => some value
    | some _ => none

/-- Puts a value under a dotted key. Only a table that dotted keys made can be reached by one. -/
def setKey (path : List String) (name : String) (value : Toml) : Members → Option Members :=
  within .dotted path
    (fun origin members =>
      if path.isEmpty || origin = .dotted then putNew name value members else none)
    .header

/-- Opens the table under a path by its header. -/
def openTable (path : List String) (name : String) : Members → Option Members :=
  within .path path
    (fun _ members =>
      alter name (fun
        | none => some (.table .header [])
        | some (.table .path inner) => some (.table .header inner)
        | some _ => none)
        members)
    .header

/-- Opens a further table under a path that several tables share. -/
def openElement (path : List String) (name : String) : Members → Option Members :=
  within .path path
    (fun _ members =>
      alter name (fun
        | none => some (.tables [[]])
        | some (.tables elements) => some (.tables (elements ++ [[]]))
        | some _ => none)
        members)
    .header

/-! ## Documents -/

/-- One statement of a document. A key is a path of names and a last name. -/
inductive Statement where
  | assign (path : List String) (name : String) (value : Toml)
  | table (path : List String) (name : String)
  | element (path : List String) (name : String)

/-- A document under construction: its table, and the path to the table that keys go to. -/
structure Draft where
  members : Members
  focus : List String

/-- Carries out one statement. -/
def Draft.add (draft : Draft) : Statement → Option Draft
  | .assign path name value =>
    (within .path draft.focus (fun _ => setKey path name value) .header draft.members).map
      fun members => { draft with members }
  | .table path name => (openTable path name draft.members).map (⟨·, path ++ [name]⟩)
  | .element path name => (openElement path name draft.members).map (⟨·, path ++ [name]⟩)

/-- The table that the statements of a document describe. -/
def build (statements : List Statement) : Option Members :=
  (statements.foldlM Draft.add ⟨[], []⟩).map (·.members)

end Toml

end Gadfly
