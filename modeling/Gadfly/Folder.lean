/-
  Gadfly.Folder

  A folder to work in, and the files in it and around it.

  Files are known by the parts of their paths from the top (`Folder.find`). `Folder.look` follows
  a path that starts with a slash from there and any other from the folder, which also has a name
  of its own. Empty parts and single dots stay where they are, double dots go back, and at the top
  they stay. Only a directory can be gone on from (`Folder.leadsOn`).

  Main definitions: `Folder`, `Folder.find`, `Folder.follow`, `Folder.look`.
-/

import Gadfly.Settings.File
import Gadfly.Text.Search

namespace Gadfly

/-- Files by the parts of their paths. -/
structure Folder where
  /-- The name of the folder itself. -/
  name : String
  /-- Where the folder is, from the top. -/
  place : List String
  /-- Files and what is in them, from the top. -/
  files : List (List String × SettingsFile)

namespace Folder

/-- Why a directory cannot be read as a file. -/
def directoryReason : String := "Is a directory (os error 21)"

/-- Whether a place leads to the folder or to a file. -/
def leadsOn (folder : Folder) (place : List String) : Bool :=
  place.isPrefixOf folder.place || folder.files.any (place.isPrefixOf ·.1)

/-- What is found at a place: a file, or the directory of one. -/
def find (folder : Folder) (place : List String) : SettingsFile :=
  match folder.files.lookup place with
  | some file => file
  | none => if folder.leadsOn place then .blocked directoryReason else .missing

/-- Follows the parts of a path from a place. What cannot be read is a directory. -/
def follow (folder : Folder) (here : List String) : List String → SettingsFile
  | [] => folder.find here
  | part :: rest =>
    match folder.find here with
    | .blocked _ =>
      if part = "" || part = "." then folder.follow here rest
      else if part = ".." then folder.follow here.dropLast rest
      else folder.follow (here ++ [part]) rest
    | _ => .missing

/-- The parts of a path. -/
def parts (path : List Char) : List String :=
  (Text.cutWhere (· = '/') path).map String.ofList

/-- What is found at a path. -/
def look (folder : Folder) (path : String) : SettingsFile :=
  match Text.stripLead folder.name.toList path.toList, path.toList with
  | some [], _ => folder.find folder.place
  | some ('/' :: rest), _ => folder.follow folder.place (parts rest)
  | _, '/' :: rest => folder.follow [] (parts rest)
  | _, path => folder.follow folder.place (parts path)

end Folder

end Gadfly
