import Covenant.Text.Split
/-!
# Paths

A path is a text whose parts are separated by slashes.

* Repeated slashes, a slash at the end and a `.` that is not the first part count for nothing; `..`
  is kept, since what it means depends on what it stands in.
* `fileName?`, `extension?`, `parent` and `join` go by the parts.
-/

namespace Covenant.Files

open Covenant.Text

/-- A part of a path. -/
inductive Component where
  /-- The slash at the start. -/
  | root
  /-- A `.` at the start. -/
  | here
  | up
  | name (text : String)
deriving Repr, DecidableEq, Inhabited

/-- The part as it is written. -/
def Component.text : Component → String
  | .root => "/"
  | .here => "."
  | .up => ".."
  | .name text => text

namespace Path

/-- The part that a piece between slashes stands for, if it counts. -/
def component? (piece : List Char) : Option Component :=
  if piece.isEmpty || piece == ['.'] then none
  else if piece == ['.', '.'] then some .up
  else some (.name (.ofList piece))

/-- What stands at the start of a path, apart from names. -/
def leading (pieces : List (List Char)) : List Component :=
  match pieces with
  | [] :: _ :: _ => [.root]
  | ['.'] :: _ => [.here]
  | _ => []

/-- The parts of a path. -/
def components (path : String) : List Component :=
  let pieces := splitAtChar '/' path.toList
  leading pieces ++ pieces.filterMap component?

/-- The path with these parts. -/
def ofComponents : List Component → String
  | [] => ""
  | .root :: rest => "/" ++ joinStrings "/" (rest.map Component.text)
  | parts => joinStrings "/" (parts.map Component.text)

/-- The path without its last part; the empty text if there is no other part. -/
def parent (path : String) : String := ofComponents (components path).dropLast

/-- The last part, if it is a name. -/
def fileName? (path : String) : Option String :=
  match (components path).getLast? with
  | some (.name text) => some text
  | _ => none

/-- What comes after the last point of a name; a name that begins with its last point has none. -/
def extensionOf? (name : String) : Option String :=
  match (splitAtChar '.' name.toList).reverse with
  | last :: before => if before.isEmpty || before == [[]] then none else some (.ofList last)
  | [] => none

/-- The extension of the file name of a path. -/
def extension? (path : String) : Option String := (fileName? path).bind extensionOf?

/-- A path inside of another one; one that begins at the root stays as it is. -/
def join (folder path : String) : String :=
  if path.toList.head? == some '/' || folder.isEmpty then path
  else if folder.toList.getLast? == some '/' then folder ++ path
  else folder ++ "/" ++ path

/-- Every part of the path is a name, and there is one. -/
def isPlain (path : String) : Bool :=
  !path.isEmpty && (components path).all fun
    | .name _ => true
    | _ => false

/-- The path ends in a way that only a folder can be meant. -/
def meansFolder (path : String) : Bool :=
  match (splitAtChar '/' path.toList).reverse with
  | last :: _ :: _ => last.isEmpty || last == ['.'] || last == ['.', '.']
  | _ => path == "." || path == ".."

end Path

end Covenant.Files
