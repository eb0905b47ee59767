import Covenant.Files.Host
import Covenant.Files.Path
import Covenant.Guard.Scan
/-!
# Scanning folders

`scanFolder` looks at every file of a known language in a folder and the folders in it. Files go by
their paths from the folder, in the order of the names at each step.

* Folders that hold what was built or fetched are left out, but not the folder that is asked for.
* Files that are too large or not UTF-8 are left out.
-/

namespace Covenant.Guard

open Covenant.Files Covenant.Text

/-- The names of folders that are not entered. -/
def skippedFolders : List String := [
  "node_modules", "target", "dist", "build", ".git", "vendor", "__pycache__", ".venv", "venv",
  ".gradle", "out"]

/-- The most bytes of a file that is looked at. -/
def maxFileBytes : Nat := 2 * 1024 * 1024

/-- The path of what stands at a place in a folder. -/
def pathAt (folder : String) : Place → String
  | [] => folder
  | place => Path.join folder (joinStrings "/" place)

/-- The places of the files in a tree that are looked at. -/
def scannedPlaces (folder : String) (tree : FileTree Nat) : List Place :=
  ((tree.sorted.files []).filter fun (place, size) =>
    (Language.ofPath? (pathAt folder place)).isSome && size ≤ maxFileBytes).map Prod.fst

/-- The report on the file at a place in a folder. -/
def scanPlace [Monad m] [Host m] (rules : List Rule) (folder : String) (place : Place) :
    ExceptT GuardError m Report := do
  let path := pathAt folder place
  let content ← (Host.read (m := m) path).adapt fun fault => .io (path ++ ": " ++ fault.message)
  match String.fromUTF8? content with
  | some contents => return scanFile rules (joinStrings "/" place) contents
  | none => return .empty

/-- The report on the files at places in a folder. -/
def scanPlaces [Monad m] [Host m] (rules : List Rule) (folder : String) :
    List Place → ExceptT GuardError m Report
  | [] => return .empty
  | place :: rest => do
    let report ← scanPlace (m := m) rules folder place
    return report.append (← scanPlaces rules folder rest)

/-- The report on a folder, or on one file. -/
def scanFolder [Monad m] [Host m] (rules : List Rule) (folder : String) :
    ExceptT GuardError m Report := do
  let enter := fun name => !skippedFolders.contains name
  let tree ← (Host.survey (m := m) enter folder).adapt fun fault =>
    .io (folder ++ ": " ++ fault.message)
  scanPlaces rules folder (scannedPlaces folder tree)

end Covenant.Guard
