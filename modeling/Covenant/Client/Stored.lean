import Covenant.Client.Emit
import Covenant.Files.Replace
/-!
# Stored projects

* `store` writes the files of a project into a folder, each as a whole and in the order of their
  paths. No path leads out of the folder.
* `changes` compares a folder with the files that belong there; files that do not belong there do
  not count.
-/

namespace Covenant.Client

open Covenant.Files Covenant.Text

/-- The path of a file of a project in a folder. -/
def pathIn (folder key : String) : Except ClientError String :=
  if Path.isPlain key then .ok (Path.join folder key) else .error (.badPath key)

/-! ## 1. Writing -/

/-- Writes files into a folder; it returns their paths. -/
def storeAll [Monad m] [Host m] (folder : String) :
    List (String × String) → ExceptT ClientError m (List String)
  | [] => return []
  | (key, text) :: rest => do
    let path ← pathIn folder key
    (writeFile (m := m) path text.toUTF8).adapt fun fault => .files path fault.message
    return path :: (← storeAll folder rest)

/-- Writes a project into a folder; it returns the paths of its files. -/
def store [Monad m] [Host m] (folder : String) (files : FileSet) :
    ExceptT ClientError m (List String) :=
  storeAll folder files.toList

/-! ## 2. Comparing -/

/-- A file that is not as it was generated. -/
inductive Change where
  | missing (key : String)
  | changed (key : String)
deriving Repr, DecidableEq

/-- The change in words. -/
def Change.text : Change → String
  | .missing key => "missing " ++ key
  | .changed key => "changed " ++ key

/-- How a file differs from what was generated, if it does. -/
def changeAt [Monad m] [Host m] (folder key text : String) :
    ExceptT ClientError m (Option Change) := do
  let path ← pathIn folder key
  match ← (readText (m := m) path).run with
  | .ok stored => return if stored == text then none else some (.changed key)
  | .error .notFound => return some (.missing key)
  | .error fault => throw (.files path fault.message)

/-- How files differ from what was generated. -/
def changesAmong [Monad m] [Host m] (folder : String) :
    List (String × String) → ExceptT ClientError m (List Change)
  | [] => return []
  | (key, text) :: rest => do
    let change ← changeAt (m := m) folder key text
    return change.toList ++ (← changesAmong folder rest)

/-- How the files of a folder differ from a project. -/
def changes [Monad m] [Host m] (folder : String) (files : FileSet) :
    ExceptT ClientError m (List Change) :=
  changesAmong folder files.toList

/-- The changes in a folder, in words. -/
def changesText (folder : String) (changes : List Change) : String :=
  joinStrings ", " (changes.map Change.text) ++ " under " ++ folder ++ ". Run apiforge generate."

/-- Fails if the files of a folder differ from a project. -/
def check [Monad m] [Host m] (folder : String) (files : FileSet) : ExceptT ClientError m Unit := do
  match ← changes (m := m) folder files with
  | [] => return
  | found => throw (.drift (changesText folder found))

end Covenant.Client
