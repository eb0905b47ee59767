import Covenant.Files.FileTree
/-!
# Hosts

What a command needs from the machine that it runs on: files, folders, a place for its output and
the answers of servers.

* Commands are written for every host; the program runs them on the machine itself, and a
  `Workspace` is a host whose files are a value.
-/

namespace Covenant.Files

/-- Why something was not done to a file or folder. -/
inductive FileFault where
  | notFound
  | alreadyThere
  | notFolder
  | isFolder
  | nameTooLong
  | notText
  | other (text : String)
deriving Repr, DecidableEq, Inhabited

/-- The fault in words. -/
def FileFault.message : FileFault → String
  | .notFound => "No such file or directory (os error 2)"
  | .alreadyThere => "File exists (os error 17)"
  | .notFolder => "Not a directory (os error 20)"
  | .isFolder => "Is a directory (os error 21)"
  | .nameTooLong => "File name too long (os error 36)"
  | .notText => "stream did not contain valid UTF-8"
  | .other text => text

/-- What a server answers. -/
structure ServerAnswer where
  status : Nat
  body : ByteArray
deriving Inhabited

/-- A machine with files. -/
class Host (m : Type → Type) where
  /-- The content of the file at a path. -/
  read : String → ExceptT FileFault m ByteArray
  /-- What stands at a path and below it, with the sizes of the files; folders below the path whose
  names are not entered are left out. -/
  survey : (String → Bool) → String → ExceptT FileFault m (FileTree Nat)
  /-- Something stands at the path. -/
  isThere : String → m Bool
  /-- Makes the folder at a path and the folders that it lies in, so far as they are missing. -/
  makeFolders : String → ExceptT FileFault m Unit
  /-- Makes an empty file at a path at which nothing stands. -/
  create : String → ExceptT FileFault m Unit
  /-- Writes a content into the empty file at a path, until it has arrived there; where that fails,
  the file may hold a part of it. -/
  fill : String → ByteArray → ExceptT FileFault m Unit
  /-- Moves the file at the first path to the second one, also over a file. -/
  rename : String → String → ExceptT FileFault m Unit
  /-- Removes the file at a path. -/
  remove : String → ExceptT FileFault m Unit
  /-- A text for the name of a temporary file; asked again, it is another one. -/
  mark : m String
  /-- Writes to the output. -/
  say : String → ExceptT FileFault m Unit
  /-- What the server of an address answers within a number of milliseconds. -/
  fetch : String → Nat → ExceptT String m ServerAnswer

/-- The text in the file at a path. -/
def readText [Monad m] [Host m] (path : String) : ExceptT FileFault m String := do
  match String.fromUTF8? (← Host.read path) with
  | some text => return text
  | none => throw .notText

end Covenant.Files
