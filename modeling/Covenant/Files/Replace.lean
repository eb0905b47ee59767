import Covenant.Files.Host
import Covenant.Files.Path
/-!
# Writing a file as a whole

A file is written beside its path under a name of its own and then moved there, so that a reader
finds either the old file or the new one.

* Missing folders are made first.
* If the content cannot be written, the new file is removed.
* If the file cannot be moved and something stands at the path, that is removed and the file moved
  again; if nothing stands there, the new file is removed.
-/

namespace Covenant.Files

/-- Why a file was not written. -/
inductive WriteFault where
  /-- The path does not end in a name. -/
  | noFileName
  /-- Every temporary name that was tried is in use. -/
  | noTemporaryName
  | file (fault : FileFault)
deriving Repr, DecidableEq, Inhabited

/-- The fault in words. -/
def WriteFault.message : WriteFault → String
  | .noFileName => "output path does not include a file name"
  | .noTemporaryName => "failed to allocate temporary output path"
  | .file fault => fault.message

/-- The number of temporary names that are tried. -/
def temporaryNames : Nat := 16

/-- The path of a temporary file beside a path with a file name. -/
def temporaryPath (path name mark : String) : String :=
  Path.join (Path.parent path) ("." ++ name ++ ".tmp." ++ mark)

/-- Makes an empty temporary file beside a path, under the first of some names that is not in
use. -/
def createBeside [Monad m] [Host m] (path name : String) : Nat → ExceptT WriteFault m String
  | 0 => throw .noTemporaryName
  | names + 1 => do
    let temporary := temporaryPath path name (← Host.mark (m := m))
    match ← (Host.create (m := m) temporary).run with
    | .ok () => return temporary
    | .error .alreadyThere => createBeside path name names
    | .error fault => throw (.file fault)

/-- Removes a temporary file, if that can be done, and fails. -/
def giveUp [Monad m] [Host m] (temporary : String) (fault : FileFault) :
    ExceptT FileFault m Unit := do
  try Host.remove (m := m) temporary catch _ => pure ()
  throw fault

/-- Writes a content into a temporary file; if that fails, the file is removed. -/
def fillTemporary [Monad m] [Host m] (temporary : String) (content : ByteArray) :
    ExceptT FileFault m Unit := do
  try Host.fill (m := m) temporary content catch fault => giveUp temporary fault

/-- Makes a temporary file with a content beside a path. -/
def writeBeside [Monad m] [Host m] (path name : String) (content : ByteArray) :
    ExceptT WriteFault m String := do
  let temporary ← createBeside path name temporaryNames
  (fillTemporary (m := m) temporary content).adapt .file
  return temporary

/-- Moves a temporary file to a path. -/
def moveOver [Monad m] [Host m] (temporary path : String) : ExceptT FileFault m Unit := do
  try Host.rename (m := m) temporary path
  catch fault =>
    if ← Host.isThere (m := m) path then
      Host.remove (m := m) path
      Host.rename (m := m) temporary path
    else giveUp temporary fault

/-- Makes the folders that a path lies in. -/
def makeParents [Monad m] [Host m] (path : String) : ExceptT FileFault m Unit :=
  let parent := Path.parent path
  if parent.isEmpty then pure () else Host.makeFolders parent

/-- Writes a file as a whole. -/
def writeFile [Monad m] [Host m] (path : String) (content : ByteArray) :
    ExceptT WriteFault m Unit := do
  (makeParents path).adapt .file
  match Path.fileName? path with
  | none => throw .noFileName
  | some name =>
    let temporary ← writeBeside path name content
    (moveOver temporary path).adapt .file

end Covenant.Files
