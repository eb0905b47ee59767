import Covenant.Command.Invocation
import Covenant.Command.Run
import Std.Time.DateTime.Timestamp
/-!
# The program

The machine that the program runs on as a host, and the entry point. Nothing is decided here: what
is asked for comes from the arguments, and what is done from `perform`.
-/

namespace Covenant

open Covenant.Command Covenant.Files Covenant.Time

/-! ## 1. The machine as a host -/

/-- The fault behind an error of the machine. -/
def faultOf : IO.Error → FileFault
  | .noFileOrDirectory _ _ _ => .notFound
  | .alreadyExists _ _ _ => .alreadyThere
  | .inappropriateType _ 20 _ => .notFolder
  | .inappropriateType _ 21 _ => .isFolder
  | reason => .other (toString reason)

/-- Does something that may fail. -/
def attempt (action : IO α) : ExceptT FileFault IO α :=
  .mk do try return .ok (← action) catch reason => return .error (faultOf reason)

/-- What stands at a path, as an entry of a folder. -/
def entryAt (path : String) : IO.FS.DirEntry := ⟨path, ""⟩

/-- The entry is a folder. -/
def isFolder (entry : IO.FS.DirEntry) : IO Bool := do
  return (← entry.root.metadata).type == .dir

/-- What stands below a folder. -/
partial def surveyFolder (enter : String → Bool) (folder : IO.FS.DirEntry) :
    IO (FileTree Nat) := do
  let mut entries := #[]
  for entry in ← folder.root.readDir do
    let name := entry.fileName
    let found ← entry.path.symlinkMetadata
    match found.type with
    | .dir =>
      if enter name then
        entries := entries.push (name, ← surveyFolder enter ⟨entry.path, ""⟩)
    | .file => entries := entries.push (name, .file found.byteSize.toNat)
    | _ => pure ()
  return .folder entries.toList

/-- What stands at a path. -/
def surveyAt (enter : String → Bool) (path : String) : IO (FileTree Nat) := do
  let entry := entryAt path
  let found ← entry.root.metadata
  if found.type == .dir then surveyFolder enter entry
  else return .file found.byteSize.toNat

/-- Makes one folder unless it is there. -/
def makeFolder (path : String) : IO Unit := do
  try IO.FS.createDir path
  catch reason => unless ← (entryAt path).root.isDir do throw reason

/-- Makes a folder; if something before it is missing, it makes that first. -/
partial def makeFolders (path : String) : IO Unit := do
  try makeFolder path
  catch
    | .noFileOrDirectory _ _ _ =>
      let parent := Path.parent path
      unless parent.isEmpty do makeFolders parent
      makeFolder path
    | reason => throw reason

/-- Writes a content into a file, until it has arrived there. -/
def fillFile (path : String) (content : ByteArray) : IO Unit := do
  let handle ← IO.FS.Handle.mk path .write
  handle.write content
  handle.flush

instance : Host IO where
  read path := do
    if ← attempt (isFolder (entryAt path)) then throw .isFolder
    attempt (IO.FS.readBinFile path)
  survey enter path := attempt (surveyAt enter path)
  isThere path := (entryAt path).root.pathExists
  makeFolders path := attempt (unless path.isEmpty do makeFolders path)
  create path := attempt (discard (IO.FS.Handle.mk path .writeNew))
  fill path content := attempt (fillFile path content)
  rename source target := attempt (IO.FS.rename source target)
  remove path := attempt (IO.FS.removeFile path)
  mark := return toString (← IO.monoNanosNow)
  say text := attempt do
    let output ← IO.getStdout
    output.putStr text
    output.flush
  fetch _ _ := throw "this program was built without a way to reach servers"

/-- The present moment. -/
def presentMoment : IO Moment := do
  let now ← Std.Time.Timestamp.now
  return ⟨now.val.second.val, now.val.nano.val.toNat, 0⟩

/-- Says what was asked for apart from commands, or how the program is used; the result is the exit
code. -/
def stop : Stop → IO UInt32
  | .version => do
    IO.println versionText
    return 0
  | .help => do
    IO.print usageText
    return 0
  | .usage => do
    IO.eprint usageText
    return 2

/-- Does what the arguments ask for; the result is the exit code. -/
def perform (invocation : Invocation) : IO UInt32 := do
  let setting ← IO.getEnv "APIFORGE_CONFIG"
  let now ← presentMoment
  match ← (Command.perform (m := IO) invocation.config setting now invocation.request).run with
  | .ok ending => return ending.code.toUInt32
  | .error reason =>
    IO.eprintln ("apiforge: " ++ reason.message)
    return 1

end Covenant

/-- Runs the program with its arguments; the result is the exit code. -/
def main (arguments : List String) : IO UInt32 :=
  match Covenant.Command.Invocation.ofArguments arguments with
  | .error reason => Covenant.stop reason
  | .ok invocation => Covenant.perform invocation
