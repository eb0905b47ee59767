import Covenant.Files.Host
import Covenant.Files.Path
/-!
# Workspaces

A workspace is a machine as a value: a tree of files, the folder in which commands run, and what
they have written to the output.

* A path leads from the folder in which commands run, or from the top if it begins with a slash.
  Each part but the last has to be a folder; `..` leads to the folder around, and at the top it
  leads nowhere.
* What fails changes nothing, except that `makeFolders` keeps the folders that it made before and
  `fill` the bytes that it wrote.
* `InWorkspace` runs the programs of `Host` on a workspace.
-/

namespace Covenant.Files

/-- What keeps a content from being written into a file. -/
structure Trouble where
  /-- The number of bytes that are written all the same. -/
  written : Nat
  text : String

/-- A machine as a value. -/
structure Workspace where
  tree : FileTree ByteArray
  /-- The folder from which paths lead. -/
  here : Place
  /-- All that was written to the output. -/
  output : String
  /-- The number of marks that were given out. -/
  marks : Nat
  /-- What the next contents that are written into files meet, one after the other: a trouble, or
  none. Later ones meet none. -/
  troubles : List (Option Trouble) := []
deriving Inhabited

namespace Workspace

/-- A workspace with nothing in it but the folder in which commands run. -/
def empty : Workspace where
  tree := .folder [("work", .empty)]
  here := ["work"]
  output := ""
  marks := 0

/-! ## 1. Paths -/

/-- The most bytes of a name. -/
def maxName : Nat := 255

/-- The most bytes of a path. -/
def maxPath : Nat := 4095

/-- The path is one that may be followed. -/
def checkPath (path : String) : Except FileFault Unit :=
  if path.isEmpty then .error .notFound
  else if path.toList.contains '\x00' then .error (.other "a path has no null characters")
  else if maxPath < path.utf8ByteSize then .error .nameTooLong
  else .ok ()

/-- The place to which the parts of a path lead from a place. -/
def follow (tree : FileTree ByteArray) : Place → List Component → Except FileFault Place
  | place, [] => .ok place
  | place, part :: rest =>
    match tree.at? place, part with
    | none, _ => .error .notFound
    | some (.file _), _ => .error .notFolder
    | some (.folder _), .root => follow tree [] rest
    | some (.folder _), .here => follow tree place rest
    | some (.folder _), .up => follow tree place.dropLast rest
    | some (.folder _), .name text =>
      if maxName < text.utf8ByteSize then .error .nameTooLong
      else if (tree.at? (place ++ [text])).isNone then .error .notFound
      else follow tree (place ++ [text]) rest

/-- The folder to which the parts of a path lead from a place. -/
def folderAt (tree : FileTree ByteArray) (place : Place) (parts : List Component) :
    Except FileFault Place := do
  let folder ← follow tree place parts
  match tree.at? folder with
  | some (.folder _) => return folder
  | some (.file _) => throw .notFolder
  | none => throw .notFound

/-- The place to which a path leads, and what stands there. -/
def find (w : Workspace) (path : String) : Except FileFault (Place × FileTree ByteArray) := do
  checkPath path
  let place ← follow w.tree w.here (Path.components path)
  match w.tree.at? place with
  | none => throw .notFound
  | some node =>
    if Path.meansFolder path && !node.isFolder then throw .notFolder
    return (place, node)

/-- The place for something new: a name in a folder. -/
def slot (w : Workspace) (path : String) : Except FileFault Place := do
  checkPath path
  let parts := Path.components path
  match parts.getLast? with
  | some (.name text) =>
    let folder ← folderAt w.tree w.here parts.dropLast
    if maxName < text.utf8ByteSize then throw .nameTooLong
    return folder ++ [text]
  | _ => throw .alreadyThere

/-! ## 2. Looking -/

/-- The content of the file at a path. -/
def read (w : Workspace) (path : String) : Except FileFault ByteArray := do
  match ← w.find path with
  | (_, .file content) => return content
  | (_, .folder _) => throw .isFolder

/-- What stands at a path and below it. -/
def survey (w : Workspace) (enter : String → Bool) (path : String) :
    Except FileFault (FileTree Nat) := do
  let (_, node) ← w.find path
  return node.outline enter ByteArray.size

/-- Something stands at the path. -/
def isThere (w : Workspace) (path : String) : Bool := (w.find path).isOk

/-! ## 3. Changing -/

/-- The workspace with something put at a place. -/
def put (w : Workspace) (place : Place) (node : FileTree ByteArray) : Workspace :=
  { w with tree := w.tree.put node place }

/-- Makes one folder: the last part of a path, in the folder to which the others lead. -/
def makeFolder (tree : FileTree ByteArray) (place : Place) (parts : List Component)
    (last : Component) : Except FileFault (FileTree ByteArray) := do
  let folder ← folderAt tree place parts
  match last with
  | .name text =>
    if maxName < text.utf8ByteSize then throw .nameTooLong
    if (tree.at? (folder ++ [text])).isSome then throw .alreadyThere
    return tree.put .empty (folder ++ [text])
  | _ => throw .alreadyThere

/-- Makes one folder unless it is there. -/
def makeLast (tree : FileTree ByteArray) (place : Place) (parts : List Component)
    (last : Component) : Except FileFault Unit × FileTree ByteArray :=
  match makeFolder tree place parts last with
  | .ok tree => (.ok (), tree)
  | .error fault =>
    if (folderAt tree place (parts ++ [last])).isOk then (.ok (), tree) else (.error fault, tree)

/-- Makes the folder of a path, whose last part comes first. Only if it cannot be made because
something before it is missing, the folders that it lies in are made, and then it is tried again. -/
def makeFrom (tree : FileTree ByteArray) (place : Place) :
    List Component → Except FileFault Unit × FileTree ByteArray
  | [] => (.ok (), tree)
  | last :: before =>
    match makeLast tree place before.reverse last with
    | (.error .notFound, _) =>
      match makeFrom tree place before with
      | (.ok (), tree) => makeLast tree place before.reverse last
      | failed => failed
    | made => made

/-- Makes a folder and the folders that it lies in. -/
def makeFolders (w : Workspace) (path : String) : Except FileFault Unit × Workspace :=
  if path.isEmpty then (.ok (), w)
  else match checkPath path with
    | .error fault => (.error fault, w)
    | .ok () =>
      let (result, tree) := makeFrom w.tree w.here (Path.components path).reverse
      (result, { w with tree })

/-- Makes an empty file where nothing stands. -/
def create (w : Workspace) (path : String) : Except FileFault Workspace := do
  let place ← w.slot path
  if (w.tree.at? place).isSome then throw .alreadyThere
  if Path.meansFolder path then throw .isFolder
  return w.put place (.file .empty)

/-- Writes a content into a file, as far as there is no trouble. -/
def fill (w : Workspace) (path : String) (content : ByteArray) :
    Except FileFault Unit × Workspace :=
  match w.find path with
  | .error fault => (.error fault, w)
  | .ok (_, .folder _) => (.error .isFolder, w)
  | .ok (place, .file _) =>
    let u := { w with troubles := w.troubles.tail }
    match w.troubles.head?.join with
    | none => (.ok (), u.put place (.file content))
    | some trouble =>
      (.error (.other trouble.text), u.put place (.file (content.extract 0 trouble.written)))

/-- Moves a file, also over another one. -/
def rename (w : Workspace) (source target : String) : Except FileFault Workspace := do
  let (old, node) ← w.find source
  if node.isFolder then throw .isFolder
  let new ← w.slot target
  if Path.meansFolder target then throw .notFolder
  if ((w.tree.at? new).map FileTree.isFolder).getD false then throw .isFolder
  return { w with tree := w.tree.erase old }.put new node

/-- Removes a file. -/
def remove (w : Workspace) (path : String) : Except FileFault Workspace := do
  let (place, node) ← w.find path
  if node.isFolder then throw .isFolder
  return { w with tree := w.tree.erase place }

/-- Writes a file, also over another one. -/
def write (w : Workspace) (path : String) (content : ByteArray) : Except FileFault Workspace := do
  let place ← w.slot path
  if Path.meansFolder path then throw .isFolder
  if ((w.tree.at? place).map FileTree.isFolder).getD false then throw .isFolder
  return w.put place (.file content)

end Workspace

/-! ## 4. Running -/

/-- A program that runs in a workspace. -/
abbrev InWorkspace := StateM Workspace

/-- A program that only looks. -/
def InWorkspace.look (f : Workspace → Except FileFault α) : ExceptT FileFault InWorkspace α :=
  .mk fun w => (f w, w)

/-- A program that changes the workspace unless it fails. -/
def InWorkspace.act (f : Workspace → Except FileFault Workspace) :
    ExceptT FileFault InWorkspace Unit :=
  .mk fun w => match f w with
    | .ok w => (.ok (), w)
    | .error fault => (.error fault, w)

instance : Host InWorkspace where
  read path := .look (·.read path)
  survey enter path := .look (·.survey enter path)
  isThere path := fun w => (w.isThere path, w)
  makeFolders path := .mk fun w => w.makeFolders path
  create path := .act (·.create path)
  fill path content := .mk fun w => w.fill path content
  rename source target := .act (·.rename source target)
  remove path := .act (·.remove path)
  mark := fun w => ("1." ++ toString w.marks, { w with marks := w.marks + 1 })
  say text := .act fun w => .ok { w with output := w.output ++ text }
  fetch _ _ := throw "a workspace reaches no server"

end Covenant.Files
