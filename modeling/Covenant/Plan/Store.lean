import Covenant.Files.Replace
import Covenant.Json.Bytes
import Covenant.Plan.Document
/-!
# Stored plans

A plan lies in one file. Whatever changes it reads the file, changes the plan and writes the file
as a whole; what fails before that leaves the file as it was.
-/

namespace Covenant.Plan

open Covenant.Files Covenant.Json Covenant.Record Covenant.Time

/-! ## 1. Reading and writing -/

/-- What keeps the plan at a path from being read. -/
def PlanError.ofFault (path : String) : FileFault → PlanError
  | .notFound => .notFound path
  | fault => .io path fault.message

/-- The plan that the content of a file holds. -/
def Ledger.ofBytes (path : String) (content : ByteArray) : Except PlanError Ledger :=
  if maxBytes < content.size then .error (.tooLarge path)
  else match readBytes? content with
    | none => .error (.malformed path Fault.malformed.message)
    | some raw => (readLedger (.whole raw)).mapError fun fault => .malformed path fault.message

/-- The plan as the content of a file. -/
def Ledger.bytes (ledger : Ledger) : ByteArray := (ledger.text ++ "\n").toUTF8

/-- The plan in a file. -/
def load [Monad m] [Host m] (path : String) : ExceptT PlanError m Ledger := do
  let content ← (Host.read (m := m) path).adapt (.ofFault path)
  return ← Ledger.ofBytes path content

/-- Writes a plan into a file. -/
def save [Monad m] [Host m] (path : String) (ledger : Ledger) : ExceptT PlanError m Unit :=
  (writeFile (m := m) path ledger.bytes).adapt fun fault => .io path fault.message

/-! ## 2. Changing -/

/-- The plan in a file, or a new one if there is no file. -/
def loadOrBegin [Monad m] [Host m] (path intent : String) (now : Moment) :
    ExceptT PlanError m Ledger := do
  try load (m := m) path
  catch
    | .notFound _ => return ← Ledger.begin intent now
    | fault => throw fault

/-- Adds a task for an intent; it returns the task as it is stored. -/
def record [Monad m] [Host m] (path intent : String) (task : Task) (now : Moment) :
    ExceptT PlanError m Task := do
  let ledger ← loadOrBegin (m := m) path intent now
  let (id, ledger) := { ledger with intent }.push task
  save (m := m) path ledger
  match ledger.task? id with
  | some task => return task
  | none => throw (.unknownTask id)

/-- The task with an id. -/
def task [Monad m] [Host m] (path id : String) : ExceptT PlanError m Task := do
  match (← load (m := m) path).task? id with
  | some task => return task
  | none => throw (.unknownTask id)

/-- Changes the plan in a file by a step that moves a task; it returns the task as it is then. -/
def change [Monad m] [Host m] (path : String)
    (step : Ledger → Except PlanError (Task × Ledger)) : ExceptT PlanError m Task := do
  let (task, ledger) ← step (← load (m := m) path)
  save (m := m) path ledger
  return task

/-- Moves a task to a status. -/
def setStatus [Monad m] [Host m] (path id : String) (status : Status) :
    ExceptT PlanError m Task :=
  change path fun ledger => ledger.setStatus id status

/-- Completes a task with the files written for it. -/
def complete [Monad m] [Host m] (path id : String) (artifacts : List String) :
    ExceptT PlanError m Task :=
  change path fun ledger => ledger.complete id artifacts

end Covenant.Plan
