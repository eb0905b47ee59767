import Covenant.Json.Decode
import Covenant.Json.Printer
import Covenant.Json.Reader
import Covenant.Plan.Ledger
/-!
# Written plans

A plan is written as JSON over several lines. The artifacts of a task without any are left out.
-/

namespace Covenant.Plan

open Covenant.Json Covenant.Record

/-! ## 1. Reading -/

/-- The fields of a written task, in order. -/
def taskFields : List String :=
  ["id", "title", "description", "status", "operations", "artifacts"]

/-- The fields of a written plan, in order. -/
def ledgerFields : List String := ["intent", "createdAt", "tasks"]

/-- A list of texts. -/
def readTexts (part : Part) : Except Fault (List String) := do (← part.list).mapM Part.text

/-- A status. -/
def readStatus (part : Part) : Except Fault Status := do
  match Status.ofText? (← part.choice) with
  | some status => return status
  | none => throw (.wanted .choice)

/-- A task. -/
def readTask (part : Part) : Except Fault Task := do
  let fields ← part.fields taskFields
  return {
    id := ← required fields "id" Part.text
    title := ← required fields "title" Part.text
    description := ← required fields "description" Part.text
    status := ← required fields "status" readStatus
    operations := ← required fields "operations" readTexts
    artifacts := ← withDefault fields "artifacts" readTexts [] }

/-- A plan. -/
def readLedger (part : Part) : Except Fault Ledger := do
  let fields ← part.fields ledgerFields
  return {
    intent := ← required fields "intent" Part.text
    createdAt := ← required fields "createdAt" Part.text
    tasks := ← required fields "tasks" fun part => do (← part.list).mapM readTask }

/-- The plan that a text holds. -/
def Ledger.ofText (s : List Char) : Except Fault Ledger :=
  match Json.read? s with
  | none => .error .malformed
  | some raw => readLedger (.whole raw)

/-! ## 2. Writing -/

/-- A task as a value. -/
def Task.value (task : Task) : Value :=
  .members ([
    ("id", .text task.id),
    ("title", .text task.title),
    ("description", .text task.description),
    ("status", .text task.status.text),
    ("operations", .ofTexts task.operations)]
    ++ if task.artifacts.isEmpty then [] else [("artifacts", .ofTexts task.artifacts)])

/-- A plan as a value. -/
def Ledger.value (ledger : Ledger) : Value :=
  .members [
    ("intent", .text ledger.intent),
    ("createdAt", .text ledger.createdAt),
    ("tasks", .items (ledger.tasks.map Task.value))]

/-- A plan as a text, without a line end after it. -/
def Ledger.text (ledger : Ledger) : String := ledger.value.pretty

end Covenant.Plan
