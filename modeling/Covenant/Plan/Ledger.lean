import Covenant.Plan.Task
import Covenant.Time.Stamp
/-!
# Plans

A plan is a list of tasks with the intent that was recorded last and the time at which it was
begun.

* `push` gives a task the id of its place.
* `InPlan.setStatus` and `InPlan.complete` move a task forward in place; a task is completed only
  together with the files written for it.
-/

namespace Covenant.Plan

open Covenant.Time

/-! ## 1. Errors -/

/-- Why something was not done to a plan. -/
inductive PlanError where
  | notFound (path : String)
  | tooLarge (path : String)
  | io (path detail : String)
  | malformed (path detail : String)
  /-- A moment has no stamp, or a stamp tells no moment. -/
  | badTime (detail : String)
  | unknownTask (id : String)
  | artifactsRequired (id : String)
  | backward (id : String) (current next : Status)
deriving Repr, DecidableEq

/-- The most bytes that a written plan may have. -/
def maxBytes : Nat := 4 * 1024 * 1024

/-- The error in words. -/
def PlanError.message : PlanError → String
  | .notFound path => "plan not found: " ++ path
  | .tooLarge path => "plan io error: " ++ path ++ " exceeds " ++ toString maxBytes ++ " bytes"
  | .io path detail => "plan io error: " ++ path ++ ": " ++ detail
  | .malformed path detail => "plan json error: " ++ path ++ ": " ++ detail
  | .badTime detail => "plan timestamp error: " ++ detail
  | .unknownTask id => "unknown task: " ++ id
  | .artifactsRequired id => "task " ++ id ++ " completes only after its artifacts are written"
  | .backward id current next =>
    "invalid transition for " ++ id ++ ": " ++ current.text ++ " -> " ++ next.text

/-! ## 2. Plans -/

/-- A plan. -/
structure Ledger where
  intent : String
  /-- The stamp of the time at which the plan was begun. -/
  createdAt : String
  tasks : List Task
deriving Repr, DecidableEq, Inhabited

namespace Ledger

/-- The plan without tasks, begun at a moment. -/
def begin (intent : String) (now : Moment) : Except PlanError Ledger :=
  match now.stamp? with
  | some createdAt => .ok ⟨intent, createdAt, []⟩
  | none => .error (.badTime "the time has no stamp")

/-- The moment at which the plan was begun. -/
def created (ledger : Ledger) : Except PlanError Moment :=
  match Moment.ofStamp? ledger.createdAt with
  | some moment => .ok moment
  | none => .error (.badTime (ledger.createdAt ++ ": not a time stamp"))

/-- The task with an id: the first one. -/
def task? (ledger : Ledger) (id : String) : Option Task := ledger.tasks.find? (·.id == id)

/-- The plan with one more task, and the id that it got. -/
def push (ledger : Ledger) (task : Task) : String × Ledger :=
  let id := taskId ledger.tasks.length
  (id, { ledger with tasks := ledger.tasks ++ [{ task with id }] })

/-- The tasks with the first one of an id changed. -/
def changeFirst (id : String) (change : Task → Task) : List Task → List Task
  | [] => []
  | task :: rest =>
    if task.id == id then change task :: rest else task :: changeFirst id change rest

/-- The plan with the task of an id changed. -/
def change (ledger : Ledger) (id : String) (change : Task → Task) : Ledger :=
  { ledger with tasks := changeFirst id change ledger.tasks }

end Ledger

/-! ## 3. Changing a plan in place -/

/-- A program that changes a plan in place. Where it fails, the plan stays as the program has left
it until then. -/
abbrev InPlan := ExceptT PlanError (StateM Ledger)

namespace InPlan

/-- How a program ends on a plan, and the plan that it leaves. -/
def runOn (program : InPlan α) (ledger : Ledger) : Except PlanError α × Ledger :=
  program.run.run ledger

/-- Adds a task; it returns the id that the task got. -/
def push (task : Task) : InPlan String := modifyGet (·.push task)

/-- The task with an id, if it may move to a status. -/
def movable (id : String) (next : Status) : InPlan Task := do
  match (← get).task? id with
  | none => throw (.unknownTask id)
  | some task =>
    if task.status.allows next then return task else throw (.backward id task.status next)

/-- Changes the task that was found under an id; it returns the task as it is then. -/
def assign (id : String) (task : Task) (change : Task → Task) : InPlan Task := do
  modify (·.change id change)
  return change task

/-- Moves a task to a status; it returns the task as it is then. -/
def setStatus (id : String) (next : Status) : InPlan Task := do
  let task ← movable id next
  if next == .completed && task.status != .completed then throw (.artifactsRequired id)
  assign id task ({ · with status := next })

/-- Completes a task with the files written for it; it returns the task as it is then. -/
def complete (id : String) (artifacts : List String) : InPlan Task := do
  if artifacts.isEmpty then throw (.artifactsRequired id)
  let task ← movable id .completed
  let task ← assign id task ({ · with status := .completed })
  assign id task ({ · with artifacts })

end InPlan

namespace Ledger

/-- What a program returns and the plan after it, for those who drop the plan if the program
fails. -/
def changed (ledger : Ledger) (program : InPlan α) : Except PlanError (α × Ledger) :=
  match program.runOn ledger with
  | (.ok value, after) => .ok (value, after)
  | (.error reason, _) => .error reason

/-- The task moved to a status, and the plan with it. -/
def setStatus (ledger : Ledger) (id : String) (next : Status) : Except PlanError (Task × Ledger) :=
  ledger.changed (.setStatus id next)

/-- The task completed with the files written for it, and the plan with it. -/
def complete (ledger : Ledger) (id : String) (artifacts : List String) :
    Except PlanError (Task × Ledger) :=
  ledger.changed (.complete id artifacts)

end Ledger

end Covenant.Plan
