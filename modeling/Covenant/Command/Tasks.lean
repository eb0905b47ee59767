import Covenant.Command.Basic
import Covenant.Command.Choice
import Covenant.Contract.Stored
import Covenant.Plan.Match
import Covenant.Plan.Store
/-!
# Planning

* `plan` turns an intent into a task over the operations of the contract and records it.
* `status` moves a task, or shows the plan. A task is completed by generating its files only.
-/

namespace Covenant.Command

open Covenant.Contract Covenant.Files Covenant.Plan Covenant.Text Covenant.Time

/-! ## 1. Texts -/

/-- The lines of a task. -/
def taskText (task : Plan.Task) : String :=
  task.id ++ " [" ++ task.status.text ++ "] " ++ task.title ++ "\n"
    ++ "  operations: " ++ joinStrings ", " task.operations ++ "\n"
    ++ if task.artifacts.isEmpty then ""
      else "  artifacts: " ++ toString task.artifacts.length ++ " files\n"

/-- The lines of a plan. -/
def planText (ledger : Ledger) : String :=
  "intent: " ++ ledger.intent ++ "\ncreated: " ++ ledger.createdAt ++ "\n"
    ++ if ledger.tasks.isEmpty then "no tasks\n" else .join (ledger.tasks.map taskText)

/-- The lines for an intent that selects nothing. -/
def noMatchText (intent catalog : String) : String :=
  "no operation matches \"" ++ intent ++ "\"; available operations:\n" ++ catalog

/-! ## 2. Commands -/

/-- Plans an intent. -/
def plan [Monad m] [Host m] (config : Config) (now : Moment) (options : PlanOptions) :
    ExceptT CommandError m Ending := do
  let intent := joinStrings " " options.intent
  if blankString intent then throw (.usage "intent must be non-empty")
  let document ← (Contract.load (m := m) (contractPath config options.contract)).adapt .contract
  let operations ← raise .contract (document.select none)
  match Plan.plan intent operations with
  | .noMatch intent catalog =>
    say (m := m) (noMatchText intent catalog)
    return .noMatch
  | .task task =>
    if options.dryRun then
      say (m := m) (taskText task)
    else
      let path := planPath config options.plan
      let task ← (Plan.record (m := m) path intent task now).adapt .plan
      say (m := m) (taskText task ++ "recorded in " ++ path ++ "\n")
    return .done

/-- What keeps a task from being moved. -/
def statusError : PlanError → CommandError
  | .artifactsRequired id => .usage (id ++ " is completed by `apiforge generate --task " ++ id
      ++ "` once its files are written")
  | reason => .plan reason

/-- Moves a task, or shows the plan. -/
def status [Monad m] [Host m] (config : Config) (options : StatusOptions) :
    ExceptT CommandError m Ending := do
  let path := planPath config options.plan
  match options.task, options.status with
  | some id, some next =>
    let task ← (Plan.setStatus (m := m) path id next).adapt statusError
    say (m := m) (task.id ++ " is now " ++ task.status.text ++ "\n")
  | _, _ =>
    let ledger ← (Plan.load (m := m) path).adapt .plan
    say (m := m) (planText ledger)
  return .done

end Covenant.Command
