import Covenant.Client.Emit
import Covenant.Config.Check
import Covenant.Contract.Sync
import Covenant.Guard.Rule
import Covenant.Plan.Ledger
/-!
# Commands

What can be asked for, how it ends and why it fails.

* A command that fails has no ending; one that does what it was asked for may still end with a
  code other than zero.
-/

namespace Covenant.Command

open Covenant.Files

/-! ## 1. Requests -/

/-- What is generated, and where; what is left out is in the configuration or the contract. -/
structure EmitOptions where
  contract : Option String
  languages : List String
  output : Option String
  /-- The ids of the operations that are asked for. -/
  operations : List String
  serviceName : Option String
  packageName : Option String
  baseUrl : Option String
deriving Repr, DecidableEq, Inhabited

/-- How projects are generated. -/
structure GenerateOptions where
  emit : EmitOptions
  /-- The task whose operations are generated. -/
  task : Option String
  plan : Option String
  /-- Violations in what was generated count. -/
  strict : Bool
deriving Repr, DecidableEq, Inhabited

/-- How an intent is planned. -/
structure PlanOptions where
  intent : List String
  contract : Option String
  plan : Option String
  /-- The task is shown but not recorded. -/
  dryRun : Bool
deriving Repr, DecidableEq, Inhabited

/-- Which task is moved to which status; the plan is shown if one of them is left out. -/
structure StatusOptions where
  task : Option String
  status : Option Plan.Status
  plan : Option String
deriving Repr, DecidableEq, Inhabited

/-- How a report is shown. -/
inductive ReportFormat where
  | text | json
deriving Repr, DecidableEq, Inhabited

/-- What is scanned. -/
structure ScanOptions where
  root : String
  format : ReportFormat
  /-- Violations count. -/
  strict : Bool
deriving Repr, DecidableEq, Inhabited

/-- Where a contract is fetched from and written to. -/
structure SyncOptions where
  url : Option String
  output : Option String
  timeoutMs : Option Nat
deriving Repr, DecidableEq, Inhabited

/-- What can be asked for. -/
inductive Request where
  | generate (options : GenerateOptions)
  | check (options : EmitOptions)
  | plan (options : PlanOptions)
  | status (options : StatusOptions)
  | scan (options : ScanOptions)
  | sync (options : SyncOptions)
  | validateConfig
  | exampleConfig
deriving Repr, DecidableEq, Inhabited

/-! ## 2. Endings -/

/-- How a command ends that does not fail. -/
inductive Ending where
  | done
  /-- No operation matches the intent. -/
  | noMatch
  /-- Violations were found where they count. -/
  | violations
deriving Repr, DecidableEq, Inhabited

/-- The exit code of an ending. -/
def Ending.code : Ending → Nat
  | .done => 0
  | .noMatch => 2
  | .violations => 3

/-- Why a command failed. -/
inductive CommandError where
  | config (reason : Config.ConfigError)
  | contract (reason : Contract.LoadError)
  | sync (reason : Contract.SyncError)
  | client (reason : Client.ClientError)
  | plan (reason : Plan.PlanError)
  | guard (reason : Guard.GuardError)
  /-- The options are incomplete or do not go together. -/
  | usage (text : String)
  | output (detail : String)
deriving Repr

/-- The error in words. -/
def CommandError.message : CommandError → String
  | .config reason => reason.message
  | .contract reason => reason.message
  | .sync reason => reason.message
  | .client reason => reason.message
  | .plan reason => reason.message
  | .guard reason => reason.message
  | .usage text => text
  | .output detail => "failed to write output: " ++ detail

/-! ## 3. Steps -/

/-- A result that may have failed, in a command. -/
def raise [Monad m] (wrap : ε → CommandError) : Except ε α → ExceptT CommandError m α
  | .ok value => return value
  | .error reason => throw (wrap reason)

/-- Writes to the output. -/
def say [Monad m] [Host m] (text : String) : ExceptT CommandError m Unit :=
  (Host.say (m := m) text).adapt fun fault => .output fault.message

end Covenant.Command
