import Covenant.Client.Stored
import Covenant.Command.Basic
import Covenant.Command.Choice
import Covenant.Contract.Stored
import Covenant.Guard.Scan
import Covenant.Plan.Store
/-!
# Generating clients

* `generate` writes a project for each language into a folder of the language's name, and then
  shows what the rules find in them. With a task it generates the operations of the task; the task
  is in progress before the first file is written, and completed with the written paths after the
  last one.
* `check` compares the projects on disk with those that would be generated.
-/

namespace Covenant.Command

open Covenant.Client Covenant.Contract Covenant.Files Covenant.Guard Covenant.Text

/-! ## 1. Projects -/

/-- Projects by the ids of their languages, in the order in which they were asked for. -/
abbrev Projects := List (String × FileSet)

/-- The ids of the languages that are generated. -/
def languageIds (config : Config) (options : EmitOptions) : Except ClientError (List String) :=
  if options.languages.isEmpty then .ok config.generate.languages
  else match Target.canonical options.languages with
    | .ok targets => .ok (targets.map Target.id)
    | .error name => .error (.unsupported name)

/-- The context of a contract with what the options or the configuration set. -/
def contextFor (config : Config) (options : EmitOptions) (document : Document) : EmitContext :=
  (EmitContext.ofDocument document).override
    (options.serviceName <|> config.generate.serviceName)
    (options.packageName <|> config.generate.packageName)
    (options.baseUrl <|> config.generate.baseUrl)

/-- The projects of a contract for the operations with some ids. -/
def projectsOf (config : Config) (options : EmitOptions) (ids languages : List String)
    (document : Document) : Except CommandError Projects := do
  let operations ← (document.select (operationFilter ids)).mapError CommandError.contract
  (emitAll operations languages (contextFor config options document)).mapError .client

/-- The projects that are asked for. -/
def projects [Monad m] [Host m] (config : Config) (options : EmitOptions) (ids : List String) :
    ExceptT CommandError m Projects := do
  let languages ← raise .client (languageIds config options)
  let document ← (Contract.load (m := m) (contractPath config options.contract)).adapt .contract
  raise id (projectsOf config options ids languages document)

/-! ## 2. Writing -/

/-- Writes projects into the folders of their languages; it returns the paths of all files. -/
def storeProjects [Monad m] [Host m] (folder : String) :
    Projects → ExceptT CommandError m (List String)
  | [] => return []
  | (language, files) :: rest => do
    let target := Path.join folder language
    let paths ← (Client.store (m := m) target files).adapt .client
    say (m := m)
      (language ++ ": wrote " ++ toString paths.length ++ " files to " ++ target ++ "\n")
    return paths ++ (← storeProjects folder rest)

/-- Shows what the rules find in projects; it returns the number of violations. -/
def showViolations [Monad m] [Host m] (rules : List Rule) :
    Projects → ExceptT CommandError m Nat
  | [] => return 0
  | (language, files) :: rest => do
    let report := scanFiles rules files
    if !report.isClean then
      say (m := m) (language ++ ": generated files violate the guardrail\n" ++ report.text)
    return report.violations.length + (← showViolations rules rest)

/-- The ids of the operations that are generated. -/
def wantedIds [Monad m] [Host m] (config : Config) (options : GenerateOptions) :
    ExceptT CommandError m (List String) :=
  match options.task with
  | none => return options.emit.operations
  | some id => do
    let task ← (Plan.task (m := m) (planPath config options.plan) id).adapt .plan
    return task.operations

/-- Generates projects. -/
def generate [Monad m] [Host m] (config : Config) (options : GenerateOptions) :
    ExceptT CommandError m Ending := do
  let plan := planPath config options.plan
  let ids ← wantedIds (m := m) config options
  let projects ← projects (m := m) config options.emit ids
  let rules ← raise .guard config.guard.settings.rules
  if let some id := options.task then
    discard <| (Plan.setStatus (m := m) plan id .inProgress).adapt .plan
  let paths ← storeProjects (m := m) (outputPath config options.emit.output) projects
  let violations ← showViolations (m := m) rules projects
  if let some id := options.task then
    let task ← (Plan.complete (m := m) plan id paths).adapt .plan
    say (m := m) (task.id ++ " is now " ++ task.status.text ++ " ("
      ++ toString task.artifacts.length ++ " files)\n")
  return if options.strict && 0 < violations then .violations else .done

/-! ## 3. Comparing -/

/-- Compares projects with the folders of their languages; it returns what differs. -/
def compareProjects [Monad m] [Host m] (folder : String) :
    Projects → ExceptT CommandError m (List String)
  | [] => return []
  | (language, files) :: rest => do
    let target := Path.join folder language
    match ← (changes (m := m) target files).adapt CommandError.client with
    | [] =>
      say (m := m) (language ++ ": up to date\n")
      compareProjects folder rest
    | found =>
      return (language ++ ": " ++ changesText target found) :: (← compareProjects folder rest)

/-- Fails if the projects on disk are not those that would be generated. -/
def check [Monad m] [Host m] (config : Config) (options : EmitOptions) :
    ExceptT CommandError m Ending := do
  let projects ← projects (m := m) config options options.operations
  match ← compareProjects (m := m) (outputPath config options.output) projects with
  | [] => return .done
  | differing => throw (.client (.drift (joinStrings "\n" differing)))

end Covenant.Command
