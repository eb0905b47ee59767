import Covenant.Command.Arguments
import Covenant.Command.Basic
import Covenant.Decimal.Numeral
/-!
# Invocations

What the arguments of the program ask for.

* The options `--config` and `--verbose` may stand in any command.
* A plan can be named only for a task, and a task and a list of operations exclude each other; a
  task whose status is set needs the status.
-/

namespace Covenant.Command

open Covenant.Decimal Covenant.Text

/-- What the program is asked for. -/
structure Invocation where
  /-- The path of the configuration. -/
  config : Option String
  /-- How often more was asked to be logged. -/
  verbosity : Nat
  request : Request
deriving Repr, DecidableEq, Inhabited

/-! ## 1. Options -/

/-- The name and the version of the program. -/
def versionText : String := "apiforge 0.1.0"

/-- An option that takes one value and has no letter. -/
def single (name : String) (accepts : String → Bool) : OptionRule := ⟨name, none, .single accepts⟩

/-- An option that takes the path of a file or folder. -/
def pathOption (name : String) : OptionRule := single name fun value => !value.isEmpty

/-- An option that takes any text. -/
def textOption (name : String) : OptionRule := single name fun _ => true

/-- An option without a value and without a letter. -/
def flagOption (name : String) : OptionRule := ⟨name, none, .flag⟩

/-- A whole number of 64 bits; a plus sign may stand before it. -/
def wholeNumber? (text : String) : Option Nat :=
  let digits := match text.toList with
    | '+' :: digits => digits
    | digits => digits
  if digits.isEmpty || !digits.all Char.isDigit || Nat.pow 2 64 ≤ readDigits digits then none
  else some (readDigits digits)

/-- The format of a report that a word names. -/
def formatOf? : String → Option ReportFormat
  | "text" => some .text
  | "json" => some .json
  | _ => none

/-- The options of every command. -/
def commonOptions : List OptionRule := [
  pathOption "config", ⟨"verbose", some 'v', .counted⟩, ⟨"help", some 'h', .help⟩]

/-- The options of the commands that generate or compare. -/
def emitOptions : List OptionRule := [
  pathOption "contract", ⟨"lang", none, .repeated⟩, pathOption "out", ⟨"ops", none, .listed⟩,
  textOption "service-name", textOption "package-name", textOption "base-url"]

/-- A command with some options of its own and at most some words. -/
def command (options : List OptionRule) (maxWords : Option Nat) : Grammar :=
  .command (options ++ commonOptions) maxWords []

/-- A group of commands. -/
def group (options : List OptionRule) (inner : List (String × Grammar)) : Grammar :=
  .command (options ++ commonOptions) (some 0) (inner ++ [("help", command [] none)])

/-- What the program takes. -/
def grammar : Grammar :=
  group [⟨"version", some 'V', .version⟩] [
    ("generate", command
      (emitOptions ++ [textOption "task", pathOption "plan", flagOption "strict"]) (some 0)),
    ("check", command emitOptions (some 0)),
    ("plan", command [pathOption "contract", pathOption "plan", flagOption "dry-run"] none),
    ("status", command [pathOption "plan"] (some 2)),
    ("scan", command [single "format" fun value => (formatOf? value).isSome, flagOption "strict"]
      (some 1)),
    ("sync", command [textOption "url", pathOption "output",
      single "timeout-ms" fun value => (wholeNumber? value).isSome] (some 0)),
    ("config", group [] [("validate", command [] (some 0)), ("example", command [] (some 0))])]

/-! ## 2. Requests -/

/-- What is generated. -/
def Given.emitOptions (given : Given) : EmitOptions := {
  contract := given.value? "contract"
  languages := given.values "lang"
  output := given.value? "out"
  operations := given.values "ops"
  serviceName := given.value? "service-name"
  packageName := given.value? "package-name"
  baseUrl := given.value? "base-url" }

/-- Projects to generate. -/
def Given.generateRequest (given : Given) : Except Stop Request :=
  if given.has "task" && given.has "ops" then .error .usage
  else if given.has "plan" && !given.has "task" then .error .usage
  else .ok (.generate {
    emit := given.emitOptions
    task := given.value? "task"
    plan := given.value? "plan"
    strict := given.has "strict" })

/-- An intent to plan. -/
def Given.planRequest (given : Given) : Except Stop Request :=
  if given.words.isEmpty then .error .usage
  else .ok (.plan {
    intent := given.words
    contract := given.value? "contract"
    plan := given.value? "plan"
    dryRun := given.has "dry-run" })

/-- A task to move, or a plan to show. -/
def Given.statusRequest (given : Given) : Except Stop Request :=
  let plan := given.value? "plan"
  match given.words with
  | [] => .ok (.status ⟨none, none, plan⟩)
  | [task, word] => match Plan.Status.ofText? word with
    | some status => .ok (.status ⟨some task, some status, plan⟩)
    | none => .error .usage
  | _ => .error .usage

/-- A folder to scan. -/
def Given.scanRequest (given : Given) : Except Stop Request :=
  let root := given.words.head?.getD "."
  if root.isEmpty then .error .usage
  else .ok (.scan {
    root
    format := ((given.value? "format").bind formatOf?).getD .text
    strict := given.has "strict" })

/-- A contract to fetch. -/
def Given.syncRequest (given : Given) : Request :=
  .sync {
    url := given.value? "url"
    output := given.value? "output"
    timeoutMs := (given.value? "timeout-ms").bind wholeNumber? }

/-- What was asked for. -/
def Given.request (given : Given) : Except Stop Request :=
  match given.commands with
  | ["generate"] => given.generateRequest
  | ["check"] => .ok (.check given.emitOptions)
  | ["plan"] => given.planRequest
  | ["status"] => given.statusRequest
  | ["scan"] => given.scanRequest
  | ["sync"] => .ok given.syncRequest
  | ["config", "validate"] => .ok .validateConfig
  | ["config", "example"] => .ok .exampleConfig
  | _ => .error .help

/-- What the arguments of the program ask for. -/
def Invocation.ofArguments (arguments : List String) : Except Stop Invocation := do
  let given ← grammar.read arguments
  return {
    config := given.value? "config"
    verbosity := ((given.options ++ given.outer).filter (·.1 == "verbose")).length
    request := ← given.request }

/-- How the program is used. -/
def usageText : String := "Usage: apiforge [--config FILE] [-v]... COMMAND

Commands:
  generate  [--contract FILE] [--lang LANG]... [--out DIR] [--ops IDS] [--service-name NAME]
            [--package-name NAME] [--base-url URL] [--task TASK_ID [--plan FILE]] [--strict]
  check     [--contract FILE] [--lang LANG]... [--out DIR] [--ops IDS] [--service-name NAME]
            [--package-name NAME] [--base-url URL]
  plan      INTENT... [--contract FILE] [--plan FILE] [--dry-run]
  status    [TASK_ID STATUS] [--plan FILE]
  scan      [DIR] [--format text|json] [--strict]
  sync      [--url URL] [--output FILE] [--timeout-ms MS]
  config    validate | example
"

end Covenant.Command
