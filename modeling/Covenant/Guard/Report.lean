import Covenant.Json.Printer
import Covenant.Text.Ordered
import Covenant.Text.Split
/-!
# Reports

What a scan found, and the two forms in which it is shown.

* As text a report lists the broken rules by name, each with its lines in the order of the scan.
* As JSON it is the list of what was found.
-/

namespace Covenant.Guard

open Covenant.Json Covenant.Text

/-- A line that breaks a rule. -/
structure Violation where
  rule : String
  file : String
  /-- The number of the line, counted from one. -/
  number : Nat
  message : String
  /-- The line without the blanks around it. -/
  line : String
deriving Repr, DecidableEq, Inhabited

/-- What a scan found. -/
structure Report where
  /-- The number of files in a known language. -/
  scanned : Nat
  violations : List Violation
deriving Repr, DecidableEq, Inhabited

namespace Report

/-- The report on no files. -/
def empty : Report := ⟨0, []⟩

/-- The report on the files of two reports. -/
def append (first second : Report) : Report :=
  ⟨first.scanned + second.scanned, first.violations ++ second.violations⟩

/-- The report on the files of several reports. -/
def concat (reports : List Report) : Report := reports.foldl append empty

/-- Nothing was found. -/
def isClean (report : Report) : Bool := report.violations.isEmpty

/-- The names of the broken rules, rising. -/
def brokenRules (report : Report) : List String :=
  (TextSet.ofList (report.violations.map (·.rule))).toList

/-- What was found by the rule that it breaks. -/
def grouped (report : Report) : List (String × List Violation) :=
  report.brokenRules.map fun rule => (rule, report.violations.filter (·.rule == rule))

/-- The line of a violation. -/
def violationLine (violation : Violation) : String :=
  "  " ++ violation.file ++ ":" ++ toString violation.number ++ ": " ++ violation.line ++ "\n"

/-- The lines of one rule. -/
def groupText (rule : String) (violations : List Violation) : String :=
  "\n[" ++ rule ++ "] " ++ ((violations.head?.map (·.message)).getD "") ++ "\n"
    ++ .join (violations.map violationLine)

/-- The report as text. -/
def text (report : Report) : String :=
  if report.isClean then
    "guardrail: " ++ toString report.scanned ++ " files scanned, no violations\n"
  else
    "guardrail: " ++ toString report.violations.length ++ " violations in "
      ++ toString report.scanned ++ " files scanned\n"
      ++ .join (report.grouped.map fun (rule, violations) => groupText rule violations)

/-- A violation as a value. -/
def violationValue (violation : Violation) : Value :=
  .members [
    ("ruleName", .text violation.rule),
    ("filePath", .text violation.file),
    ("lineNumber", .number (.whole violation.number)),
    ("message", .text violation.message),
    ("line", .text violation.line)]

/-- The report as JSON. -/
def json (report : Report) : String :=
  (Value.items (report.violations.map violationValue)).pretty

end Report

end Covenant.Guard
