import Covenant.Guard.Comment
import Covenant.Guard.Report
import Covenant.Guard.Rule
/-!
# Scanning files

Every line of code of a file in a known language is held against the rules for that language.

* A file with the marker of a generated client in one of its first five lines is left alone, but
  counted.
* What is found comes in the order of lines, and for one line in the order of the rules.
-/

namespace Covenant.Guard

open Covenant.Text

/-- The text that marks a generated client. -/
def clientMarker : String := "apiforge:network-client"

/-- The number of lines in which the marker counts. -/
def markerLines : Nat := 5

/-- The file is marked as a generated client. -/
def isMarked (lines : List (List Char)) : Bool :=
  (lines.take markerLines).any (contains clientMarker.toList)

/-- The lines with code, from a line number on: the number, the line and its code. -/
def codeLines (language : Language) (open_ : Bool) (number : Nat) :
    List (List Char) → List (Nat × List Char × List Char)
  | [] => []
  | line :: rest =>
    let (code, open_) := codeOf language open_ line
    let more := codeLines language open_ (number + 1) rest
    match code with
    | some code => (number, line, code) :: more
    | none => more

/-- What is found in one line. -/
def violationsIn (rules : List Rule) (file : String) (number : Nat) (line code : List Char) :
    List Violation :=
  (rules.filter (·.brokenBy code)).map fun rule =>
    ⟨rule.name, file, number, rule.message, .ofList (trim line)⟩

/-- What is found in the lines of a file in a language. -/
def scanLines (rules : List Rule) (file : String) (language : Language)
    (lines : List (List Char)) : List Violation :=
  if isMarked lines then []
  else
    let rules := rules.filter (·.appliesTo language)
    (codeLines language false 1 lines).flatMap fun (number, line, code) =>
      violationsIn rules file number line code

/-- The report on one file. -/
def scanFile (rules : List Rule) (file contents : String) : Report :=
  match Language.ofPath? file with
  | none => .empty
  | some language => ⟨1, scanLines rules file language (lines contents.toList)⟩

/-- The report on files by path. -/
def scanFiles (rules : List Rule) (files : TextMap String) : Report :=
  .concat (files.toList.map fun (file, contents) => scanFile rules file contents)

end Covenant.Guard
