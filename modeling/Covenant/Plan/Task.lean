import Covenant.Text.Blank
import Covenant.Text.Case
/-!
# Tasks

A task is a set of operations that an intent selected, and how far the work on it has come.

* A status only moves forward; to stay where it is counts as a move.
* A title is the intent on at most 60 characters, its first character in upper case.
-/

namespace Covenant.Plan

open Covenant.Text

/-! ## 1. Statuses -/

/-- How far the work on a task has come. -/
inductive Status where
  | pending | inProgress | completed
deriving Repr, DecidableEq, Inhabited

namespace Status

/-- Every status. -/
def all : List Status := [.pending, .inProgress, .completed]

/-- The word for a status. -/
def text : Status → String
  | .pending => "pending"
  | .inProgress => "in-progress"
  | .completed => "completed"

/-- The status that a word names. -/
def ofText? (s : String) : Option Status := all.find? (·.text == s)

/-- A task may move from one status to the next. -/
def allows : Status → Status → Bool
  | .pending, _ => true
  | .inProgress, next => next != .pending
  | .completed, next => next == .completed

end Status

/-! ## 2. Titles -/

/-- The most characters that a title has. -/
def titleLimit : Nat := 60

/-- What stands for the part of a title that is left out. -/
def ellipsis : List Char := ['.', '.', '.']

/-- A text with its first character in upper case. -/
def raiseFirst : List Char → List Char
  | [] => []
  | c :: rest => upperOf c ++ rest

/-- A text cut down to the limit, if it is longer. -/
def shorten (s : List Char) : List Char :=
  if titleLimit < s.length then trimEnd (s.take (titleLimit - ellipsis.length)) ++ ellipsis else s

/-- The title of an intent. -/
def titleOf (intent : String) : String := .ofList (shorten (raiseFirst (trim intent.toList)))

/-! ## 3. Tasks -/

/-- A task. -/
structure Task where
  id : String
  title : String
  description : String
  status : Status
  operations : List String
  /-- The files written when the task was completed. -/
  artifacts : List String
deriving Repr, DecidableEq, Inhabited

/-- The id of the task at a place, counted from zero. -/
def taskId (index : Nat) : String := "task-" ++ toString (index + 1)

/-- A task that has not begun. -/
def Task.pending (id intent : String) (operations : List String) : Task :=
  { id, title := titleOf intent, description := intent, status := .pending, operations,
    artifacts := [] }

end Covenant.Plan
