import Covenant.Plan.Action
import Covenant.Plan.Task
/-!
# Matching intents

An intent selects the operations that its words speak of.

* A word of more than two characters speaks of an operation if it occurs in its id, path, summary
  or a tag, whatever the case of the letters; the operation must then also perform one of the
  actions that the intent names, if it names any.
* A word of at least four characters that occurs in the id is enough by itself.
-/

namespace Covenant.Plan

open Covenant.Contract Covenant.Text

/-- The words of an intent, in lower case. -/
def tokens (intent : String) : List String :=
  (fields intent.toList).map fun word => .ofList (toLower word)

/-- The texts in which a word of an intent may occur, in lower case. -/
def searched (operation : Operation) : List String :=
  (operation.id :: operation.path :: operation.summary.toList ++ operation.tags).map lowerString

/-- The word speaks of the operation. -/
def speaksOf (operation : Operation) (token : String) : Bool :=
  2 < token.toList.length && (searched operation).any (containsString token)

/-- The word alone selects the operation. -/
def selectsAlone (operation : Operation) (token : String) : Bool :=
  4 ≤ token.toList.length && containsString token (lowerString operation.id)

/-- The operation performs one of the actions, if there are any. -/
def performs (operation : Operation) (actions : List Action) : Bool :=
  actions.isEmpty || actions.any (·.accepts operation)

/-- The words of an intent select the operation. -/
def selects (words : List String) (operation : Operation) : Bool :=
  words.any (speaksOf operation) && performs operation (actionsIn words)
    || words.any (selectsAlone operation)

/-- The texts of a list without those that came before or are in `seen`. -/
def distinctAfter (seen : List String) : List String → List String
  | [] => []
  | text :: rest =>
    if seen.contains text then distinctAfter seen rest
    else text :: distinctAfter (text :: seen) rest

/-- The ids of the operations that an intent selects, each once and in order. -/
def selectedIds (intent : String) (operations : List Operation) : List String :=
  distinctAfter [] ((operations.filter (selects (tokens intent))).map (·.id))

/-- What comes of an intent. -/
inductive Outcome where
  | task (task : Task)
  /-- No operation was selected; the catalog shows those that there are. -/
  | noMatch (intent catalog : String)
deriving Repr, DecidableEq

/-- The task for an intent. -/
def plan (intent : String) (operations : List Operation) : Outcome :=
  match selectedIds intent operations with
  | [] => .noMatch intent (catalog operations)
  | ids => .task (.pending (taskId 0) intent ids)

end Covenant.Plan
