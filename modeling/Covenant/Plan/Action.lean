import Covenant.Contract.Operation
/-!
# Actions

What an intent asks to be done, told by the words in it.

* `actionsIn` are the actions that some word of an intent names, in the order of `Action.all`.
* `Action.accepts` says which operations perform an action.
-/

namespace Covenant.Plan

open Covenant.Contract

/-- What is done to a resource. -/
inductive Action where
  | create | list | get | update | delete
deriving Repr, DecidableEq, Inhabited

namespace Action

/-- Every action, in order. -/
def all : List Action := [.create, .list, .get, .update, .delete]

/-- The version of the words of actions. -/
def wordsVersion : Nat := 1

/-- The words that name an action. -/
def words : Action → List String
  | .create => ["create", "add", "new", "make", "post", "register", "submit"]
  | .list => ["list", "all", "browse", "enumerate", "index"]
  | .get => ["get", "fetch", "retrieve", "show", "view", "read", "find", "detail", "details"]
  | .update => ["update", "edit", "modify", "change", "patch", "put", "replace"]
  | .delete => ["delete", "remove", "destroy", "erase", "drop"]

/-- The name of an action. -/
def name : Action → String
  | .create => "create"
  | .list => "list"
  | .get => "get"
  | .update => "update"
  | .delete => "delete"

/-- The operation performs the action. -/
def accepts (action : Action) (operation : Operation) : Bool :=
  match action with
  | .create => operation.verb == .post
  | .list => operation.verb == .get && operation.isCollection
  | .get => operation.verb == .get
  | .update => operation.verb == .put || operation.verb == .patch
  | .delete => operation.verb == .delete

end Action

/-- The actions that the tokens of an intent name. -/
def actionsIn (tokens : List String) : List Action :=
  Action.all.filter fun action => tokens.any action.words.contains

end Covenant.Plan
