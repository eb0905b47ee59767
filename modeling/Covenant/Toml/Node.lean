/-!
# Values and tables of TOML

A node is a value, with the tables in it marked by how they came to be: that decides what may be
added to a table later.

* A table under a header may be opened once; one that a longer header implied may still be opened.
* A table made by a dotted key takes further dotted keys, but no header of its own.
* An inline table takes nothing more.
-/

namespace Covenant.Toml

/-- How a table came to be. -/
inductive Form where
  /-- By its own header, or as the whole document. -/
  | opened
  /-- By a longer header. -/
  | implied
  | dotted
  | inline
deriving Repr, DecidableEq, Inhabited

/-- A value. -/
inductive Node where
  | text (value : String)
  | whole (value : Int)
  /-- A number with a point or an exponent, or one that is none. -/
  | real
  | flag (value : Bool)
  /-- A date, a time or both. -/
  | moment
  /-- An array; `growing` says that headers add tables to it. -/
  | items (growing : Bool) (values : List Node)
  | table (form : Form) (members : List (String × Node))
deriving Repr, Inhabited

/-- The members of a table. -/
abbrev Members := List (String × Node)

/-- What is done to the table at the end of a path: its form and members are given. -/
abbrev Change := Form → Members → Option Members

/-- The members with the value of `key` replaced. -/
def Members.replace (members : Members) (key : String) (node : Node) : Members :=
  members.map fun member => if member.1 == key then (key, node) else member

/-- The last value, which must be a table, changed. -/
def changeLast (change : Change) : List Node → Option (List Node)
  | [] => none
  | [.table form members] => (change form members).map fun members => [.table form members]
  | [_] => none
  | node :: rest => (changeLast change rest).map (node :: ·)

/-- The node changed as a step on a path by headers or, if `dotted`, by a dotted key. -/
def changeNode (dotted : Bool) (change : Change) : Node → Option Node
  | .items true values => (changeLast change values).map (.items true)
  | .table form members =>
    if form == .inline || (dotted && form == .opened) then none
    else (change form members).map (.table form)
  | _ => none

/-- Changes the table at the end of a path; what is missing on the way is made. -/
def changeAt (dotted : Bool) (change : Change) : List String → Change
  | [], form, members => change form members
  | key :: path, _, members =>
    match members.lookup key with
    | none =>
      let form := if dotted then .dotted else .implied
      (changeAt dotted change path form []).map fun inner =>
        members ++ [(key, .table form inner)]
    | some node =>
      (changeNode dotted (changeAt dotted change path) node).map (members.replace key)

/-- Adds a member at the end of a dotted key, whose table must have been made by dotted keys. -/
def put (path : List String) (key : String) (node : Node) : Change :=
  changeAt true (fun form members =>
    if (members.lookup key).isSome || (!path.isEmpty && form != .dotted) then none
    else some (members ++ [(key, node)])) path

/-- Opens a table for a header. -/
def openTable (key : String) : Change := fun _ members =>
  match members.lookup key with
  | none => some (members ++ [(key, .table .opened [])])
  | some (.table .implied inner) => some (members.replace key (.table .opened inner))
  | some _ => none

/-- Adds a table to a growing array for a header. -/
def openItem (key : String) : Change := fun _ members =>
  match members.lookup key with
  | none => some (members ++ [(key, .items true [.table .opened []])])
  | some (.items true values) =>
    some (members.replace key (.items true (values ++ [.table .opened []])))
  | some _ => none

end Covenant.Toml
