import Covenant.Yaml.Event
/-!
# Nodes of a document

A document is a tree of nodes in which an alias stands for a node that has an anchor. The node is
looked up when it is needed, so an alias may stand inside of the very node that it means.

* An anchor is numbered by the names that were known before it; a name that is used again gets a
  new number. An alias has the number of its name at that point, and means the last node with it.
* `Document.ofEvents?` builds the tree and the table of anchored nodes.
-/

namespace Covenant.Yaml

/-- A node. An alias is the serial number of the node that it means. -/
inductive Node where
  | alias (serial : Nat)
  | scalar (tag : Option String) (style : Style) (text : String)
  | sequence (tag : Option String) (items : List Node)
  | mapping (tag : Option String) (pairs : List (Node × Node))
deriving Repr, Inhabited

/-- A document: its tree, the nodes with an anchor by serial number, and the number of events. -/
structure Document where
  root : Node
  anchored : List (Nat × Node)
  events : Nat
deriving Inhabited

/-! ## 1. Numbers of anchors -/

/-- The numbers given so far: the current number of each name, the serial number of the last node
for each number, and the count of nodes with an anchor. -/
structure AnchorTable where
  names : List (String × Nat)
  owners : List (Nat × Nat)
  count : Nat
deriving Inhabited

/-- The table after one more node with the anchor `name`. -/
def AnchorTable.add (table : AnchorTable) (name : String) : AnchorTable :=
  let number := table.names.length
  ⟨(name, number) :: table.names.filter (·.1 != name), (number, table.count) :: table.owners,
    table.count + 1⟩

/-- The properties that an event carries. -/
def Event.properties : Event → Properties
  | .scalar properties _ _ => properties
  | .sequenceStart properties => properties
  | .mappingStart properties => properties
  | _ => .none

/-- The numbers of the aliases of a document, reversed, and the table at its end; absent where an
alias has a name that is not known yet. -/
def numberAliases? (table : AnchorTable) (numbers : List Nat) :
    List Event → Option (List Nat × AnchorTable)
  | [] => some (numbers, table)
  | .alias name :: rest =>
    match table.names.lookup name with
    | some number => numberAliases? table (number :: numbers) rest
    | none => none
  | event :: rest =>
    match event.properties.anchor with
    | some name => numberAliases? (table.add name) numbers rest
    | none => numberAliases? table numbers rest

/-! ## 2. Trees -/

/-- A collection that is still open: its tag, its serial number if it has an anchor, and what it
holds so far, the latest first. -/
inductive Branch where
  | sequence (tag : Option String) (serial : Option Nat) (items : List Node)
  | mapping (tag : Option String) (serial : Option Nat) (key : Option Node)
    (pairs : List (Node × Node))

/-- A tree in progress: the open collections, the finished root, the nodes with an anchor, the
serial number of the next one, and what the aliases to come mean. -/
structure Assembly where
  branches : List Branch
  root : Option Node
  anchored : List (Nat × Node)
  serial : Nat
  aliases : List Nat
deriving Inhabited

namespace Assembly

/-- The node is complete: it joins the innermost collection. -/
def attach (c : Assembly) (node : Node) : Assembly :=
  match c.branches with
  | [] => { c with root := some node }
  | .sequence tag serial items :: outer =>
    { c with branches := .sequence tag serial (node :: items) :: outer }
  | .mapping tag serial none pairs :: outer =>
    { c with branches := .mapping tag serial (some node) pairs :: outer }
  | .mapping tag serial (some key) pairs :: outer =>
    { c with branches := .mapping tag serial none ((key, node) :: pairs) :: outer }

/-- Enters a node with a serial number into the table. -/
def register (c : Assembly) (serial : Option Nat) (node : Node) : Assembly :=
  match serial with
  | some n => { c with anchored := (n, node) :: c.anchored }
  | none => c

/-- The serial number of a node with these properties, and the numbers left. -/
def number (c : Assembly) (properties : Properties) : Option Nat × Assembly :=
  if properties.anchor.isSome then (some c.serial, { c with serial := c.serial + 1 })
  else (none, c)

/-- The tree after one more event. -/
def step (c : Assembly) (event : Event) : Assembly :=
  match event with
  | .alias _ =>
    match c.aliases with
    | serial :: rest => { c with aliases := rest }.attach (.alias serial)
    | [] => c
  | .scalar properties style text =>
    let (serial, c) := c.number properties
    let node := .scalar properties.tag style text
    (c.register serial node).attach node
  | .sequenceStart properties =>
    let (serial, c) := c.number properties
    { c with branches := .sequence properties.tag serial [] :: c.branches }
  | .mappingStart properties =>
    let (serial, c) := c.number properties
    { c with branches := .mapping properties.tag serial none [] :: c.branches }
  | .sequenceEnd | .mappingEnd =>
    match c.branches with
    | .sequence tag serial items :: outer =>
      let node := .sequence tag items.reverse
      ({ c with branches := outer }.register serial node).attach node
    | .mapping tag serial _ pairs :: outer =>
      let node := .mapping tag pairs.reverse
      ({ c with branches := outer }.register serial node).attach node
    | [] => c

end Assembly

/-- The document that a row of events walks through. -/
def Document.ofEvents? (events : List Event) : Option Document := do
  let (numbers, table) ← numberAliases? ⟨[], [], 0⟩ [] events
  let aliases := numbers.reverse.map fun number => (table.owners.lookup number).getD 0
  let c := events.foldl Assembly.step ⟨[], none, [], 0, aliases⟩
  return ⟨← c.root, c.anchored, events.length⟩

/-- The one document of a stream; absent where the text is not YAML, or holds no document or more
than one. -/
def read? (s : List Char) : Option Document := do
  match ← documents? (← tokens? s) with
  | [events] => Document.ofEvents? events
  | _ => none

end Covenant.Yaml
