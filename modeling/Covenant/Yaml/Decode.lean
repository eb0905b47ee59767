import Covenant.Json.Decode
import Covenant.Yaml.Resolve
/-!
# Reading values from YAML

A part of a YAML document is a node with the number of collections that may still be entered in
it: at most 128 may be open at once in parts that are looked at. Aliases are followed as they are
met, and a reader follows at most a hundred of them for each event of the document.

* A text is the text of any scalar, whatever it might mean; a boolean is a plain scalar.
* An empty plain scalar stands for an empty list, map or record, and like `~` and `null` for an
  optional part left out.
* `value` reads a part as it is.
-/

namespace Covenant.Yaml

open Covenant.Record

/-- A node, and how many collections may be entered in it. -/
structure Part where
  depth : Nat
  node : Node
deriving Inhabited

/-- The collections that may be open at once. -/
def maxDepth : Nat := 128

/-- A reader that may fail, and counts the aliases it may still follow. -/
abbrev Reader := StateT Nat (Except Fault)

/-- Fails. -/
def fault (f : Fault) : Reader α := throw f

/-- The aliases that may be followed in a document. -/
def Document.budget (document : Document) : Nat := document.events * 100

/-- The whole document as a part. -/
def Document.whole (document : Document) : Part := ⟨maxDepth, document.root⟩

namespace Part

variable (anchored : List (Nat × Node))

/-- The part that an alias means; any other part is itself. -/
def follow (part : Part) : Reader Part := do
  match part.node with
  | .alias serial =>
    match ← get with
    | 0 => fault .tooManyAliases
    | left + 1 =>
      set left
      match anchored.lookup serial with
      | some node => return ⟨part.depth, node⟩
      | none => fault .tooManyAliases
  | _ => return part

/-- What is read inside of a collection. -/
def inside (part : Part) : Reader Nat :=
  match part.depth with
  | 0 => fault .tooDeep
  | depth + 1 => pure depth

/-- A plain scalar without text. -/
def isEmptyPlain : Node → Bool
  | .scalar _ .plain text => text.isEmpty
  | _ => false

/-- A text. -/
def text (part : Part) : Reader String := do
  match (← part.follow anchored).node with
  | .scalar _ _ s => return s
  | _ => fault (.wanted .text)

/-- A boolean, plain or literal with the tag that asks for one. -/
def flag (part : Part) : Reader Bool := do
  match (← part.follow anchored).node with
  | .scalar tag style s =>
    if style == .plain || (style == .literal && tag == some (tagOf "bool")) then
      match flagWord? s with
      | some b => return b
      | none => fault (.wanted .flag)
    else fault (.wanted .flag)
  | _ => fault (.wanted .flag)

/-- The part, unless it stands for one left out. -/
def present? (part : Part) : Reader (Option Part) := do
  let here ← part.follow anchored
  match here.node with
  | .scalar tag style s =>
    if style != .plain then return some here
    else match tag with
      | some name =>
        if name == tagOf "null" then if isNullWord s then return none else fault (.wanted .text)
        else return some here
      | none => return if s.isEmpty || isNullWord s then none else some here
  | _ => return some here

/-- The items of a sequence. -/
def list (part : Part) : Reader (List Part) := do
  let here ← part.follow anchored
  match here.node with
  | .sequence _ items =>
    let depth ← here.inside
    return items.map fun node => ⟨depth, node⟩
  | node => if isEmptyPlain node then return [] else fault (.wanted .list)

/-- The pairs of a mapping, with the keys read by `key`. -/
def pairs (key : Part → Reader κ) (part : Part) : Reader (List (κ × Part)) := do
  let here ← part.follow anchored
  match here.node with
  | .mapping _ pairs =>
    let depth ← here.inside
    pairs.mapM fun pair => do return (← key ⟨depth, pair.1⟩, ⟨depth, pair.2⟩)
  | node => if isEmptyPlain node then return [] else fault (.wanted .record)

/-- The pairs of a mapping with texts as keys. -/
def entries (part : Part) : Reader (List (String × Part)) := part.pairs anchored (text anchored)

/-- The known fields of a record. -/
def fields (names : List String) (part : Part) : Reader (Fields Part) := do
  match known names (← part.entries anchored) with
  | .ok found => return found
  | .error f => fault f

/-- A word: a scalar, or else the local tag of a plain scalar that stands for nothing. -/
def choice (part : Part) : Reader String := do
  match (← part.follow anchored).node with
  | .scalar tag style s =>
    if isLocalTag tag then
      if style == .plain && (s.isEmpty || isNullWord s) then
        let name := (tag.getD "").toList
        return .ofList (if name.length == 1 then name else name.drop 1)
      else fault (.wanted .choice)
    else return s
  | _ => fault (.wanted .choice)

/-- A key that is a text or a whole number, which is written in decimal then. -/
def numberOrText (part : Part) : Reader String := do
  match (← part.follow anchored).node with
  | .scalar tag style s =>
    if isLocalTag tag then fault (.wanted .key)
    else match meaning? tag style s with
      | some .text => return s
      | some (.whole n) => return toString n
      | _ => fault (.wanted .key)
  | _ => fault (.wanted .key)

end Part

/-! ## 2. Values -/

/-- The value of a scalar. -/
def scalarValue (tag : Option String) (style : Style) (s : String) : Reader Json.Value :=
  if isLocalTag tag then fault (.wanted .text)
  else match meaning? tag style s with
    | some .null | some .unreal => return .null
    | some (.flag b) => return .flag b
    | some (.whole n) => return .number (.whole n)
    | some (.real numeral) => return .number (.double numeral)
    | some .text => return .text s
    | some .outOfRange => fault .numberTooLarge
    | none => fault (.wanted .text)

/-- The value of a node in which `depth` collections may be entered. The nodes inside of one are
read with one level less, so it does not matter how aliases lead around. -/
def valueAt (anchored : List (Nat × Node)) : Nat → Node → Reader Json.Value
  | depth, start => do
    let here ← Part.follow anchored ⟨depth, start⟩
    match depth, here.node with
    | _, .scalar tag style s => scalarValue tag style s
    | depth + 1, .sequence tag items =>
      if isLocalTag tag then fault (.wanted .list)
      else return .items (← items.mapM (valueAt anchored depth))
    | depth + 1, .mapping tag pairs =>
      if isLocalTag tag then fault (.wanted .record)
      else
        let members ← pairs.mapM fun pair => do
          let name ← Part.text anchored ⟨depth, pair.1⟩
          return (name, ← valueAt anchored depth pair.2)
        return .members (Json.lastMembers members)
    | _, _ => fault .tooDeep

/-- A part as it is. -/
def Part.value (anchored : List (Nat × Node)) (part : Part) : Reader Json.Value :=
  valueAt anchored part.depth part.node

end Covenant.Yaml
