import Covenant.Json.Raw
import Covenant.Json.Value
import Covenant.Record.Fields
import Covenant.Text.Ordered
/-!
# Reading values from JSON text

A part of a JSON text is a tree with the number of brackets that may still be opened in it: a text
in which more than 127 brackets are open at once, in parts that are looked at, is refused.

* `text`, `flag`, `list`, `entries` and `fields` read a part as what a record asks for; `null`
  stands for an optional part left out (`present?`).
* A record may also be written as the list of its fields.
* `value` reads a part as it is. Of two members with one name the later counts.
-/

namespace Covenant.Json

open Covenant.Record

/-- A tree, and how many levels of brackets may be opened in it. -/
structure Part where
  depth : Nat
  raw : Raw
deriving Inhabited

/-- The levels of brackets that a text may open. -/
def maxDepth : Nat := 127

/-- A whole text as a part. -/
def Part.whole (raw : Raw) : Part := ⟨maxDepth, raw⟩

namespace Part

/-- What is read inside of an opened bracket. -/
def inside (part : Part) : Except Fault Nat :=
  match part.depth with
  | 0 => .error .tooDeep
  | depth + 1 => .ok depth

/-- A text. -/
def text (part : Part) : Except Fault String :=
  match part.raw with
  | .text (some s) => .ok s
  | .text none => .error .brokenText
  | _ => .error (.wanted .text)

/-- A boolean. -/
def flag (part : Part) : Except Fault Bool :=
  match part.raw with
  | .flag b => .ok b
  | _ => .error (.wanted .flag)

/-- The part, unless it is `null`. -/
def present? (part : Part) : Option Part :=
  match part.raw with
  | .null => none
  | _ => some part

/-- The items of an array. -/
def list (part : Part) : Except Fault (List Part) :=
  match part.raw with
  | .items values => do
    let depth ← part.inside
    return values.map fun raw => ⟨depth, raw⟩
  | _ => .error (.wanted .list)

/-- The name of a member. -/
def name (key : Option String) : Except Fault String :=
  match key with
  | some s => .ok s
  | none => .error .brokenText

/-- The members of an object, in order. -/
def entries (part : Part) : Except Fault (List (String × Part)) :=
  match part.raw with
  | .members pairs => do
    let depth ← part.inside
    pairs.mapM fun pair => return (← name pair.1, ⟨depth, pair.2⟩)
  | _ => .error (.wanted .record)

/-- The known fields of a record, written as an object or as the list of its fields. -/
def fields (names : List String) (part : Part) : Except Fault (Fields Part) :=
  match part.raw with
  | .items _ => do positional names (← part.list)
  | _ => do known names (← part.entries)

/-- A word that stands alone or names the one member of an object, which is `null` then. -/
def choice (part : Part) : Except Fault String :=
  match part.raw with
  | .members _ => do
    match ← part.entries with
    | [(word, inner)] => if inner.present?.isNone then .ok word else .error (.wanted .choice)
    | _ => .error (.wanted .choice)
  | .text _ => part.text
  | _ => .error (.wanted .choice)

end Part

/-! ## 2. Values -/

/-- The number that is written. -/
def RawNumber.number (raw : RawNumber) : Except Fault Number :=
  match (match raw with | .whole n => Number.ofWhole? n | .real n => Number.ofReal? n) with
  | some number => .ok number
  | none => .error .numberTooLarge

/-- Of the members with one name only the last, ordered by name. -/
def lastMembers (pairs : List (String × Value)) : List (String × Value) :=
  (Text.TextMap.ofList pairs).toList

mutual

/-- The value of a tree in which `depth` levels of brackets may be opened. -/
def Raw.value (depth : Nat) : Raw → Except Fault Value
  | .null => .ok .null
  | .flag b => .ok (.flag b)
  | .number n => do return .number (← n.number)
  | .text none => .error .brokenText
  | .text (some s) => .ok (.text s)
  | .items values =>
    match depth with
    | 0 => .error .tooDeep
    | inner + 1 => do return .items (← rawValues inner values)
  | .members pairs =>
    match depth with
    | 0 => .error .tooDeep
    | inner + 1 => do return .members (lastMembers (← rawMembers inner pairs))

/-- The values of the trees in an array. -/
def rawValues (depth : Nat) : List Raw → Except Fault (List Value)
  | [] => .ok []
  | raw :: rest => do
    let value ← raw.value depth
    return value :: (← rawValues depth rest)

/-- The members of an object, in order. -/
def rawMembers (depth : Nat) : List (Option String × Raw) → Except Fault (List (String × Value))
  | [] => .ok []
  | (key, raw) :: rest => do
    let name ← Part.name key
    let value ← raw.value depth
    return (name, value) :: (← rawMembers depth rest)

end

/-- A part as it is. -/
def Part.value (part : Part) : Except Fault Value := part.raw.value part.depth

end Covenant.Json
