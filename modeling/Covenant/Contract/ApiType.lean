import Covenant.Json.Value
import Covenant.Text.Ordered
import Covenant.Text.Split
/-!
# Types of an API

The types that parameters, bodies and replies have, whatever language they are written in.

* `ApiType.ofSchema` reads a schema: a `$ref` names a type, `type` says which of the basic ones,
  and everything else is `unknown`. It never fails.
* `ApiType.names` are the named types that occur in a type.
-/

namespace Covenant.Contract

open Covenant.Text

/-- A type that no language is needed to state. -/
inductive ApiType where
  | string
  | number
  | boolean
  | array (item : ApiType)
  | object
  | named (name : String)
  | unknown
deriving Repr, DecidableEq, Inhabited

namespace ApiType

/-- The characters that a type name may hold. -/
def isNameChar (c : Char) : Bool := c.isAlphanum || c == '_'

/-- The part of a reference after its last slash. -/
def lastSegment (reference : List Char) : List Char :=
  (splitAtChar '/' reference).getLast?.getD []

/-- The type that a reference names: what a name may hold of its last segment, unless nothing is
left or a digit comes first. -/
def ofReference (reference : String) : ApiType :=
  match (lastSegment reference.toList).filter isNameChar with
  | [] => .unknown
  | c :: r => if c.isDigit then .unknown else .named (.ofList (c :: r))

mutual

/-- The type that a schema describes. -/
def ofSchema : Json.Value → ApiType
  | .members fields =>
    match (fields.lookup "$ref").bind Json.Value.text? with
    | some reference => ofReference reference
    | none =>
      match (fields.lookup "type").bind Json.Value.text? with
      | some "string" => .string
      | some "integer" => .number
      | some "number" => .number
      | some "boolean" => .boolean
      | some "array" => .array (ofItems fields)
      | some "object" => .object
      | _ => .unknown
  | _ => .unknown

/-- The type of the items of an array schema with these members. -/
def ofItems : List (String × Json.Value) → ApiType
  | [] => .unknown
  | (name, schema) :: rest => if name == "items" then ofSchema schema else ofItems rest

end

/-- The name of the innermost item type, if it has one. -/
def name? : ApiType → Option String
  | .named name => some name
  | .array item => item.name?
  | _ => none

/-- The named types that occur in a type, added to `names`. -/
def collectNames (type : ApiType) (names : TextSet) : TextSet :=
  match type.name? with
  | some name => names.insert name
  | none => names

end ApiType

end Covenant.Contract
