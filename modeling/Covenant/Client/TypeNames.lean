import Covenant.Client.Target
import Covenant.Contract.ApiType
/-!
# Types in the target languages

For each target one table says how the types of an API are written. A named type is written by its
name, for which the client module then declares an alias, or by one fixed type.
-/

namespace Covenant.Client

open Covenant.Contract

/-- How named types are written. -/
inductive NamedForm where
  | byName
  | fixed (native : String)
deriving Repr, DecidableEq

/-- The types of a language. -/
structure TypeNames where
  string : String
  number : String
  boolean : String
  arrayOpen : String
  arrayClose : String
  object : String
  named : NamedForm
  unknown : String
  aliasTarget : String
deriving Repr, DecidableEq

/-- The types of each target. -/
def Target.typeNames : Target → TypeNames
  | .typescript => {
      string := "string"
      number := "number"
      boolean := "boolean"
      arrayOpen := "Array<"
      arrayClose := ">"
      object := "Record<string, any>"
      named := .byName
      unknown := "any"
      aliasTarget := "Record<string, any>" }
  | .python => {
      string := "str"
      number := "float"
      boolean := "bool"
      arrayOpen := "List["
      arrayClose := "]"
      object := "Dict[str, Any]"
      named := .byName
      unknown := "Any"
      aliasTarget := "Dict[str, Any]" }
  | .go => {
      string := "string"
      number := "float64"
      boolean := "bool"
      arrayOpen := "[]"
      arrayClose := ""
      object := "map[string]interface\x7b\x7d"
      named := .byName
      unknown := "interface\x7b\x7d"
      aliasTarget := "map[string]interface\x7b\x7d" }
  | .java => {
      string := "String"
      number := "Double"
      boolean := "Boolean"
      arrayOpen := "List<"
      arrayClose := ">"
      object := "Map<String, Object>"
      named := .fixed "JsonNode"
      unknown := "Object"
      aliasTarget := "JsonNode" }
  | .rust => {
      string := "String"
      number := "f64"
      boolean := "bool"
      arrayOpen := "Vec<"
      arrayClose := ">"
      object := "serde_json::Map<String, serde_json::Value>"
      named := .byName
      unknown := "serde_json::Value"
      aliasTarget := "serde_json::Value" }

/-- A type as a language writes it. -/
def TypeNames.render (names : TypeNames) : ApiType → String
  | .string => names.string
  | .number => names.number
  | .boolean => names.boolean
  | .array item => names.arrayOpen ++ names.render item ++ names.arrayClose
  | .object => names.object
  | .named name =>
    match names.named with
    | .byName => name
    | .fixed native => native
  | .unknown => names.unknown

end Covenant.Client
