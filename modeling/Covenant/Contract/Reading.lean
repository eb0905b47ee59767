import Covenant.Contract.Document
import Covenant.Record.Fields
/-!
# Reading a contract

A contract is the same document in whichever notation it is written. A `Source` says what the
parts of a notation are: what counts as a text, a list, a record and so on, and what stands for
an optional part that is left out. From a source, `readDocument` reads a contract.

* Required are `info` with its `title`, and `paths`; a server needs its `url`.
* Fields that a record does not know are not looked at.
* Paths are kept in order, also when one comes twice; media types, statuses and schemas are
  ordered by name, and of two with one name the later counts.
-/

namespace Covenant.Contract

open Covenant.Text Covenant.Record

/-- How the parts of a document are written in a notation, with `ν` for a part not read yet. -/
structure Source (m : Type → Type) (ν : Type) where
  text : ν → m String
  flag : ν → m Bool
  /-- The part, unless it stands for one left out. -/
  present? : ν → m (Option ν)
  list : ν → m (List ν)
  /-- A map from texts, in the order in which it is written. -/
  entries : ν → m (List (String × ν))
  /-- A map from response statuses. -/
  statuses : ν → m (List (String × ν))
  /-- The known fields of a record, whose fields have the given names in this order. -/
  fields : List String → ν → m (Fields ν)
  location : ν → m Location
  schema : ν → m Json.Value

namespace Source

variable {m : Type → Type} [Monad m] [MonadExceptOf Fault m] (source : Source m ν)

/-- An optional part. -/
def opt (read : ν → m α) (part : ν) : m (Option α) := do
  match ← source.present? part with
  | some inner => some <$> read inner
  | none => pure none

/-- An optional text. -/
def optText : ν → m (Option String) := source.opt source.text

/-- A list of parts that are read alike. -/
def listOf (read : ν → m α) (part : ν) : m (List α) := do (← source.list part).mapM read

/-- The pairs of a map with their values read. -/
def pairsOf (read : ν → m α) (pairs : List (String × ν)) : m (List (String × α)) :=
  pairs.mapM fun pair => do return (pair.1, ← read pair.2)

/-- A map ordered by its keys. -/
def mapOf (read : ν → m α) (part : ν) : m (TextMap α) := do
  return .ofList (← pairsOf read (← source.entries part))

/-! ## 1. Inside an operation -/

/-- What one media type holds. -/
def readMedia (part : ν) : m (Option Json.Value) := do
  let fields ← source.fields ["schema"] part
  optional fields "schema" (source.opt source.schema)

/-- A parameter. -/
def readParameter (part : ν) : m ParameterDeclaration := do
  let fields ← source.fields ["name", "in", "required", "schema", "$ref"] part
  return {
    name := ← optional fields "name" source.optText
    location := ← optional fields "in" (source.opt source.location)
    required := ← withDefault fields "required" source.flag false
    schema := ← optional fields "schema" (source.opt source.schema)
    reference := ← optional fields "$ref" source.optText }

/-- The content of a body or a response. -/
def readContent (fields : Fields ν) : m Content :=
  withDefault fields "content" (source.mapOf source.readMedia) .empty

/-- A request body. -/
def readBody (part : ν) : m RequestBody := do
  let fields ← source.fields ["content", "required"] part
  return {
    content := ← source.readContent fields
    required := ← withDefault fields "required" source.flag false }

/-- A response. -/
def readResponse (part : ν) : m Response := do
  let fields ← source.fields ["description", "content"] part
  return {
    description := ← optional fields "description" source.optText
    content := ← source.readContent fields }

/-- The responses of an operation, by status. -/
def readResponses (part : ν) : m (TextMap Response) := do
  return .ofList (← pairsOf source.readResponse (← source.statuses part))

/-- An operation. -/
def readOperation (part : ν) : m OperationDeclaration := do
  let fields ← source.fields
    ["operationId", "summary", "tags", "parameters", "requestBody", "responses"] part
  return {
    operationId := ← optional fields "operationId" source.optText
    summary := ← optional fields "summary" source.optText
    tags := ← withDefault fields "tags" (source.listOf source.text) []
    parameters := ← withDefault fields "parameters" (source.listOf source.readParameter) []
    requestBody := ← optional fields "requestBody" (source.opt source.readBody)
    responses := ← withDefault fields "responses" source.readResponses .empty }

/-! ## 2. The document -/

/-- What is declared for one path. -/
def readItem (part : ν) : m PathItem := do
  let fields ← source.fields ["get", "post", "put", "patch", "delete", "parameters"] part
  let operation (verb : Verb) := optional fields verb.member (source.opt source.readOperation)
  return {
    get := ← operation .get
    post := ← operation .post
    put := ← operation .put
    patch := ← operation .patch
    delete := ← operation .delete
    parameters := ← withDefault fields "parameters" (source.listOf source.readParameter) [] }

/-- The paths of a contract, in order. -/
def readPaths (part : ν) : m (List PathEntry) := do
  return (← pairsOf source.readItem (← source.entries part)).map fun pair => ⟨pair.1, pair.2⟩

/-- What a contract says about itself. -/
def readInfo (part : ν) : m Info := do
  let fields ← source.fields ["title", "version", "description"] part
  return {
    title := ← required fields "title" source.text
    version := ← withDefault fields "version" source.text ""
    description := ← optional fields "description" source.optText }

/-- A server. -/
def readServer (part : ν) : m Server := do
  let fields ← source.fields ["url", "description"] part
  return {
    url := ← required fields "url" source.text
    description := ← optional fields "description" source.optText }

/-- The schemas that the components of a contract hold. -/
def readComponents (part : ν) : m (TextMap Json.Value) := do
  let fields ← source.fields ["schemas"] part
  withDefault fields "schemas" (source.mapOf source.schema) .empty

/-- A contract. -/
def readDocument (part : ν) : m Document := do
  let fields ← source.fields ["openapi", "info", "servers", "paths", "components"] part
  return {
    openapi := ← optional fields "openapi" source.optText
    info := ← required fields "info" source.readInfo
    servers := ← withDefault fields "servers" (source.listOf source.readServer) []
    paths := ← required fields "paths" source.readPaths
    schemas := ← withDefault fields "components" source.readComponents .empty }

end Source

end Covenant.Contract
