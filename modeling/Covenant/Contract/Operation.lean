import Covenant.Contract.ApiType
import Covenant.Contract.Document
/-!
# Operations

What a client needs to know of an operation, taken from a contract.

* `operations?` walks the paths in document order and the verbs in their own; an operation
  without an id is left out, and so is one that a filter does not name.
* Parameters of the path come before those of the operation; one of the operation hides those of
  the path with its name and location.
* The reply is decided by the JSON content of status 200 or else of 201.
-/

namespace Covenant.Contract

open Covenant.Text

/-! ## 1. Descriptions -/

/-- What an operation answers with: nothing that is read as JSON, a named type, or JSON of no
name. -/
inductive Reply where
  | void
  | named (name : String)
  | untyped
deriving Repr, DecidableEq, Inhabited

/-- The type of the reply's body. -/
def Reply.type? : Reply → Option ApiType
  | .void => none
  | .named name => some (.named name)
  | .untyped => some .unknown

/-- A parameter of an operation. -/
structure Parameter where
  name : String
  type : ApiType
  location : Location
  required : Bool
deriving Repr, DecidableEq, Inhabited

/-- An operation. -/
structure Operation where
  id : String
  verb : Verb
  path : String
  summary : Option String
  tags : List String
  hasBody : Bool
  bodyType : Option ApiType
  parameters : List Parameter
  reply : Reply
deriving Repr, DecidableEq, Inhabited

/-- The path has no placeholder. -/
def Operation.isCollection (operation : Operation) : Bool :=
  !operation.path.toList.contains '{'

/-- The parameters sent at a location, in declaration order. -/
def Operation.parametersIn (operation : Operation) (location : Location) : List Parameter :=
  operation.parameters.filter (·.location == location)

/-! ## 2. Media types -/

/-- A media type of JSON: `application/json` or one that ends in `+json`, whatever the case of its
letters and whatever follows a semicolon. -/
def isJsonMediaType (mediaType : String) : Bool :=
  let essence := (trim (((splitAtChar ';' mediaType.toList).head?).getD [])).map Char.toLower
  essence == "application/json".toList || endsWith "+json".toList essence

/-- The schema of the first JSON media type: absent without JSON content, and absent inside when
that content has no schema. -/
def jsonSchema? (content : Content) : Option (Option Json.Value) :=
  (content.toList.find? fun entry => isJsonMediaType entry.1).map Prod.snd

/-! ## 3. Parameters -/

/-- The parameter that a declaration describes, if it has a name and a known location. A path
parameter is always required. -/
def Parameter.ofDeclaration? (declaration : ParameterDeclaration) : Option Parameter :=
  match declaration.name, declaration.location with
  | some _, some .other => none
  | some name, some location =>
    some {
      name
      type := (declaration.schema.map ApiType.ofSchema).getD .unknown
      location
      required := declaration.required || location == .path }
  | _, _ => none

/-- Two parameters that cannot both be sent: the same name at the same location. -/
def Parameter.sameKey (p q : Parameter) : Bool := p.name == q.name && p.location == q.location

/-- The parameters of an operation: those of its path that none of its own hides, then its own. -/
def mergeParameters (shared own : List ParameterDeclaration) : List Parameter :=
  let ownUsable := own.filterMap Parameter.ofDeclaration?
  (shared.filterMap Parameter.ofDeclaration?).filter
    (fun p => !ownUsable.any (Parameter.sameKey p)) ++ ownUsable

/-! ## 4. Bodies and replies -/

/-- The type of the request body, `unknown` where its JSON content says nothing. -/
def bodyType? (operation : OperationDeclaration) : Option ApiType :=
  operation.requestBody.map fun body =>
    match jsonSchema? body.content with
    | some (some schema) => .ofSchema schema
    | _ => .unknown

/-- The reply that the response to one status decides, if it has JSON content. -/
def replyOf? (response : Response) : Option Reply :=
  (jsonSchema? response.content).map fun schema =>
    match schema.map ApiType.ofSchema with
    | some (.named name) => .named name
    | _ => .untyped

/-- The statuses that decide the reply, the first with JSON content first. -/
def replyStatuses : List String := ["200", "201"]

/-- The reply of an operation. -/
def replyOf (operation : OperationDeclaration) : Reply :=
  (replyStatuses.findSome? fun status => (operation.responses.get? status).bind replyOf?).getD .void

/-! ## 5. Extraction -/

/-- Why no operation was extracted. -/
inductive NoOperations where
  /-- The contract gives no operation an id. -/
  | noneDeclared
  /-- No declared id is in the filter. -/
  | noneMatched (filter : TextSet)
deriving Repr

/-- The reason in words. -/
def NoOperations.message : NoOperations → String
  | .noneDeclared => "contract declares no operations with an operationId"
  | .noneMatched filter => "filter [" ++ joinStrings ", " filter.toList ++ "] matched no operations"

/-- The filter, if there is one, names the id. -/
def admits (filter : Option TextSet) (id : String) : Bool := filter.all (·.contains id)

/-- The operation that a path declares under `verb`, if it has an id that the filter admits. -/
def Operation.ofDeclaration? (filter : Option TextSet) (entry : PathEntry) (verb : Verb)
    (declaration : OperationDeclaration) : Option Operation :=
  declaration.operationId.bind fun id =>
    if admits filter id then
      some {
        id
        verb
        path := entry.template
        summary := declaration.summary
        tags := declaration.tags
        hasBody := declaration.requestBody.isSome
        bodyType := bodyType? declaration
        parameters := mergeParameters entry.item.parameters declaration.parameters
        reply := replyOf declaration }
    else none

/-- The operations of a contract that the filter admits, in document order. -/
def Document.extract (document : Document) (filter : Option TextSet) : List Operation :=
  document.paths.flatMap fun entry =>
    entry.item.operations.filterMap fun declared =>
      Operation.ofDeclaration? filter entry declared.1 declared.2

/-- The operations of a contract; it is an error if there are none. -/
def Document.operations (document : Document) (filter : Option TextSet) :
    Except NoOperations (List Operation) :=
  match document.extract filter with
  | [] => .error (match filter with
    | some names => .noneMatched names
    | none => .noneDeclared)
  | operations => .ok operations

/-! ## 6. Catalogs -/

/-- A text filled up with spaces to at least `width` characters. -/
def padEnd (width : Nat) (s : String) : String :=
  s ++ .ofList (List.replicate (width - s.toList.length) ' ')

/-- The line that lists an operation: verb, path and id, and its summary after a colon. -/
def Operation.catalogLine (operation : Operation) : String :=
  let head := padEnd 6 operation.verb.text ++ " " ++ operation.path ++ " " ++ operation.id
  match operation.summary with
  | none => head
  | some summary => if blankString summary then head else head ++ ": " ++ trimString summary

/-- The list of operations that is shown to a reader, one line for each. -/
def catalog (operations : List Operation) : String :=
  .join (operations.map fun operation => operation.catalogLine ++ "\n")

end Covenant.Contract
