import Covenant.Json.Value
import Covenant.Text.Ordered
/-!
# Contract documents

The parts of an OpenAPI document that clients are made from. A document keeps its paths in the
order in which they are written; what it does not know is left out when it is read.
-/

namespace Covenant.Contract

open Covenant.Text

/-! ## 1. Verbs and locations -/

/-- The HTTP verbs of an operation, in the order in which a path lists them. -/
inductive Verb where
  | get | post | put | patch | delete
deriving Repr, DecidableEq, Inhabited

namespace Verb

/-- Every verb, in order. -/
def all : List Verb := [.get, .post, .put, .patch, .delete]

/-- The verb as it stands in a request. -/
def text : Verb → String
  | .get => "GET"
  | .post => "POST"
  | .put => "PUT"
  | .patch => "PATCH"
  | .delete => "DELETE"

/-- The member of a path item that declares the verb. -/
def member : Verb → String
  | .get => "get"
  | .post => "post"
  | .put => "put"
  | .patch => "patch"
  | .delete => "delete"

/-- The verb that a text names. -/
def ofText? (s : String) : Option Verb := all.find? (·.text == s)

end Verb

/-- Where in a request a parameter is sent; `other` is every place that clients do not know. -/
inductive Location where
  | path | query | header | cookie | other
deriving Repr, DecidableEq, Inhabited

namespace Location

/-- Every location. -/
def all : List Location := [.path, .query, .header, .cookie, .other]

/-- The location as it is written. -/
def text : Location → String
  | .path => "path"
  | .query => "query"
  | .header => "header"
  | .cookie => "cookie"
  | .other => "other"

/-- The location that a text names; a text that names none means `other`. -/
def ofText (s : String) : Location := (all.find? (·.text == s)).getD .other

end Location

/-! ## 2. Declarations -/

/-- A parameter as it is declared; a reference to a shared parameter has neither name nor
location. -/
structure ParameterDeclaration where
  name : Option String
  location : Option Location
  required : Bool
  schema : Option Json.Value
  reference : Option String
deriving Repr, Inhabited

/-- The schema of each media type. -/
abbrev Content := TextMap (Option Json.Value)

/-- A request body. -/
structure RequestBody where
  content : Content
  required : Bool
deriving Repr, Inhabited

/-- A response to one status. -/
structure Response where
  description : Option String
  content : Content
deriving Repr, Inhabited

/-- An operation as it is declared. -/
structure OperationDeclaration where
  operationId : Option String
  summary : Option String
  tags : List String
  parameters : List ParameterDeclaration
  requestBody : Option RequestBody
  responses : TextMap Response
deriving Repr, Inhabited

/-- The operations of one path, and the parameters that all of them share. -/
structure PathItem where
  get : Option OperationDeclaration
  post : Option OperationDeclaration
  put : Option OperationDeclaration
  patch : Option OperationDeclaration
  delete : Option OperationDeclaration
  parameters : List ParameterDeclaration
deriving Repr, Inhabited

/-- The operation that a path declares for a verb. -/
def PathItem.operation? (item : PathItem) : Verb → Option OperationDeclaration
  | .get => item.get
  | .post => item.post
  | .put => item.put
  | .patch => item.patch
  | .delete => item.delete

/-- The declared operations of a path, in the order of the verbs. -/
def PathItem.operations (item : PathItem) : List (Verb × OperationDeclaration) :=
  Verb.all.filterMap fun verb => (item.operation? verb).map (verb, ·)

/-- A path template with what is declared for it. -/
structure PathEntry where
  template : String
  item : PathItem
deriving Repr, Inhabited

/-! ## 3. Documents -/

/-- What a contract says about itself. -/
structure Info where
  title : String
  version : String
  description : Option String
deriving Repr, DecidableEq, Inhabited

/-- A server on which the API is offered. -/
structure Server where
  url : String
  description : Option String
deriving Repr, DecidableEq, Inhabited

/-- A contract. -/
structure Document where
  openapi : Option String
  info : Info
  servers : List Server
  paths : List PathEntry
  schemas : TextMap Json.Value
deriving Repr, Inhabited

/-- The address of the first server. -/
def Document.primaryUrl? (document : Document) : Option String :=
  document.servers.head?.map (·.url)

end Covenant.Contract
