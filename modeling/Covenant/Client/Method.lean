import Covenant.Client.Dialect
import Covenant.Contract.Operation
/-!
# Methods of a client

What a method of a client consists of, apart from the look that its language gives it.

* Cookie parameters are not sent and make no argument.
* Arguments come as path parameters, body, required parameters, optional ones, each group in the
  order of declaration.
* Names of arguments are claimed in the order of declaration, the body last.
-/

namespace Covenant.Client

open Covenant.Contract Covenant.Json Covenant.Naming

/-! ## 1. Arguments -/

/-- A parameter with the name of its argument. -/
structure NamedParameter where
  parameter : Parameter
  name : String
deriving Repr, DecidableEq, Inhabited

/-- The parameter is sent by a client. -/
def isSent (parameter : Parameter) : Bool :=
  parameter.location == .path || parameter.location == .query || parameter.location == .header

/-- The parameters that take a name: all but cookies. -/
def takesName (parameter : Parameter) : Bool := parameter.location != .cookie

/-- Names the arguments of parameters, in order. -/
def nameParameters (dialect : Dialect) (taken : Scope) :
    List Parameter → List NamedParameter × Scope
  | [] => ([], taken)
  | parameter :: rest =>
    let (name, taken) :=
      claim dialect.reserved "arg" (dialect.argumentCase parameter.name) taken
    let (named, taken) := nameParameters dialect taken rest
    (⟨parameter, name⟩ :: named, taken)

/-- The argument for a parameter. -/
def NamedParameter.argument (types : TypeNames) (named : NamedParameter) : Argument :=
  ⟨named.name, types.render named.parameter.type, !named.parameter.required⟩

/-- The named parameters at a location. -/
def atLocation (location : Location) (named : List NamedParameter) : List NamedParameter :=
  named.filter (·.parameter.location == location)

/-- The arguments for the parameters of an operation, its body and the type of the body. -/
def argumentsOf (types : TypeNames) (named : List NamedParameter)
    (body : Option (String × ApiType)) : List Argument :=
  let argument := NamedParameter.argument types
  let inPath := atLocation .path named
  let others := named.filter fun n =>
    n.parameter.location == .query || n.parameter.location == .header
  inPath.map argument
    ++ (body.map fun b => Argument.mk b.1 (types.render b.2) false).toList
    ++ (others.filter (·.parameter.required)).map argument
    ++ (others.filter (fun n => !n.parameter.required)).map argument

/-! ## 2. Texts -/

/-- The summary of an operation on one line, if it says anything. -/
def summaryText? (operation : Operation) : Option String :=
  (operation.summary.map inlineText).filter (fun s => !s.isEmpty)

/-- The line that documents a method. -/
def methodDoc (operation : Operation) : String :=
  (summaryText? operation).getD (operation.verb.text ++ " " ++ inlineText operation.path)

/-- The bindings of the statement that sends a parameter. -/
def NamedParameter.bindings (named : NamedParameter) : Bindings := [
  ("ident", .text named.name),
  ("wire", .text (inlineText named.parameter.name)),
  ("placeholder", .text ("\x7b" ++ named.parameter.name ++ "\x7d")),
  ("optional", .flag (!named.parameter.required))]

/-! ## 3. Methods -/

/-- A template that could not be filled. -/
inductive TemplateError where
  | unknown (id : String)
  | unbound (id slot : String)
deriving Repr, DecidableEq

/-- Fills the template called `id`. -/
def fillNamed (id : String) (template : Template) (bindings : Bindings) :
    Except TemplateError String :=
  (template.fill bindings).mapError (.unbound id)

/-- Fills the template called `id` once for each item, and joins the results. -/
def fillEach (id : String) (template : Template) : List Bindings → Except TemplateError String
  | [] => .ok ""
  | bindings :: rest => do
    return (← fillNamed id template bindings) ++ (← fillEach id template rest)

/-- A method in parts. -/
structure Method where
  name : String
  doc : String
  path : String
  verb : String
  arguments : List Argument
  body : Option String
  returns : Option String
  parameters : List NamedParameter
deriving Repr, DecidableEq, Inhabited

/-- The method for an operation, and the method names taken with it. -/
def Method.ofOperation (dialect : Dialect) (operation : Operation) (methods : Scope) :
    Method × Scope :=
  let (name, methods) :=
    claim dialect.methodReserved "operation" (dialect.methodCase operation.id) methods
  let (parameters, taken) :=
    nameParameters dialect [] (operation.parameters.filter takesName)
  let body := if operation.hasBody then
      some ((claim [] "body" "body" taken).1, operation.bodyType.getD .unknown)
    else none
  ({
    name
    doc := methodDoc operation
    path := inlineText operation.path
    verb := operation.verb.text
    arguments := argumentsOf dialect.types parameters body
    body := body.map Prod.fst
    returns := operation.reply.type?.map dialect.types.render
    parameters }, methods)

/-- The id of a template of a target. -/
def templateId (target : Target) (kind : String) : String := target.id ++ "/" ++ kind

/-- The text of a method. -/
def Method.render (dialect : Dialect) (context : EmitContext) (method : Method) :
    Except TemplateError String := do
  let id := templateId dialect.target
  let at_ (location : Location) := (atLocation location method.parameters).map (·.bindings)
  let path ← fillEach (id "path_param") dialect.templates.pathParam (at_ .path)
  let query ← fillEach (id "query_param") dialect.templates.queryParam (at_ .query)
  let header ← fillEach (id "header_param") dialect.templates.headerParam (at_ .header)
  let reply := dialect.reply method.returns
  let body := dialect.body method.body
  fillNamed (id "method") dialect.templates.method [
    ("owner", .text (dialect.owner context)),
    ("name", .text method.name),
    ("doc", .text method.doc),
    ("path", .text method.path),
    ("verb", .text method.verb),
    ("params", .text (dialect.arguments method.arguments)),
    ("returns", .text reply.returns),
    ("dispatch", .text reply.dispatch),
    ("body", .text body.expression),
    ("body_prelude", .text body.prelude),
    ("type_arg", .text reply.typeArgument),
    ("zero", .text reply.zero),
    ("typed", .flag method.returns.isSome),
    ("has_query", .flag (!(at_ .query).isEmpty)),
    ("path_params", .text path),
    ("query_params", .text query),
    ("header_params", .text header)]

/-- The methods for a list of operations. -/
def methodsOf (dialect : Dialect) (methods : Scope) : List Operation → List Method
  | [] => []
  | operation :: rest =>
    let (method, methods) := Method.ofOperation dialect operation methods
    method :: methodsOf dialect methods rest

end Covenant.Client
