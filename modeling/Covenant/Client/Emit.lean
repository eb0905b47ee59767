import Covenant.Client.Dialects.Go
import Covenant.Client.Dialects.Java
import Covenant.Client.Dialects.Python
import Covenant.Client.Dialects.Rust
import Covenant.Client.Dialects.TypeScript
import Covenant.Client.Method
import Covenant.Text.Ordered
/-!
# Generated projects

`emit` makes the files of a client project in one language; its result maps relative paths to
texts.

* A project has three files: an entry point that lists the operations, the client module with one
  method for each operation, and a manifest.
* The client module begins with an alias for each named type that an operation refers to.
-/

namespace Covenant.Client

open Covenant.Contract Covenant.Json Covenant.Naming Covenant.Text

/-! ## 1. Errors -/

/-- Why nothing was generated, or why what is stored is not what is generated. -/
inductive ClientError where
  | unsupported (language : String)
  | template (fault : TemplateError)
  | badPath (path : String)
  | files (path detail : String)
  | drift (text : String)
deriving Repr, DecidableEq

/-- What a template's fault says. -/
def TemplateError.message : TemplateError → String
  | .unknown id => "unknown template " ++ id
  | .unbound id slot => id ++ ": no binding for " ++ slot

/-- What an error says. -/
def ClientError.message : ClientError → String
  | .unsupported language => "unsupported language: " ++ language
  | .template fault => "template error: " ++ fault.message
  | .badPath path => "io error: invalid output path: " ++ path
  | .files path detail => "io error: " ++ path ++ ": " ++ detail
  | .drift text => "generated output drift: " ++ text

/-! ## 2. Languages and templates -/

/-- What a target decides. -/
def Target.dialect : Target → Dialect
  | .go => goDialect
  | .java => javaDialect
  | .python => pythonDialect
  | .rust => rustDialect
  | .typescript => typeScriptDialect

/-- The templates of a target with the last part of their ids, sorted by it. -/
def TemplateSet.named (templates : TemplateSet) : List (String × Template) := [
  ("client", templates.client),
  ("entry", templates.entry),
  ("header_param", templates.headerParam),
  ("manifest", templates.manifest),
  ("method", templates.method),
  ("path_param", templates.pathParam),
  ("query_param", templates.queryParam)]

/-- Every template by id, sorted. -/
def templateLibrary : List (String × Template) :=
  Target.all.flatMap fun target =>
    target.dialect.templates.named.map fun (kind, template) => (templateId target kind, template)

/-- The ids of all templates, sorted. -/
def templateIds : List String := templateLibrary.map Prod.fst

/-- Fills the template of an id. -/
def renderTemplate (id : String) (bindings : Bindings) : Except TemplateError String :=
  match templateLibrary.lookup id with
  | some template => fillNamed id template bindings
  | none => .error (.unknown id)

/-- Fills the template of an id once for each item. -/
def renderEach (id : String) : List Bindings → Except TemplateError String
  | [] => .ok ""
  | bindings :: rest => do return (← renderTemplate id bindings) ++ (← renderEach id rest)

/-! ## 3. Projects -/

/-- The files of a project by relative path. -/
abbrev FileSet := TextMap String

/-- The types that an operation refers to. -/
def typesIn (operation : Operation) : List ApiType :=
  operation.parameters.map (·.type) ++ operation.bodyType.toList ++ operation.reply.type?.toList

/-- The names of the types that operations refer to, each once and sorted. -/
def referencedNames (operations : List Operation) : TextSet :=
  (operations.flatMap typesIn).foldl (fun names type => type.collectNames names) .empty

/-- The line of an operation in the entry point. -/
def operationComment (comment : String) (operation : Operation) : String :=
  comment ++ "   " ++ operation.verb.text ++ " " ++ inlineText operation.path ++ " "
    ++ operation.id ++ ((summaryText? operation).map (": " ++ ·)).getD ""

/-- The operations as lines of comment. -/
def operationComments (comment : String) (operations : List Operation) : String :=
  joinStrings "\n" (operations.map (operationComment comment))

/-- Methods with one empty line between them. -/
def joinMethods (methods : List String) : String :=
  joinStrings "\n\n" (methods.map fun method => .ofList (trimEndOf '\n' method.toList))

/-- The bindings of the templates of whole files. -/
def fileBindings (dialect : Dialect) (operations : List Operation) (context : EmitContext)
    (methods : List String) : Bindings := [
  ("title", .text context.title),
  ("version", .text context.version),
  ("service_name", .text context.serviceName),
  ("class_name", .text context.className),
  ("base_url", .text context.baseUrl),
  ("package", .text (dialect.package context)),
  ("operations", .text (operationComments dialect.comment operations)),
  ("methods", .text (joinMethods methods)),
  ("aliases", .text (dialect.aliases (referencedNames operations).toList))]

/-- The files of a client in a dialect. -/
def Dialect.emit (dialect : Dialect) (operations : List Operation) (context : EmitContext) :
    Except TemplateError FileSet := do
  let methods ← (methodsOf dialect [] operations).mapM (·.render dialect context)
  let bindings := fileBindings dialect operations context methods
  let layout := dialect.layout context
  let id := templateId dialect.target
  let entry ← fillNamed (id "entry") dialect.templates.entry bindings
  let client ← fillNamed (id "client") dialect.templates.client bindings
  let manifest ← fillNamed (id "manifest") dialect.templates.manifest bindings
  return ((TextMap.empty.insert layout.entry entry).insert layout.client client).insert
    layout.manifest manifest

/-- The files of a client in the language that a name means. -/
def emit (operations : List Operation) (language : String) (context : EmitContext) :
    Except ClientError FileSet :=
  match Target.resolve? language with
  | none => .error (.unsupported language)
  | some target => (target.dialect.emit operations context).mapError .template

/-- The files of a client for each language, up to the first failure. -/
def emitAll (operations : List Operation) (languages : List String) (context : EmitContext) :
    Except ClientError (List (String × FileSet)) :=
  languages.mapM fun language => do return (language, ← emit operations language context)

end Covenant.Client
