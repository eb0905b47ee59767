import Covenant.Contract.Document
import Covenant.Naming.Inline
import Covenant.Naming.Words
/-!
# What every generated file shares

An `EmitContext` holds the names and texts of one generated project. It is derived from a contract,
and service name, package name and base URL may be set instead; a blank value changes nothing.
-/

namespace Covenant.Client

open Covenant.Contract Covenant.Naming Covenant.Text

/-- The names and texts of a generated project. -/
structure EmitContext where
  title : String
  version : String
  serviceName : String
  packageName : String
  baseUrl : String
  className : String
deriving Repr, DecidableEq, Inhabited

namespace EmitContext

/-- The base URL of a contract without servers. -/
def defaultBaseUrl : String := "http://localhost:8080"

/-- The service name of a contract whose title has no words. -/
def defaultServiceName : String := "api-client"

/-- What stands before a derived package name. -/
def packageRoot : String := "com.example"

/-- The service name that a title gives. -/
def serviceNameOf (title : String) : String :=
  let kebab := kebabCase title
  if kebab.isEmpty then defaultServiceName else kebab

/-- The package name that a service name gives: its words run together, after `_` if a digit
comes first. -/
def packageNameOf (service : String) : String :=
  let leaf := (snakeCase service).toList.filter (· != '_')
  let leaf := if leaf.head?.any Char.isDigit then '_' :: leaf else leaf
  packageRoot ++ "." ++ .ofList leaf

/-- A URL without slashes at its end. -/
def trimSlashes (url : String) : String := .ofList (trimEndOf '/' url.toList)

/-- The context that a contract gives. -/
def ofDocument (document : Document) : EmitContext :=
  let title := inlineText document.info.title
  let serviceName := serviceNameOf title
  {
    title
    version := inlineText document.info.version
    serviceName
    packageName := packageNameOf serviceName
    baseUrl := inlineText ((document.primaryUrl?.map trimSlashes).getD defaultBaseUrl)
    className := apiClassName title }

/-- Sets the service name, and with it the package name. -/
def withServiceName (context : EmitContext) (name : String) : EmitContext :=
  let kebab := kebabCase name
  if kebab.isEmpty then context
  else { context with serviceName := kebab, packageName := packageNameOf kebab }

/-- The segments of a package name: the words between dots, those without letters and digits left
out. -/
def packageSegments (name : String) : List String :=
  ((splitAtChar '.' name.toList).map fun segment => snakeCase (.ofList segment)).filter
    (fun segment => !segment.isEmpty)

/-- Sets the package name. -/
def withPackageName (context : EmitContext) (name : String) : EmitContext :=
  match packageSegments name with
  | [] => context
  | segments => { context with packageName := joinStrings "." segments }

/-- Sets the base URL. -/
def withBaseUrl (context : EmitContext) (url : String) : EmitContext :=
  let inlined := inlineText url
  if inlined.isEmpty then context else { context with baseUrl := trimSlashes inlined }

/-- Sets what is given, in the order service name, package name, base URL. -/
def override (context : EmitContext) (service package url : Option String) : EmitContext :=
  let context := (service.map context.withServiceName).getD context
  let context := (package.map context.withPackageName).getD context
  (url.map context.withBaseUrl).getD context

end EmitContext

end Covenant.Client
