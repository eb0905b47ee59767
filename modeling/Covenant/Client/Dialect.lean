import Covenant.Client.Context
import Covenant.Client.Template
import Covenant.Client.TypeNames
import Covenant.Naming.Identifier
/-!
# Dialects

A dialect is what one target language decides about a client: names, the look of a signature, and
where its files lie.
-/

namespace Covenant.Client

/-- An argument of a method. -/
structure Argument where
  name : String
  type : String
  optional : Bool
deriving Repr, DecidableEq, Inhabited

/-- How a method hands on what it got: its type, the helper that it calls, a further argument of
that helper, and what it returns when there is nothing. -/
structure ReplyForm where
  returns : String
  dispatch : String
  typeArgument : String
  zero : String
deriving Repr, DecidableEq, Inhabited

/-- How a method hands on its body argument, and the statements that it needs before. -/
structure BodyForm where
  expression : String
  prelude : String
deriving Repr, DecidableEq, Inhabited

/-- The templates of a target. -/
structure TemplateSet where
  client : Template
  method : Template
  pathParam : Template
  queryParam : Template
  headerParam : Template
  entry : Template
  manifest : Template

/-- The files of a project by their role. -/
structure Layout where
  entry : String
  client : String
  manifest : String
deriving Repr, DecidableEq, Inhabited

/-- What a target language decides. -/
structure Dialect where
  target : Target
  argumentCase : String → String
  methodCase : String → String
  /-- Words that no argument may be called. -/
  reserved : List String
  /-- Words that no method may be called. -/
  methodReserved : List String
  /-- What begins a comment that ends with its line. -/
  comment : String
  /-- The declaration of the arguments of a method. -/
  arguments : List Argument → String
  /-- The form of a reply of a type, or of a reply that is not read as JSON. -/
  reply : Option String → ReplyForm
  /-- The form of the body argument of a name, or of no body. -/
  body : Option String → BodyForm
  /-- The type that owns the methods, where a method names it. -/
  owner : EmitContext → String
  /-- The declaration of the aliases for named types. -/
  aliases : List String → String
  package : EmitContext → String
  templates : TemplateSet
  layout : EmitContext → Layout

/-- The types of the dialect's language. -/
def Dialect.types (dialect : Dialect) : TypeNames := dialect.target.typeNames

/-- One declaration for each name and, if there is any, what separates them from the rest. -/
def aliasBlock (declare : String → String) (separator : String) (names : List String) : String :=
  if names.isEmpty then "" else .join (names.map declare) ++ separator

end Covenant.Client
