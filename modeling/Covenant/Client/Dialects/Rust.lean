import Covenant.Client.Dialect
import Covenant.Client.Templates.Rust
import Covenant.Naming.Words
import Covenant.Text.Split
/-!
# The Rust dialect

Optional arguments are options, a body becomes a JSON value before it is sent, and every named
type is an alias.
-/

namespace Covenant.Client

open Covenant.Naming Covenant.Text

/-- Keywords, members of the client and the locals of a method. -/
def rustReserved : List String := [
  "abstract", "as", "async", "await", "base_url", "become", "body", "body_json", "box", "break",
  "const", "continue", "crate", "do", "dyn", "else", "enum", "extern", "false", "final", "fn",
  "for", "headers", "if", "impl", "in", "let", "loop", "macro", "match", "mod", "move", "mut",
  "new", "override", "path", "priv", "pub", "query", "ref", "request_json", "request_text",
  "return", "self", "send", "static", "struct", "super", "trait", "true", "try", "type", "typeof",
  "unsafe", "unsized", "use", "value", "virtual", "where", "while", "yield"]

/-- An argument after `self`; one that may be absent is an option. -/
def rustArgument (argument : Argument) : String :=
  ", " ++ argument.name ++ ": " ++
    if argument.optional then "Option<" ++ argument.type ++ ">" else argument.type

/-- The alias for a named type, with its documentation. -/
def rustAlias (name : String) : String :=
  "/// `" ++ name ++ "` schema.\npub type " ++ name ++ " = "
    ++ Target.rust.typeNames.aliasTarget ++ ";\n"

/-- The statement that makes a JSON value of a body argument. -/
def rustBodyPrelude (name : String) : String :=
  "        let body_json = serde_json::to_value(&" ++ name ++ ").map_err(ApiError::Json)?;\n"

/-- What Rust decides about a client. -/
def rustDialect : Dialect where
  target := .rust
  argumentCase := snakeCase
  methodCase := snakeCase
  reserved := rustReserved
  methodReserved := rustReserved
  comment := "//"
  arguments arguments := .join (arguments.map rustArgument)
  reply
    | some type => ⟨type, "request_json", "", ""⟩
    | none => ⟨"String", "request_text", "", ""⟩
  body
    | some name => ⟨"Some(body_json)", rustBodyPrelude name⟩
    | none => ⟨"None", ""⟩
  owner _ := ""
  aliases := aliasBlock rustAlias "\n"
  package context := context.serviceName
  templates := {
    client := rustClient
    method := rustMethod
    pathParam := rustPathParam
    queryParam := rustQueryParam
    headerParam := rustHeaderParam
    entry := rustEntry
    manifest := rustManifest }
  layout _ := ⟨"src/main.rs", "src/client.rs", "Cargo.toml"⟩

end Covenant.Client
