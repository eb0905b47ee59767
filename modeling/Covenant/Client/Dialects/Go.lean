import Covenant.Client.Dialect
import Covenant.Client.Templates.Go
import Covenant.Naming.Words
import Covenant.Text.Split
/-!
# The Go dialect

Optional arguments are pointers, methods are exported, and every named type is an alias.
-/

namespace Covenant.Client

open Covenant.Naming Covenant.Text

/-- Keywords, predeclared names, imported packages and the locals of a method. -/
def goReserved : List String := [
  "append", "body", "bool", "break", "bytes", "c", "case", "chan", "const", "continue", "data",
  "default", "defer", "else", "err", "error", "fallthrough", "false", "fmt", "for", "func", "go",
  "goto", "headers", "http", "if", "import", "int", "interface", "io", "json", "len", "map",
  "nil", "package", "path", "query", "range", "result", "return", "select", "status", "string",
  "strings", "struct", "switch", "time", "true", "type", "url", "var"]

/-- An argument; one that may be absent is a pointer. -/
def goArgument (argument : Argument) : String :=
  argument.name ++ (if argument.optional then " *" else " ") ++ argument.type

/-- What Go decides about a client. -/
def goDialect : Dialect where
  target := .go
  argumentCase := camelCase
  methodCase := pascalCase
  reserved := goReserved
  methodReserved := []
  comment := "//"
  arguments arguments := joinStrings ", " (arguments.map goArgument)
  reply
    | some type => ⟨type, "", "", "nil"⟩
    | none => ⟨"string", "", "", "\"\""⟩
  body
    | some name => ⟨name, ""⟩
    | none => ⟨"nil", ""⟩
  owner context := context.className
  aliases := aliasBlock
    (fun name => "type " ++ name ++ " = " ++ Target.go.typeNames.aliasTarget ++ "\n") "\n"
  package context := context.serviceName
  templates := {
    client := goClient
    method := goMethod
    pathParam := goPathParam
    queryParam := goQueryParam
    headerParam := goHeaderParam
    entry := goEntry
    manifest := goManifest }
  layout _ := ⟨"main.go", "client/client.go", "go.mod"⟩

end Covenant.Client
