import Covenant.Client.Dialect
import Covenant.Client.Templates.TypeScript
import Covenant.Naming.Words
import Covenant.Text.Split
/-!
# The TypeScript dialect

Optional arguments have a question mark, every reply may be undefined, and every named type is an
alias.
-/

namespace Covenant.Client

open Covenant.Naming Covenant.Text

/-- Reserved words and the locals of a method. -/
def typeScriptReserved : List String := [
  "await", "body", "break", "case", "catch", "class", "const", "continue", "debugger", "default",
  "delete", "do", "else", "enum", "export", "extends", "false", "finally", "for", "function",
  "headers", "if", "implements", "import", "in", "instanceof", "interface", "let", "new", "null",
  "package", "path", "private", "protected", "public", "query", "return", "static", "super",
  "switch", "this", "throw", "true", "try", "typeof", "var", "void", "while", "with", "yield"]

/-- Members of the client, which no method may hide. -/
def typeScriptMembers : List String := [
  "constructor", "send", "requestJson", "requestText", "baseUrl"]

/-- An argument; one that may be absent has a question mark. -/
def typeScriptArgument (argument : Argument) : String :=
  argument.name ++ (if argument.optional then "?: " else ": ") ++ argument.type

/-- What TypeScript decides about a client. -/
def typeScriptDialect : Dialect where
  target := .typescript
  argumentCase := camelCase
  methodCase := camelCase
  reserved := typeScriptReserved
  methodReserved := typeScriptMembers
  comment := "//"
  arguments arguments := joinStrings ", " (arguments.map typeScriptArgument)
  reply
    | some type => ⟨type ++ " | undefined", "requestJson<" ++ type ++ ">", "", ""⟩
    | none => ⟨"string | undefined", "requestText", "", ""⟩
  body
    | some name => ⟨name, ""⟩
    | none => ⟨"undefined", ""⟩
  owner _ := ""
  aliases := aliasBlock
    (fun name => "export type " ++ name ++ " = " ++ Target.typescript.typeNames.aliasTarget ++ ";\n")
    "\n"
  package _ := ""
  templates := {
    client := typeScriptClient
    method := typeScriptMethod
    pathParam := typeScriptPathParam
    queryParam := typeScriptQueryParam
    headerParam := typeScriptHeaderParam
    entry := typeScriptEntry
    manifest := typeScriptManifest }
  layout _ := ⟨"src/index.ts", "src/api.ts", "package.json"⟩

end Covenant.Client
