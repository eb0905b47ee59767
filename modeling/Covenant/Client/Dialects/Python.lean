import Covenant.Client.Dialect
import Covenant.Client.Templates.Python
import Covenant.Naming.Words
import Covenant.Text.Split
/-!
# The Python dialect

Optional arguments have a default, and every named type is an alias before the client.
-/

namespace Covenant.Client

open Covenant.Naming Covenant.Text

/-- Keywords, members of the client and the locals of a method. -/
def pythonReserved : List String := [
  "False", "None", "True", "and", "as", "assert", "async", "await", "base_url", "body", "break",
  "class", "continue", "def", "del", "elif", "else", "except", "finally", "for", "from", "global",
  "headers", "if", "import", "in", "is", "lambda", "nonlocal", "not", "or", "pass", "path",
  "query", "quote", "raise", "requests", "return", "self", "session", "timeout", "try", "while",
  "with", "yield"]

/-- An argument after `self`; one that may be absent has a default. -/
def pythonArgument (argument : Argument) : String :=
  ", " ++ argument.name ++ ": " ++
    if argument.optional then "Optional[" ++ argument.type ++ "] = None" else argument.type

/-- What Python decides about a client. -/
def pythonDialect : Dialect where
  target := .python
  argumentCase := snakeCase
  methodCase := snakeCase
  reserved := pythonReserved
  methodReserved := pythonReserved
  comment := "#"
  arguments arguments := .join (arguments.map pythonArgument)
  reply
    | some type => ⟨"Optional[" ++ type ++ "]", "_request_json", "", ""⟩
    | none => ⟨"Optional[str]", "_request_text", "", ""⟩
  body
    | some name => ⟨name, ""⟩
    | none => ⟨"None", ""⟩
  owner _ := ""
  aliases := aliasBlock
    (fun name => name ++ " = " ++ Target.python.typeNames.aliasTarget ++ "\n") "\n\n"
  package _ := ""
  templates := {
    client := pythonClient
    method := pythonMethod
    pathParam := pythonPathParam
    queryParam := pythonQueryParam
    headerParam := pythonHeaderParam
    entry := pythonEntry
    manifest := pythonManifest }
  layout _ := ⟨"main.py", "api_client.py", "requirements.txt"⟩

end Covenant.Client
