import Covenant.Client.Dialect
import Covenant.Client.Templates.Java
import Covenant.Naming.Words
import Covenant.Text.Split
/-!
# The Java dialect

Arguments are never optional in a signature, named types need no alias, and the files lie in the
folder of their package.
-/

namespace Covenant.Client

open Covenant.Naming Covenant.Text

/-- Keywords, literals, members of the client and the locals of a method. -/
def javaReserved : List String := [
  "abstract", "assert", "body", "boolean", "break", "byte", "case", "catch", "char", "class",
  "const", "continue", "default", "do", "double", "else", "encode", "enum", "extends", "false",
  "final", "finally", "float", "for", "getBaseUrl", "goto", "headers", "if", "implements",
  "import", "instanceof", "int", "interface", "long", "native", "new", "null", "package", "path",
  "private", "protected", "public", "query", "requestJson", "requestText", "return", "send",
  "short", "static", "strictfp", "super", "switch", "synchronized", "this", "throw", "throws",
  "transient", "true", "try", "var", "void", "volatile", "while"]

/-- The folder of a package. -/
def javaFolder (package : String) : String :=
  "src/main/java/" ++ .ofList (package.toList.map fun c => if c = '.' then '/' else c)

/-- What Java decides about a client. -/
def javaDialect : Dialect where
  target := .java
  argumentCase := camelCase
  methodCase := camelCase
  reserved := javaReserved
  methodReserved := javaReserved
  comment := "//"
  arguments arguments := joinStrings ", " (arguments.map fun a => a.type ++ " " ++ a.name)
  reply
    | some type => ⟨type, "requestJson", ", " ++ type ++ ".class", ""⟩
    | none => ⟨"String", "requestText", "", ""⟩
  body
    | some name => ⟨name, ""⟩
    | none => ⟨"null", ""⟩
  owner _ := ""
  aliases _ := ""
  package context := context.packageName
  templates := {
    client := javaClient
    method := javaMethod
    pathParam := javaPathParam
    queryParam := javaQueryParam
    headerParam := javaHeaderParam
    entry := javaEntry
    manifest := javaManifest }
  layout context :=
    let folder := javaFolder context.packageName
    ⟨folder ++ "/Main.java", folder ++ "/" ++ context.className ++ ".java", "pom.xml"⟩

end Covenant.Client
