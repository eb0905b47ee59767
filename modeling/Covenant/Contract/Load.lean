import Covenant.Contract.JsonSource
import Covenant.Contract.Operation
import Covenant.Contract.YamlSource
/-!
# Loading a contract

* A text is read as JSON or as YAML; the name of a file that ends in `.json`, in letters of either
  case, says JSON.
* A contract is at most 8 MiB long.
-/

namespace Covenant.Contract

open Covenant.Record

/-- How a contract is written. -/
inductive Format where
  | json | yaml
deriving Repr, DecidableEq, Inhabited

/-- The format of a file with this name. -/
def Format.ofPath (path : String) : Format :=
  if Text.endsWith ".json".toList (path.toList.map Char.toLower) then .json else .yaml

/-- The most bytes that a contract may have. -/
def maxBytes : Nat := 8 * 1024 * 1024

/-- Why there is no contract, or nothing in it to make a client from. -/
inductive LoadError where
  | notFound (path : String)
  | tooLarge
  | notUtf8
  | malformed (detail : String)
  | isDirectory (path : String)
  | io (detail : String)
  | noOperations (reason : NoOperations)
deriving Repr

/-- The error in words. -/
def LoadError.message : LoadError → String
  | .notFound path => "contract not found: " ++ path
  | .tooLarge => "contract parse error: contract exceeds " ++ toString maxBytes ++ " bytes"
  | .notUtf8 => "contract parse error: contract must be utf-8"
  | .malformed detail => "contract parse error: " ++ detail
  | .isDirectory path => "contract io error: " ++ path ++ " is a directory"
  | .io detail => "contract io error: " ++ detail
  | .noOperations reason => "no operations to generate: " ++ reason.message

/-- The contract that a text holds. -/
def parse (format : Format) (text : String) : Except LoadError Document :=
  if maxBytes < text.utf8ByteSize then .error .tooLarge
  else
    let read := match format with
      | .json => ofJson text.toList
      | .yaml => ofYaml text.toList
    read.mapError fun fault => .malformed fault.message

/-- The contract that the content of a file with a name holds. -/
def ofBytes (name : String) (content : ByteArray) : Except LoadError Document :=
  if maxBytes < content.size then .error .tooLarge
  else match String.fromUTF8? content with
    | none => .error .notUtf8
    | some text => parse (.ofPath name) text

/-- The operations of a contract that the filter admits. -/
def Document.select (document : Document) (filter : Option Text.TextSet) :
    Except LoadError (List Operation) :=
  (document.operations filter).mapError .noOperations

end Covenant.Contract
