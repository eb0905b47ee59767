import Covenant.Record.Fields
import Covenant.Toml.Reader
/-!
# Reading records from TOML

What a record asks of a value.

* A record may also be written as the array of its fields in order; what comes after the last
  field is not looked at.
* A date or time stands for a record none of whose fields is given.
-/

namespace Covenant.Toml.Node

open Covenant.Record

/-- A text. -/
def asText : Node → Except Fault String
  | .text s => .ok s
  | _ => .error (.wanted .text)

/-- A whole number of 64 bits without a sign. -/
def asNat : Node → Except Fault Nat
  | .whole n => if 0 ≤ n && n < Int.pow 2 64 then .ok n.toNat else .error (.wanted .number)
  | _ => .error (.wanted .number)

/-- The items of an array. -/
def asList : Node → Except Fault (List Node)
  | .items _ values => .ok values
  | _ => .error (.wanted .list)

/-- A list of texts. -/
def asTexts (node : Node) : Except Fault (List String) := do (← node.asList).mapM asText

/-- The members of a table. -/
def asMembers : Node → Except Fault Members
  | .table _ members => .ok members
  | _ => .error (.wanted .record)

/-- The fields of a record. -/
def asFields (names : List String) : Node → Except Fault (Fields Node)
  | .table _ members => .ok members
  | .items _ values => .ok (names.zip values)
  | .moment => .ok []
  | _ => .error (.wanted .record)

end Covenant.Toml.Node
