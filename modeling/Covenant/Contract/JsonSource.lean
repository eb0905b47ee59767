import Covenant.Contract.Reading
import Covenant.Json.Decode
import Covenant.Json.Reader
/-!
# Contracts in JSON

The notation of JSON for contracts: texts and booleans as they are, `null` for a part left out.
-/

namespace Covenant.Contract

open Covenant.Record

/-- The parts of a contract in JSON. -/
def jsonSource : Source (Except Fault) Json.Part where
  text := Json.Part.text
  flag := Json.Part.flag
  present? part := .ok part.present?
  list := Json.Part.list
  entries := Json.Part.entries
  statuses := Json.Part.entries
  fields := Json.Part.fields
  location part := do return .ofText (← part.choice)
  schema := Json.Part.value

/-- The contract that a JSON text holds. -/
def ofJson (s : List Char) : Except Fault Document :=
  match Json.read? s with
  | none => .error .malformed
  | some raw => jsonSource.readDocument (.whole raw)

end Covenant.Contract
