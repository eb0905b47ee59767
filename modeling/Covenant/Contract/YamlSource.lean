import Covenant.Contract.Reading
import Covenant.Yaml.Decode
/-!
# Contracts in YAML

The notation of YAML for contracts. A status may be written as a number, and a location as a tag.
-/

namespace Covenant.Contract

open Covenant.Record

/-- The parts of a contract in YAML, with the nodes that its aliases mean. -/
def yamlSource (anchored : List (Nat × Yaml.Node)) : Source Yaml.Reader Yaml.Part where
  text := Yaml.Part.text anchored
  flag := Yaml.Part.flag anchored
  present? := Yaml.Part.present? anchored
  list := Yaml.Part.list anchored
  entries := Yaml.Part.entries anchored
  statuses part := part.pairs anchored (Yaml.Part.numberOrText anchored)
  fields := Yaml.Part.fields anchored
  location part := do return .ofText (← part.choice anchored)
  schema := Yaml.Part.value anchored

/-- The contract that a YAML text holds. -/
def ofYaml (s : List Char) : Except Fault Document :=
  match Yaml.read? s with
  | none => .error .malformed
  | some document =>
    ((yamlSource document.anchored).readDocument document.whole |>.run document.budget).map Prod.fst

end Covenant.Contract
