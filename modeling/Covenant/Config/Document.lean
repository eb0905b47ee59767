import Covenant.Config.Check
import Covenant.Toml.Decode
/-!
# Written configurations

A configuration is written in TOML. Settings that it does not know are passed over.
-/

namespace Covenant.Config

open Covenant.Record Covenant.Text Covenant.Toml

/-- A text, where one may be left out. -/
def optionalText (fields : Fields Node) (name : String) : Except Fault (Option String) :=
  optional fields name fun node => do return some (← node.asText)

/-- The contract section. -/
def readContract (node : Node) : Except Fault ContractSection := do
  let fields ← node.asFields ["path", "sync_url", "sync_timeout_ms"]
  let unset := ContractSection.default
  return {
    path := ← withDefault fields "path" Node.asText unset.path
    syncUrl := ← optionalText fields "sync_url"
    syncTimeoutMs := ← withDefault fields "sync_timeout_ms" Node.asNat unset.syncTimeoutMs }

/-- The section on generation. -/
def readGenerate (node : Node) : Except Fault GenerateSection := do
  let fields ← node.asFields
    ["output_dir", "languages", "service_name", "package_name", "base_url"]
  let unset := GenerateSection.default
  return {
    outputDir := ← withDefault fields "output_dir" Node.asText unset.outputDir
    languages := ← withDefault fields "languages" Node.asTexts unset.languages
    serviceName := ← optionalText fields "service_name"
    packageName := ← optionalText fields "package_name"
    baseUrl := ← optionalText fields "base_url" }

/-- The plan section. -/
def readPlan (node : Node) : Except Fault PlanSection := do
  let fields ← node.asFields ["path"]
  return { path := ← withDefault fields "path" Node.asText PlanSection.default.path }

/-- Lists of texts by name. -/
def readSkips (node : Node) : Except Fault (TextMap (List String)) := do
  let members ← node.asMembers
  return .ofList (← members.mapM fun member => do return (member.1, ← member.2.asTexts))

/-- The section on rules. -/
def readGuard (node : Node) : Except Fault GuardSection := do
  let fields ← node.asFields ["disabled_rules", "extra_skip_patterns"]
  return {
    disabledRules := ← withDefault fields "disabled_rules" Node.asTexts []
    extraSkips := ← withDefault fields "extra_skip_patterns" readSkips .empty }

/-- A configuration. -/
def readConfig (fields : Fields Node) : Except Fault Config := do
  return {
    contract := ← withDefault fields "contract" readContract .default
    generate := ← withDefault fields "generate" readGenerate .default
    plan := ← withDefault fields "plan" readPlan .default
    guard := ← withDefault fields "guardrail" readGuard .default
    source := none }

/-- The configuration that a text holds. -/
def ofToml (text : String) : Except ConfigError Config := do
  let members ← match Toml.read? text.toList with
    | some members => pure members
    | none => throw (.malformed Fault.malformed.message)
  let config ← (readConfig members).mapError fun fault => .malformed fault.message
  config.check.mapError .invalid

/-- A configuration with remarks, to begin with. -/
def example_ : String :=
  "# Contract location. YAML or JSON, chosen by extension.
[contract]
path = \"openapi.yaml\"
# Optional provider URL used by `apiforge sync`.
sync_url = \"https://api.example.com/openapi.json\"
# Request timeout for sync, 100..=120000 ms.
sync_timeout_ms = 10000

# Client generation. Languages: typescript, python, go, java, rust.
[generate]
output_dir = \"generated\"
languages = [\"typescript\", \"python\"]
# Optional overrides; derived from the contract title when omitted.
service_name = \"pets-service\"
package_name = \"com.example.pets\"

# Persisted task plan.
[plan]
path = \"apiforge-plan.json\"

# Guardrail adjustments.
[guardrail]
disabled_rules = [\"no-raw-url\"]

[guardrail.extra_skip_patterns]
no-fetch = [\"allowed-fetch\"]
"

end Covenant.Config
