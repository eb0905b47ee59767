import Covenant.Guard.Rule
/-!
# Configurations

What a project sets for the commands, with the value that each setting has when it is left out.
-/

namespace Covenant

open Guard Text

namespace Config

/-- Where the contract lies and where it comes from. -/
structure ContractSection where
  path : String
  syncUrl : Option String
  syncTimeoutMs : Nat
deriving Repr, DecidableEq, Inhabited

/-- What is generated. -/
structure GenerateSection where
  outputDir : String
  languages : List String
  serviceName : Option String
  packageName : Option String
  baseUrl : Option String
deriving Repr, DecidableEq, Inhabited

/-- Where the plan lies. -/
structure PlanSection where
  path : String
deriving Repr, DecidableEq, Inhabited

/-- Changes to the rules for source files. -/
structure GuardSection where
  disabledRules : List String
  extraSkips : TextMap (List String)
deriving Repr, Inhabited

end Config

open Config in
/-- A configuration. -/
structure Config where
  contract : ContractSection
  generate : GenerateSection
  plan : PlanSection
  guard : GuardSection
  /-- The file from which the configuration was read. -/
  source : Option String
deriving Repr, Inhabited

namespace Config

/-- The contract section when it is left out. -/
def ContractSection.default : ContractSection := ⟨"openapi.yaml", none, 10000⟩

/-- The section on generation when it is left out. -/
def GenerateSection.default : GenerateSection :=
  ⟨"generated", ["typescript", "python"], none, none, none⟩

/-- The plan section when it is left out. -/
def PlanSection.default : PlanSection := ⟨"apiforge-plan.json"⟩

/-- The section on rules when it is left out. -/
def GuardSection.default : GuardSection := ⟨[], .empty⟩

/-- The configuration of a project that sets nothing. -/
def default : Config := ⟨.default, .default, .default, .default, none⟩

/-- The changes to the default rules; the names of rules are taken without blanks around them. -/
def GuardSection.settings (guard : GuardSection) : Settings :=
  ⟨.ofList (guard.disabledRules.map trimString), guard.extraSkips⟩

end Config

end Covenant
