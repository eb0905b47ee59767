import Covenant.Config.Basic
/-!
# Choices

What a command works on: what its options name, or else what the configuration says.
-/

namespace Covenant.Command

open Covenant.Text

/-- The path of the contract. -/
def contractPath (config : Config) (option : Option String) : String :=
  option.getD config.contract.path

/-- The path of the plan. -/
def planPath (config : Config) (option : Option String) : String := option.getD config.plan.path

/-- The path of the folder for generated projects. -/
def outputPath (config : Config) (option : Option String) : String :=
  option.getD config.generate.outputDir

/-- The ids of the operations that are asked for, without blanks around them; absent if none is
asked for. -/
def operationFilter (ids : List String) : Option TextSet :=
  let filter := TextSet.ofList ((ids.map trimString).filter fun id => !id.isEmpty)
  if filter.isEmpty then none else some filter

/-- The least weight of the events that are logged, by the number of times that more was asked
for. -/
def logLevel : Nat → String
  | 0 => "warn"
  | 1 => "info"
  | 2 => "debug"
  | _ => "trace"

end Covenant.Command
