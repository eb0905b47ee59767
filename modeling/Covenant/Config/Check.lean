import Covenant.Client.Target
import Covenant.Config.Basic
import Covenant.Files.Path
/-!
# What a configuration may say

`Config.check` refuses settings that no command could follow, section by section and setting by
setting in their order, and writes languages by their ids.

* Lengths are counted in bytes of UTF-8 and without blanks around the value.
-/

namespace Covenant.Config

open Covenant.Client Covenant.Files Covenant.Text

/-! ## 1. Errors -/

/-- What is wrong with a setting. -/
inductive Objection where
  | empty (setting : String)
  | tooLong (setting : String)
  /-- A part of a path is too long. -/
  | longPart (setting : String)
  | timeout
  /-- An address is not one of the web. -/
  | scheme
  | unknownLanguage (name : String)
  | tooManySkips (rule : String)
  | fileTooLarge
  | notUtf8
deriving Repr, DecidableEq

/-- Why there is no configuration. -/
inductive ConfigError where
  | io (path detail : String)
  | malformed (detail : String)
  | invalid (objection : Objection)
deriving Repr, DecidableEq

/-- The least time in milliseconds that may be set for fetching a contract. -/
def minTimeout : Nat := 100

/-- The greatest time in milliseconds that may be set for fetching a contract. -/
def maxTimeout : Nat := 120000

/-- The most patterns that a rule may be given. -/
def maxSkips : Nat := 64

/-- The objection in words. -/
def Objection.message : Objection → String
  | .empty setting => setting ++ " must be non-empty"
  | .tooLong setting => setting ++ " exceeds max length"
  | .longPart setting => setting ++ " path component too long"
  | .timeout => "contract.sync_timeout_ms must be within " ++ toString minTimeout ++ "..="
      ++ toString maxTimeout
  | .scheme => "contract.sync_url must use http or https"
  | .unknownLanguage name => "generate.languages contains unknown language " ++ name
      ++ " (known: " ++ joinStrings ", " (Target.all.map Target.id) ++ ")"
  | .tooManySkips rule => "guardrail.extra_skip_patterns." ++ rule ++ " exceeds "
      ++ toString maxSkips ++ " entries"
  | .fileTooLarge => "config file exceeds size limit"
  | .notUtf8 => "config file must be utf-8"

/-- The error in words. -/
def ConfigError.message : ConfigError → String
  | .io path detail => "config io error: " ++ path ++ ": " ++ detail
  | .malformed detail => "config parse error: " ++ detail
  | .invalid objection => "invalid config: " ++ objection.message

/-! ## 2. Limits -/

/-- The most bytes of a path. -/
def maxPath : Nat := 4096

/-- The most bytes of a part of a path. -/
def maxPart : Nat := 255

/-- The most bytes of an address. -/
def maxUrl : Nat := 2048

/-- The most bytes of a name. -/
def maxName : Nat := 128

/-- The number of bytes of a part of a path. -/
def partLength : Component → Nat
  | .root => 1
  | .here => 1
  | .up => 2
  | .name text => text.utf8ByteSize

/-- A path, none of whose parts and which as a whole is not too long. -/
def checkLengths (setting path : String) : Except Objection Unit :=
  if maxPath < path.utf8ByteSize then .error (.tooLong setting)
  else if (Path.components path).any (maxPart < partLength ·) then .error (.longPart setting)
  else .ok ()

/-! ## 3. Settings -/

/-- The value is not blank. -/
def checkFilled (setting value : String) : Except Objection Unit :=
  if blankString value then .error (.empty setting) else .ok ()

/-- A path, looked at without the blanks around it. -/
def checkPath (setting value : String) : Except Objection Unit := do
  checkFilled setting value
  checkLengths setting (trimString value)

/-- A name, if there is one. -/
def checkName (setting : String) : Option String → Except Objection Unit
  | none => .ok ()
  | some value => do
    checkFilled setting value
    if maxName < (trimString value).utf8ByteSize then .error (.tooLong setting) else .ok ()

/-- An address of the web, if there is one. -/
def checkUrl (setting : String) : Option String → Except Objection Unit
  | none => .ok ()
  | some value => do
    let url := trimString value
    checkFilled setting value
    if maxUrl < url.utf8ByteSize then .error (.tooLong setting)
    else if startsWith "http://".toList url.toList || startsWith "https://".toList url.toList then
      .ok ()
    else .error .scheme

/-- The ids of the languages that are named. -/
def canonicalLanguages (names : List String) : Except Objection (List String) :=
  match Target.canonical names with
  | .ok targets => .ok (targets.map Target.id)
  | .error name => .error (.unknownLanguage name)

/-! ## 4. Sections -/

/-- The contract section. -/
def ContractSection.check (contract : ContractSection) : Except Objection Unit := do
  checkPath "contract.path" contract.path
  if contract.syncTimeoutMs < minTimeout || maxTimeout < contract.syncTimeoutMs then
    throw .timeout
  checkUrl "contract.sync_url" contract.syncUrl

/-- The section on generation, with the ids of its languages. -/
def GenerateSection.check (generate : GenerateSection) :
    Except Objection GenerateSection := do
  checkPath "generate.output_dir" generate.outputDir
  if generate.languages.isEmpty then throw (.empty "generate.languages")
  let languages ← canonicalLanguages generate.languages
  checkName "generate.service_name" generate.serviceName
  checkName "generate.package_name" generate.packageName
  match generate.baseUrl with
  | some url => checkFilled "generate.base_url" url
  | none => pure ()
  return { generate with languages }

/-- The patterns that a rule is given. -/
def checkSkips (rule : String) (patterns : List String) : Except Objection Unit := do
  checkFilled "guardrail.extra_skip_patterns keys" rule
  if maxSkips < patterns.length then throw (.tooManySkips rule)
  if patterns.any String.isEmpty then
    throw (.empty ("guardrail.extra_skip_patterns." ++ rule ++ " entries"))

/-- The section on rules. -/
def GuardSection.check (guard : GuardSection) : Except Objection Unit := do
  guard.disabledRules.forM (checkFilled "guardrail.disabled_rules entries")
  guard.extraSkips.toList.forM fun (rule, patterns) => checkSkips rule patterns

/-- The configuration, with the ids of its languages. -/
def check (config : Config) : Except Objection Config := do
  config.contract.check
  let generate ← config.generate.check
  checkPath "plan.path" config.plan.path
  config.guard.check
  return { config with generate }

end Covenant.Config
