import Covenant.Config.Document
import Covenant.Files.Host
/-!
# Stored configurations

* A configuration is looked for where the caller says, else where the environment says, else in
  the default file. Only the last of them may be missing.
-/

namespace Covenant.Config

open Covenant.Files

/-- The file that is read if none is named. -/
def defaultPath : String := "apiforge.toml"

/-- The most bytes of a configuration. -/
def maxBytes : Nat := 1024 * 1024

/-- Where a configuration is looked for. -/
structure Location where
  path : String
  /-- The file was asked for, so it has to be there. -/
  named : Bool
deriving Repr, DecidableEq, Inhabited

/-- Where the caller and the environment say that the configuration is. -/
def Location.choose (option setting : Option String) : Location :=
  match option, setting with
  | some path, _ => ⟨path, true⟩
  | none, some path => ⟨path, true⟩
  | none, none => ⟨defaultPath, false⟩

/-- The location, if its path is not too long. -/
def Location.check (location : Location) : Except ConfigError Location :=
  if maxPath < location.path.utf8ByteSize then .error (.invalid (.tooLong "config path"))
  else match checkLengths "config" location.path with
    | .ok () => .ok location
    | .error objection => .error (.invalid objection)

/-- The configuration that the content of a file holds. -/
def ofBytes (path : String) (content : ByteArray) : Except ConfigError Config :=
  if maxBytes < content.size then .error (.invalid .fileTooLarge)
  else match String.fromUTF8? content with
    | none => .error (.invalid .notUtf8)
    | some text => do return { ← ofToml text with source := some path }

/-- The configuration in a file. -/
def load [Monad m] [Host m] (option setting : Option String) : ExceptT ConfigError m Config := do
  let location ← (Location.choose option setting).check
  match ← (Host.read (m := m) location.path).run with
  | .ok content => return ← ofBytes location.path content
  | .error fault =>
    if fault == .notFound && !location.named then return .default
    else throw (.io location.path fault.message)

end Covenant.Config
