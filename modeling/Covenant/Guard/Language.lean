import Covenant.Files.Path
import Covenant.Text.Case
/-!
# Languages of source files

The extension of a file tells the language in which it is written.
-/

namespace Covenant.Guard

open Covenant.Files Covenant.Text

/-- A language of source files. -/
inductive Language where
  | typescript | javascript | python | java | go | rust
deriving Repr, DecidableEq, Inhabited

namespace Language

/-- Every language. -/
def all : List Language := [.typescript, .javascript, .python, .java, .go, .rust]

/-- The name of a language. -/
def name : Language → String
  | .typescript => "typescript"
  | .javascript => "javascript"
  | .python => "python"
  | .java => "java"
  | .go => "go"
  | .rust => "rust"

/-- The language with a name. -/
def ofName? (name : String) : Option Language := all.find? (·.name == name)

/-- The extensions of a language. -/
def extensions : Language → List String
  | .typescript => ["ts", "tsx", "mts", "cts"]
  | .javascript => ["js", "jsx", "mjs", "cjs"]
  | .python => ["py"]
  | .java => ["java"]
  | .go => ["go"]
  | .rust => ["rs"]

/-- The language of a file. -/
def ofPath? (path : String) : Option Language := do
  let extension := lowerAscii (← Path.extension? path)
  all.find? (·.extensions.contains extension)

/-- Comments are written as in C: after `//`, or between `/*` and `*/`. -/
def hasSlashComments (language : Language) : Bool := language != .python

end Language

end Covenant.Guard
