import Covenant.Text.Case
import Covenant.Text.Ordered
import Covenant.Text.Split
/-!
# Target languages

The languages in which clients are generated, by id and by the other names they go by.

* `resolve?` takes an id or another name, whatever the case of its letters and whatever blanks
  are around it.
* `canonical` resolves a list of names and drops the languages that came before; it fails on the
  first name of no language.
-/

namespace Covenant.Client

open Covenant.Text

/-- A language in which clients are generated. -/
inductive Target where
  | go | java | python | rust | typescript
deriving Repr, DecidableEq, Inhabited

namespace Target

/-- Every target, in the order of the ids. -/
def all : List Target := [.go, .java, .python, .rust, .typescript]

/-- The id of a target. -/
def id : Target → String
  | .go => "go"
  | .java => "java"
  | .python => "python"
  | .rust => "rust"
  | .typescript => "typescript"

/-- The other names of a target. -/
def aliases : Target → List String
  | .go => ["golang"]
  | .java => []
  | .python => ["py"]
  | .rust => ["rs"]
  | .typescript => ["ts"]

/-- The target with an id. -/
def ofId? (name : String) : Option Target := all.find? (·.id == name)

/-- The target that a name means. -/
def resolve? (name : String) : Option Target :=
  let plain := lowerAscii (trimString name)
  all.find? fun target => target.id == plain || target.aliases.contains plain

/-- The names resolved one after the other, without those in `seen`; the error is the first name
of no language. -/
def canonicalAfter (seen : List Target) : List String → Except String (List Target)
  | [] => .ok []
  | name :: rest =>
    match resolve? name with
    | none => .error name
    | some target =>
      if seen.contains target then canonicalAfter seen rest
      else (canonicalAfter (target :: seen) rest).map (target :: ·)

/-- The targets that the names mean, each once, in the order of their first names. -/
def canonical (names : List String) : Except String (List Target) := canonicalAfter [] names

end Target

end Covenant.Client
