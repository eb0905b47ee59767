import Covenant.Pattern.CharSet
/-!
# Sets by property

The sets of characters that have a property, by the name of the property.

* Names are compared without regard to case, blanks, hyphens and underscores; an `is` at the start
  counts for nothing.
* A name alone stands for a trait, a category or a script, a name with a value for a category or a
  script. Other properties with values are refused.
-/

namespace Covenant.Pattern

open Covenant.Text

/-! ## 1. Names -/

/-- A name without its leading `is`. -/
def dropIs (name : List Char) : List Char :=
  if (name.take 2).map Char.toLower == "is".toList then name.drop 2 else name

/-- A character of a name that counts. -/
def isNamePart (c : Char) : Bool := c.toNat < 0x80 && c != ' ' && c != '_' && c != '-'

/-- A name as names are compared. The text `isc` is left as it is, since it names no group. -/
def plainName (name : List Char) : String :=
  let rest := dropIs name
  let plain := String.ofList ((rest.filter isNamePart).map Char.toLower)
  if plain == "c" && rest.length < name.length then "isc" else plain

/-! ## 2. Sets -/

/-- The characters that have been assigned to a category. -/
def assigned : CharSet := .categories Category.all

/-- The characters of a category or a group of categories. -/
def categorySet? (name : String) : Option CharSet :=
  if name == "any" then some (.complement .none)
  else if name == "ascii" then some .ascii
  else if name == "assigned" then some assigned
  else if name == "cn" || name == "unassigned" then some (.complement assigned)
  else if name == "c" || name == "other" then
    some (.union (.complement assigned) (.categories [.control, .format, .privateUse]))
  else (Category.named? name).map .categories

/-- The characters of a script. -/
def scriptSet? (name : String) : Option CharSet :=
  (ScriptTable.scripts.findIdx? (·.names.contains name)).map .script

/-- The characters that have a trait. Three names are those of categories. -/
def traitSet? (name : String) : Option CharSet :=
  if name == "cf" || name == "sc" || name == "lc" then none
  else (TraitTable.traits.findIdx? (·.names.contains name)).map .trait

/-- The characters of a property that is named alone. -/
def propertySet? (name : List Char) : Option CharSet :=
  let name := plainName name
  (traitSet? name).or ((categorySet? name).or (scriptSet? name))

/-- The characters of a property with a value. -/
def valueSet? (name value : List Char) : Option CharSet :=
  let name := plainName name
  let value := plainName value
  if name == "gc" || name == "generalcategory" then categorySet? value
  else if name == "sc" || name == "script" then scriptSet? value
  else none

/-! ## 3. Notation -/

/-- What stands before and after the first occurrence of a mark. -/
def cutAt? (mark : List Char) : List Char → Option (List Char × List Char)
  | [] => none
  | c :: rest =>
    if mark.isPrefixOf (c :: rest) then some ([], (c :: rest).drop mark.length)
    else (cutAt? mark rest).map fun (before, after) => (c :: before, after)

/-- The set that is written between braces: a property, or a property and its value with `=`, `:`
or `!=` between. -/
def writtenSet? (text : List Char) : Option CharSet :=
  match cutAt? "!=".toList text, cutAt? [':'] text, cutAt? ['='] text with
  | some (name, value), _, _ => (valueSet? name value).map .complement
  | none, some (name, value), _ => valueSet? name value
  | none, none, some (name, value) => valueSet? name value
  | none, none, none => propertySet? text

end Covenant.Pattern
