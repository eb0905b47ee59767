import Covenant.Record.Fault
/-!
# Fields of a record

A record is read from its fields: pairs of a name and something that is not read yet.

* `known names pairs` keeps the fields that the record knows; a known name must not come twice,
  while unknown ones may come as they like.
* `positional names values` names the entries of a list that stands for a record.
* `required`, `optional` and `withDefault` read one field.
-/

namespace Covenant.Record

/-- The fields of a record that have been found, by name. -/
abbrev Fields (ν : Type) := List (String × ν)

/-- The fields with a name among `names`; it is a fault if one comes twice. -/
def known (names : List String) (pairs : List (String × ν)) : Except Fault (Fields ν) :=
  let found := pairs.filter (names.contains ·.1)
  match names.find? fun name => 1 < (found.filter (·.1 == name)).length with
  | some name => .error (.repeated name)
  | none => .ok found

/-- The values in the order of the fields; the last fields may be missing. -/
def positional (names : List String) (values : List ν) : Except Fault (Fields ν) :=
  if names.length < values.length then .error .surplus else .ok (names.zip values)

variable {m : Type → Type} [Monad m] [MonadExceptOf Fault m]

/-- A field that must be there. -/
def required (fields : Fields ν) (name : String) (read : ν → m α) : m α :=
  match fields.lookup name with
  | some value => read value
  | none => throw (.missing name)

/-- A field that may be missing, and then has the value `default`. -/
def withDefault (fields : Fields ν) (name : String) (read : ν → m α) (default : α) : m α :=
  match fields.lookup name with
  | some value => read value
  | none => pure default

/-- A field that may be missing. -/
def optional (fields : Fields ν) (name : String) (read : ν → m (Option α)) : m (Option α) :=
  withDefault fields name read none

end Covenant.Record
