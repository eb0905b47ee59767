/-!
# Faults of a written record

What can be wrong with a text that should hold a record: a document, a plan or a configuration.
-/

namespace Covenant.Record

/-- A kind of value that a record asks for. -/
inductive Kind where
  | text | flag | number | list | record | choice | key
deriving Repr, DecidableEq

/-- The kind in words. -/
def Kind.phrase : Kind → String
  | .text => "a text"
  | .flag => "a boolean"
  | .number => "a whole number in range"
  | .list => "a list"
  | .record => "a record"
  | .choice => "one of the known words"
  | .key => "a key"

/-- What is wrong with a written record. -/
inductive Fault where
  /-- The text does not follow the grammar of its format. -/
  | malformed
  /-- There is text after the end of the record. -/
  | trailing
  | wanted (kind : Kind)
  | missing (field : String)
  | repeated (field : String)
  /-- A list of fields has more entries than the record has fields. -/
  | surplus
  | tooDeep
  | tooManyAliases
  /-- A text holds half of a surrogate pair. -/
  | brokenText
  /-- A number has no double near it. -/
  | numberTooLarge
deriving Repr, DecidableEq

/-- The fault in words. -/
def Fault.message : Fault → String
  | .malformed => "malformed text"
  | .trailing => "text after the end"
  | .wanted kind => "expected " ++ kind.phrase
  | .missing field => "missing field " ++ field
  | .repeated field => "repeated field " ++ field
  | .surplus => "too many fields"
  | .tooDeep => "nested too deeply"
  | .tooManyAliases => "too many aliases"
  | .brokenText => "half of a surrogate pair"
  | .numberTooLarge => "number out of range"

end Covenant.Record
