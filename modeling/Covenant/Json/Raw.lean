import Covenant.Decimal.Numeral
/-!
# JSON text as it is written

`Raw` is the tree of a JSON text in which nothing has been judged yet: names may repeat, numbers
are numerals of any size, and a text is absent (`none`) when one of its escapes names half of a
surrogate pair, since it then stands for no text. A reader that skips a part of a document does
not look into it, so such a part does no harm there.
-/

namespace Covenant.Json

open Covenant.Decimal

/-- A number as it is written. -/
inductive RawNumber where
  | whole (numeral : Numeral)
  | real (numeral : Numeral)
deriving Repr, DecidableEq, Inhabited

/-- A JSON text as a tree. -/
inductive Raw where
  | null
  | flag (value : Bool)
  | number (value : RawNumber)
  | text (value : Option String)
  | items (values : List Raw)
  | members (values : List (Option String × Raw))
deriving Repr, Inhabited

end Covenant.Json
