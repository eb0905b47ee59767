import Covenant.Decimal.Shortest
import Covenant.Json.Value
/-!
# Writing JSON

`Value.pretty` writes a value over several lines, each level two spaces further in.

* An empty array is `[]` and an empty object is written without a line of its own.
* In texts the double quote, the backslash and the control characters below the space are escaped;
  everything else stands as it is.
-/

namespace Covenant.Json

/-! ## 1. Scalars -/

/-- A number as JSON writes it. -/
def Number.text : Number → String
  | .whole n => toString n
  | .double numeral => numeral.text

/-- A digit below sixteen. -/
def hexDigit (n : Nat) : Char := if n < 10 then .ofNat (48 + n) else .ofNat (87 + n)

/-- A character inside of quotes. -/
def escape (c : Char) : List Char :=
  if c == '"' then ['\\', '"']
  else if c == '\\' then ['\\', '\\']
  else if 0x20 ≤ c.toNat then [c]
  else if c == '\n' then ['\\', 'n']
  else if c == '\t' then ['\\', 't']
  else if c == '\r' then ['\\', 'r']
  else if c.toNat == 0x08 then ['\\', 'b']
  else if c.toNat == 0x0C then ['\\', 'f']
  else ['\\', 'u', '0', '0', hexDigit (c.toNat / 16), hexDigit (c.toNat % 16)]

/-- A text between double quotes. -/
def quote (s : String) : List Char := '"' :: s.toList.flatMap escape ++ ['"']

/-! ## 2. Values -/

/-- A new line at a level. -/
def newline (level : Nat) : List Char := '\n' :: List.replicate (2 * level) ' '

mutual

/-- A value that begins on a line of a level. -/
def Value.prettyAt (level : Nat) : Value → List Char
  | .null => "null".toList
  | .flag b => if b then "true".toList else "false".toList
  | .number n => n.text.toList
  | .text s => quote s
  | .items [] => ['[', ']']
  | .items (value :: rest) =>
    '[' :: newline (level + 1) ++ value.prettyAt (level + 1) ++ prettyItems (level + 1) rest
      ++ newline level ++ [']']
  | .members [] => ['{', '}']
  | .members ((name, value) :: rest) =>
    '{' :: newline (level + 1) ++ quote name ++ ':' :: ' ' :: value.prettyAt (level + 1)
      ++ prettyMembers (level + 1) rest ++ newline level ++ ['}']

/-- The items after the first one. -/
def prettyItems (level : Nat) : List Value → List Char
  | [] => []
  | value :: rest => ',' :: newline level ++ value.prettyAt level ++ prettyItems level rest

/-- The members after the first one. -/
def prettyMembers (level : Nat) : List (String × Value) → List Char
  | [] => []
  | (name, value) :: rest =>
    ',' :: newline level ++ quote name ++ ':' :: ' ' :: value.prettyAt level
      ++ prettyMembers level rest

end

/-- A value over several lines. -/
def Value.pretty (value : Value) : String := .ofList (value.prettyAt 0)

/-- A list of texts as a value. -/
def Value.ofTexts (texts : List String) : Value := .items (texts.map .text)

end Covenant.Json
