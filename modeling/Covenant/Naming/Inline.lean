import Covenant.Text.Split
/-!
# Text inside generated code

`inlineText` makes a text safe between double quotes and inside a comment: one line, single
spaces, no quote, no backslash and no comment end.
-/

namespace Covenant.Naming

open Covenant.Text

/-- The characters that a one-line literal cannot hold. -/
def endsLiteral (c : Char) : Bool := c == '"' || c == '\\'

/-- The fields of a text with single spaces between them, without double quotes and
backslashes, and with a space inside every `*/`. -/
def inline (text : List Char) : List Char :=
  let oneLine := joinWith [' '] (fields text)
  replace ['*', '/'] ['*', ' ', '/'] (oneLine.filter fun c => !endsLiteral c)

/-- `inline` on strings. -/
def inlineText (text : String) : String := .ofList (inline text.toList)

end Covenant.Naming
