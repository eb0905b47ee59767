import Covenant.Json.Reader
import Covenant.Text.Utf8
/-!
# JSON in bytes

Bytes that are not UTF-8 may still hold JSON: a text with such bytes in it stands for nothing, just
as one with half of a surrogate pair in it, and does no harm where nobody looks at it. Elsewhere
such bytes are no JSON.
-/

namespace Covenant.Json

open Covenant.Text

/-- The first half of a surrogate pair, twice: whatever stands around it, one half stays alone. -/
def halves : List Char := "\\ud800\\ud800".toList

/-- The characters as JSON with halves of pairs for what is no character. The flag says that the
character before is a backslash which begins an escape; no escape goes on with an `x`. -/
def withHalves (escaped : Bool) : List (Option Char) → List Char
  | [] => []
  | some c :: rest => c :: withHalves (c == '\\' && !escaped) rest
  | none :: rest => (if escaped then ['x'] else halves) ++ withHalves false rest

/-- The JSON text that bytes hold. -/
def readBytes? (bytes : ByteArray) : Option Raw :=
  match String.fromUTF8? bytes with
  | some text => read? text.toList
  | none => read? (withHalves false (Utf8.decode (Utf8.numbers bytes)))

end Covenant.Json
