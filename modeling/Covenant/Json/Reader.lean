import Covenant.Json.Raw
/-!
# Reading JSON text

The reader is a pushdown automaton: it takes one character at a time and keeps the open arrays
and objects on a stack, so the nesting of a text is bounded by nothing but its length.

* `step` is one character, `run` a row of them, `read?` a whole text.
* White space is space, tab, line feed and carriage return; nothing may follow the value.
-/

namespace Covenant.Json

open Covenant.Decimal

/-! ## 1. Texts in progress -/

/-- The characters of a text read so far, the latest first. `high` is the first half of a
surrogate pair that waits for its second half; `broken` says that a half stood alone. -/
structure TextBuffer where
  chars : List Char
  high : Option Nat
  broken : Bool
deriving Inhabited

namespace TextBuffer

/-- The empty text. -/
def empty : TextBuffer := ⟨[], none, false⟩

/-- The buffer after one more character. -/
def push (b : TextBuffer) (c : Char) : TextBuffer :=
  ⟨c :: b.chars, none, b.broken || b.high.isSome⟩

/-- The buffer after one more code unit of sixteen bits. -/
def pushUnit (b : TextBuffer) (unit : Nat) : TextBuffer :=
  if 0xD800 ≤ unit && unit < 0xDC00 then ⟨b.chars, some unit, b.broken || b.high.isSome⟩
  else if 0xDC00 ≤ unit && unit < 0xE000 then
    match b.high with
    | some first =>
      ⟨Char.ofNat (0x10000 + (first - 0xD800) * 0x400 + (unit - 0xDC00)) :: b.chars, none, b.broken⟩
    | none => ⟨b.chars, none, true⟩
  else b.push (Char.ofNat unit)

/-- The text, if every surrogate found its other half. -/
def close (b : TextBuffer) : Option String :=
  if b.broken || b.high.isSome then none else some (.ofList b.chars.reverse)

end TextBuffer

/-! ## 2. States -/

/-- An array or object that is still open: what it holds so far, the latest first. -/
inductive Frame where
  | items (done : List Raw)
  | members (done : List (Option String × Raw)) (key : Option String)

/-- Where in a numeral the reader stands: after the sign, after a leading zero, among the digits
before the point, after the point, among the digits after it, after `e`, after the sign of the
exponent, among the digits of the exponent. -/
inductive NumberPhase where
  | sign | zero | whole | point | fraction | mark | markSign | exponent
deriving DecidableEq

/-- The parts of a numeral read so far, the latest digit first. -/
structure NumberBuffer where
  negative : Bool
  digits : List Char
  places : Nat
  exponentNegative : Bool
  exponent : List Char

/-- Where in an escape sequence the reader stands. -/
inductive EscapePhase where
  | none
  | backslash
  | hex (left : Nat) (unit : Nat)

/-- What a text is read for: the name of a member, or a value. -/
inductive TextRole where
  | key (done : List (Option String × Raw))
  | value

/-- A state of the reader. -/
inductive State where
  /-- A value must come, or, if `closable`, the end of an array just opened. -/
  | value (stack : List Frame) (closable : Bool)
  /-- A name must come, or, if `closable`, the end of an object just opened. -/
  | key (stack : List Frame) (done : List (Option String × Raw)) (closable : Bool)
  | colon (stack : List Frame) (done : List (Option String × Raw)) (key : Option String)
  /-- A value has just ended inside the innermost frame. -/
  | after (stack : List Frame)
  /-- The value of the whole text has ended. -/
  | finished (value : Raw)
  | literal (stack : List Frame) (left : List Char) (value : Raw)
  | number (stack : List Frame) (phase : NumberPhase) (buffer : NumberBuffer)
  | text (stack : List Frame) (role : TextRole) (escape : EscapePhase) (buffer : TextBuffer)

/-! ## 3. One character -/

/-- The white space of JSON. -/
def isSpace (c : Char) : Bool := c == ' ' || c == '\n' || c == '\t' || c == '\r'

/-- The value has ended: it joins the innermost frame. -/
def complete (stack : List Frame) (value : Raw) : State :=
  match stack with
  | [] => .finished value
  | .items done :: outer => .after (.items (value :: done) :: outer)
  | .members done key :: outer => .after (.members ((key, value) :: done) none :: outer)

/-- The first character of a value. -/
def openValue (stack : List Frame) (c : Char) : Option State :=
  if c == '"' then some (.text stack .value .none .empty)
  else if c == '[' then some (.value (.items [] :: stack) true)
  else if c == '{' then some (.key stack [] true)
  else if c == 't' then some (.literal stack ['r', 'u', 'e'] (.flag true))
  else if c == 'f' then some (.literal stack ['a', 'l', 's', 'e'] (.flag false))
  else if c == 'n' then some (.literal stack ['u', 'l', 'l'] .null)
  else if c == '-' then some (.number stack .sign ⟨true, [], 0, false, []⟩)
  else if c == '0' then some (.number stack .zero ⟨false, ['0'], 0, false, []⟩)
  else if c.isDigit then some (.number stack .whole ⟨false, [c], 0, false, []⟩)
  else none

/-- A separator or a closing bracket after a value. -/
def stepAfter (stack : List Frame) (c : Char) : Option State :=
  if isSpace c then some (.after stack)
  else match stack with
    | .items done :: outer =>
      if c == ',' then some (.value stack false)
      else if c == ']' then some (complete outer (.items done.reverse))
      else none
    | .members done _ :: outer =>
      if c == ',' then some (.key outer done false)
      else if c == '}' then some (complete outer (.members done.reverse))
      else none
    | [] => none

/-- The phases in which a numeral may end. -/
def NumberPhase.final : NumberPhase → Bool
  | .zero | .whole | .fraction | .exponent => true
  | _ => false

/-- The numeral that the buffer holds. -/
def NumberBuffer.close (b : NumberBuffer) (phase : NumberPhase) : RawNumber :=
  let power : Int := Decimal.readDigits b.exponent.reverse
  let numeral : Numeral :=
    ⟨b.negative, b.digits.reverse, (if b.exponentNegative then -power else power) - b.places⟩
  if phase == .zero || phase == .whole then .whole numeral else .real numeral

/-- One more character of a numeral, if it continues it. -/
def stepNumber (phase : NumberPhase) (b : NumberBuffer) (c : Char) :
    Option (NumberPhase × NumberBuffer) :=
  let mark := (NumberPhase.mark, b)
  match phase with
  | .sign =>
    if c == '0' then some (.zero, { b with digits := ['0'] })
    else if c.isDigit then some (.whole, { b with digits := [c] })
    else none
  | .zero =>
    if c == '.' then some (.point, b) else if c == 'e' || c == 'E' then some mark else none
  | .whole =>
    if c.isDigit then some (.whole, { b with digits := c :: b.digits })
    else if c == '.' then some (.point, b)
    else if c == 'e' || c == 'E' then some mark else none
  | .point =>
    if c.isDigit then some (.fraction, { b with digits := c :: b.digits, places := b.places + 1 })
    else none
  | .fraction =>
    if c.isDigit then some (.fraction, { b with digits := c :: b.digits, places := b.places + 1 })
    else if c == 'e' || c == 'E' then some mark else none
  | .mark =>
    if c == '+' then some (.markSign, b)
    else if c == '-' then some (.markSign, { b with exponentNegative := true })
    else if c.isDigit then some (.exponent, { b with exponent := [c] }) else none
  | .markSign => if c.isDigit then some (.exponent, { b with exponent := [c] }) else none
  | .exponent =>
    if c.isDigit then some (.exponent, { b with exponent := c :: b.exponent }) else none

/-- The character that a one-letter escape stands for. -/
def escaped? (c : Char) : Option Char :=
  if c == '"' || c == '\\' || c == '/' then some c
  else if c == 'b' then some '\x08'
  else if c == 'f' then some '\x0c'
  else if c == 'n' then some '\n'
  else if c == 'r' then some '\r'
  else if c == 't' then some '\t'
  else none

/-- The value of a hexadecimal digit. -/
def hexValue? (c : Char) : Option Nat :=
  if c.isDigit then some (c.toNat - 0x30)
  else if 'a' ≤ c && c ≤ 'f' then some (c.toNat - 0x57)
  else if 'A' ≤ c && c ≤ 'F' then some (c.toNat - 0x37)
  else none

/-- The text has ended. -/
def closeText (stack : List Frame) (role : TextRole) (b : TextBuffer) : State :=
  match role with
  | .key done => .colon stack done b.close
  | .value => complete stack (.text b.close)

/-- One more character of a text. -/
def stepText (stack : List Frame) (role : TextRole) (escape : EscapePhase) (b : TextBuffer)
    (c : Char) : Option State :=
  match escape with
  | .none =>
    if c == '"' then some (closeText stack role b)
    else if c == '\\' then some (.text stack role .backslash b)
    else if c.toNat < 0x20 then none
    else some (.text stack role .none (b.push c))
  | .backslash =>
    if c == 'u' then some (.text stack role (.hex 4 0) b)
    else (escaped? c).map fun e => .text stack role .none (b.push e)
  | .hex left unit =>
    (hexValue? c).map fun v =>
      if left ≤ 1 then .text stack role .none (b.pushUnit (unit * 16 + v))
      else .text stack role (.hex (left - 1) (unit * 16 + v)) b

/-- One more character of a text; absent where no JSON text goes on so. -/
def step (state : State) (c : Char) : Option State :=
  match state with
  | .value stack closable =>
    if isSpace c then some state
    else match stack, closable, c with
      | .items [] :: outer, true, ']' => some (complete outer (.items []))
      | _, _, _ => openValue stack c
  | .key stack done closable =>
    if isSpace c then some state
    else if c == '"' then some (.text stack (.key done) .none .empty)
    else if closable && c == '}' then some (complete stack (.members []))
    else none
  | .colon stack done key =>
    if isSpace c then some state
    else if c == ':' then some (.value (.members done key :: stack) false)
    else none
  | .after stack => stepAfter stack c
  | .finished _ => if isSpace c then some state else none
  | .literal stack left value =>
    match left with
    | [] => none
    | [last] => if c == last then some (complete stack value) else none
    | next :: rest => if c == next then some (.literal stack rest value) else none
  | .number stack phase b =>
    match stepNumber phase b c with
    | some (next, b') => some (.number stack next b')
    | none =>
      if phase.final then
        match complete stack (.number (b.close phase)) with
        | .after frames => stepAfter frames c
        | done => if isSpace c then some done else none
      else none
  | .text stack role escape b => stepText stack role escape b c

/-! ## 4. Whole texts -/

/-- The state after a row of characters. -/
def run (state : State) : List Char → Option State
  | [] => some state
  | c :: r =>
    match step state c with
    | some next => run next r
    | none => none

/-- The value of a text that ends in `state`. -/
def State.value? : State → Option Raw
  | .finished tree => some tree
  | .number [] phase b => if phase.final then some (.number (b.close phase)) else none
  | _ => none

/-- The tree of a JSON text. -/
def read? (s : List Char) : Option Raw := (run (.value [] false) s).bind State.value?

end Covenant.Json
