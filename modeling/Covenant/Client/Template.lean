import Covenant.Json.Printer
/-!
# Templates

A template is a text with slots. Its pieces are texts, slots that a binding fills, and choices
between two rows of texts and slots by a binding.

* Filling is strict: a slot without a binding is an error. A choice without one takes its second
  row.
* What a binding brings is not looked at again, so it cannot open a slot of its own.
-/

namespace Covenant.Client

open Covenant.Json

/-! ## 1. Pieces -/

/-- A text or a slot inside of a choice. -/
inductive Fragment where
  | text (text : String)
  | slot (name : String)
deriving Repr, DecidableEq

/-- A piece of a template. -/
inductive Piece where
  | text (text : String)
  | slot (name : String)
  | choice (name : String) (yes no : List Fragment)
deriving Repr, DecidableEq

/-- A text with slots. -/
abbrev Template := List Piece

/-- The values of slots and choices by name. -/
abbrev Bindings := List (String × Value)

/-! ## 2. Values -/

/-- The text that a value puts into a slot. -/
def slotText : Value → String
  | .null => ""
  | .flag b => if b then "true" else "false"
  | .number n => n.text
  | .text s => s
  | .items values => "[" ++ ", ".intercalate (itemTexts values) ++ "]"
  | .members _ => "[object]"
where
  itemTexts : List Value → List String
    | [] => []
    | value :: rest => slotText value :: itemTexts rest

/-- The least mantissa of a double that has its full precision. -/
def isFullPrecision (numeral : Decimal.Numeral) : Bool := Nat.pow 2 52 ≤ numeral.nearest.mantissa

/-- The value chooses the first row: it is neither null, false, zero nor empty. -/
def isTruthy : Value → Bool
  | .null => false
  | .flag b => b
  | .number (.whole n) => n != 0
  | .number (.double numeral) => isFullPrecision numeral
  | .text s => !s.isEmpty
  | .items values => !values.isEmpty
  | .members values => !values.isEmpty

/-! ## 3. Filling -/

/-- The text of a slot, if it is bound. -/
def fillSlot (bindings : Bindings) (name : String) : Except String String :=
  match bindings.lookup name with
  | some value => .ok (slotText value)
  | none => .error name

/-- A text or a slot, filled; the error is the name of a slot without a binding. -/
def Fragment.fill (bindings : Bindings) : Fragment → Except String String
  | .text s => .ok s
  | .slot name => fillSlot bindings name

/-- A row of texts and slots, filled. -/
def fillRow (bindings : Bindings) : List Fragment → Except String String
  | [] => .ok ""
  | fragment :: rest => do return (← fragment.fill bindings) ++ (← fillRow bindings rest)

/-- A piece, filled. -/
def Piece.fill (bindings : Bindings) : Piece → Except String String
  | .text s => .ok s
  | .slot name => fillSlot bindings name
  | .choice name yes no =>
    fillRow bindings (if (bindings.lookup name).any isTruthy then yes else no)

/-- A template, filled. -/
def Template.fill (template : Template) (bindings : Bindings) : Except String String :=
  match template with
  | [] => .ok ""
  | piece :: rest => do return (← piece.fill bindings) ++ (← Template.fill rest bindings)

end Covenant.Client
