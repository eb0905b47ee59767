import Covenant.Yaml.Chars
/-!
# Places in a text

* A `Place` counts the characters, lines and columns before a point of the text.
* A `Cursor` is a place with the text that follows it.
-/

namespace Covenant.Yaml

/-- A point of a text. -/
structure Place where
  index : Nat
  line : Nat
  column : Nat
deriving Repr, DecidableEq, Inhabited

namespace Place

/-- The beginning of a text. -/
def start : Place := ⟨0, 0, 0⟩

/-- The point after `n` more characters of the line. -/
def forward (p : Place) (n : Nat) : Place := ⟨p.index + n, p.line, p.column + n⟩

/-- The point after a line end. -/
def newline (p : Place) : Place := ⟨p.index + 1, p.line + 1, 0⟩

end Place

/-- A point of a text with what follows it. -/
structure Cursor where
  place : Place
  rest : List Char
deriving Inhabited

namespace Cursor

/-- Past the next `n` characters, none of which ends a line. -/
def forward (cur : Cursor) (n : Nat) : Cursor := ⟨cur.place.forward n, cur.rest.drop n⟩

/-- Worker of `skipWhile`. -/
def skipFrom (p : Char → Bool) (place : Place) : List Char → Cursor
  | [] => ⟨place, []⟩
  | c :: r => if p c then skipFrom p (place.forward 1) r else ⟨place, c :: r⟩

/-- Past the characters with `p`, none of which ends a line. -/
def skipWhile (p : Char → Bool) (cur : Cursor) : Cursor := skipFrom p cur.place cur.rest

/-- Past a comment, if one begins here. -/
def skipComment (cur : Cursor) : Cursor :=
  match cur.rest with
  | '#' :: _ => cur.skipWhile fun c => !isBreak c
  | _ => cur

/-- Past blanks and a comment to the end of the line and beyond it; absent where something else
stands on the line. -/
def endLine? (cur : Cursor) : Option Cursor :=
  let line := (cur.skipWhile isBlank).skipComment
  match line.rest with
  | [] => some line
  | c :: r => if isBreak c then some ⟨line.place.newline, r⟩ else none

/-- The characters with `p` that come next, and the point after them. -/
def span (p : Char → Bool) (cur : Cursor) : List Char × Cursor :=
  let taken := cur.rest.takeWhile p
  (taken, cur.forward taken.length)

end Cursor

end Covenant.Yaml
