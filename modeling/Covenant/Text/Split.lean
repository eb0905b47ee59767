import Covenant.Text.Blank
/-!
# Splitting and replacing

* `splitWhere p s` cuts `s` at every character with `p`; the pieces, joined by the
  characters cut out, are `s` again, so there is always at least one piece.
* `fields s` are the maximal runs of non-blank characters.
* `joinWith sep ps` writes `sep` between the pieces.
* `lines s` are the lines of a text: a line ends at a line feed, a carriage return before it
  belongs to the end, and a final line feed opens no further line.
* `replace old new s` puts `new` for every occurrence of `old`, leftmost first and without
  looking at what it has written.
-/

namespace Covenant.Text

/-! ## 1. Cutting at characters -/

/-- Worker of `splitWhere`: the finished pieces and the open one, both reversed. -/
def splitWhereFrom (p : Char → Bool) (done : List (List Char)) (piece : List Char) :
    List Char → List (List Char)
  | [] => (piece.reverse :: done).reverse
  | c :: r =>
    if p c then splitWhereFrom p (piece.reverse :: done) [] r
    else splitWhereFrom p done (c :: piece) r

/-- The pieces between the characters with `p`. -/
def splitWhere (p : Char → Bool) (s : List Char) : List (List Char) :=
  splitWhereFrom p [] [] s

/-- The pieces between the occurrences of `ch`. -/
def splitAtChar (ch : Char) (s : List Char) : List (List Char) := splitWhere (· == ch) s

/-- The maximal runs of non-blank characters. -/
def fields (s : List Char) : List (List Char) :=
  (splitWhere isBlank s).filter (fun piece => !piece.isEmpty)

/-- The pieces with `sep` between neighbours. -/
def joinWith (sep : List Char) : List (List Char) → List Char
  | [] => []
  | [piece] => piece
  | piece :: rest => piece ++ sep ++ joinWith sep rest

/-! ## 2. Lines -/

/-- A line without the carriage return that belongs to its end. -/
def dropReturn (line : List Char) : List Char :=
  match line.reverse with
  | '\r' :: r => r.reverse
  | _ => line

/-- The lines of a text, without their ends. -/
def lines (s : List Char) : List (List Char) :=
  match (splitAtChar '\n' s).reverse with
  | [] => []
  | last :: ended =>
    let closed := ended.reverse.map dropReturn
    if last.isEmpty then closed else closed ++ [last]

/-- `lines` on strings. -/
def linesOf (s : String) : List String := (lines s.toList).map String.ofList

/-! ## 3. Occurrences -/

/-- `s` begins with `part`. -/
def startsWith (part : List Char) : List Char → Bool := part.isPrefixOf

/-- `s` ends with `part`. -/
def endsWith (part s : List Char) : Bool := part.reverse.isPrefixOf s.reverse

/-- `part` occurs in `s`. -/
def contains (part : List Char) : List Char → Bool
  | [] => part.isEmpty
  | c :: r => part.isPrefixOf (c :: r) || contains part r

/-- Worker of `replace`: `skip` characters of an occurrence are still to be passed over. -/
def replaceFrom (old new : List Char) : Nat → List Char → List Char
  | _, [] => []
  | skip + 1, _ :: r => replaceFrom old new skip r
  | 0, c :: r =>
    if old.isPrefixOf (c :: r) then new ++ replaceFrom old new (old.length - 1) r
    else c :: replaceFrom old new 0 r

/-- Every occurrence of the non-empty `old`, leftmost first, gives way to `new`. -/
def replace (old new s : List Char) : List Char := replaceFrom old new 0 s

/-- `part` occurs in `s`, on strings. -/
def containsString (part s : String) : Bool := contains part.toList s.toList

/-- The strings with `sep` between neighbours. -/
def joinStrings (sep : String) (pieces : List String) : String := sep.intercalate pieces

end Covenant.Text
