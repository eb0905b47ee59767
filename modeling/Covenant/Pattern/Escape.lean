import Covenant.Pattern.Basic
import Covenant.Pattern.Property
/-!
# Escapes of written patterns

What a backslash and the characters after it stand for, and the flags that decide how a pattern is
read.

* In verbose patterns blanks, and comments from `#` to the end of the line, may stand nearly
  everywhere.
* Look-around and references to groups are refused.
-/

namespace Covenant.Pattern

open Covenant.Text

/-! ## 1. Flags -/

/-- How a pattern is read. -/
structure Flags where
  caseless : Bool
  /-- `^` and `$` match at the ends of lines. -/
  multiLine : Bool
  /-- A point matches a line end. -/
  dotAll : Bool
  /-- A carriage return is a line end as well. -/
  crlf : Bool
  verbose : Bool
  unicode : Bool
deriving Repr, DecidableEq, Inhabited

/-- The flags at the start of a pattern. -/
def Flags.initial : Flags := ⟨false, false, false, false, false, true⟩

/-- Skips blanks and comments; `comment` says that a comment is open. -/
def skipFrom (comment : Bool) : List Char → List Char
  | [] => []
  | c :: rest =>
    if comment then skipFrom (c != '\n') rest
    else if isBlank c then skipFrom false rest
    else if c == '#' then skipFrom true rest
    else c :: rest

/-- Skips what a verbose pattern leaves out. -/
def skip (flags : Flags) (s : List Char) : List Char := if flags.verbose then skipFrom false s else s

/-- The characters of a kind at the start, with what may be skipped after each; `fuel` bounds their
number. -/
def takeKind (flags : Flags) (kind : Char → Bool) : Nat → List Char → List Char × List Char
  | 0, s => ([], s)
  | _, [] => ([], [])
  | fuel + 1, c :: rest =>
    if kind c then
      let (taken, rest) := takeKind flags kind fuel (skip flags rest)
      (c :: taken, rest)
    else ([], c :: rest)

/-! ## 2. Escapes -/

/-- What an escape stands for. -/
inductive Escape where
  | literal (c : Char)
  | set (set : CharSet)
  | edge (edge : Edge)
deriving Repr, DecidableEq

/-- The characters that have a meaning in patterns. -/
def isMeta (c : Char) : Bool := "\\.+*?()|[]\x7b\x7d^$#&-~".toList.contains c

/-- A character that may stand for itself after a backslash. -/
def escapesItself (c : Char) : Bool :=
  isMeta c || (c.toNat < 0x80 && !c.isAlphanum && c != '<' && c != '>')

/-- A hexadecimal digit. -/
def isHex (c : Char) : Bool :=
  c.isDigit || ('a' ≤ c && c ≤ 'f') || ('A' ≤ c && c ≤ 'F')

/-- The value of a hexadecimal digit. -/
def hexValue (c : Char) : Nat :=
  if c.isDigit then c.toNat - 48 else if 'a' ≤ c then c.toNat - 87 else c.toNat - 55

/-- The character of a code point, which is no surrogate and not too large. -/
def charOf? (n : Nat) : Option Char :=
  if n.isValidChar then some (Char.ofNat n) else none

/-- The character that hexadecimal digits name. -/
def hexChar? (digits : List Char) : Option Char :=
  charOf? (digits.foldl (fun n c => n * 16 + hexValue c) 0)

/-- A character by its code: `width` digits, or any number of them in braces. -/
def hex? (flags : Flags) (width : Nat) (s : List Char) : Option (Char × List Char) :=
  match skip flags s with
  | '{' :: s =>
    match takeKind flags isHex s.length (skip flags s) with
    | (digits, '}' :: rest) =>
      if digits.isEmpty then none else (hexChar? digits).map (·, skip flags rest)
    | _ => none
  | s =>
    let (digits, rest) := takeKind flags isHex width s
    if digits.length == width then (hexChar? digits).map (·, rest) else none

/-- A class of ASCII where Unicode is switched off; such a class has no complement, since not all
of it would be text. -/
def classSet? (flags : Flags) (negated : Bool) (set : CharSet) : Option CharSet :=
  if flags.unicode then some (if negated then .complement set else set)
  else if negated then none
  else some (.inter .ascii set)

/-- A set where case may count for nothing; where Unicode is switched off it stays in ASCII. -/
def foldCase (flags : Flags) (set : CharSet) : CharSet :=
  if !flags.caseless then set
  else if flags.unicode then .caseless set
  else .inter .ascii (.caseless set)

/-- The set of a property: its name is one letter, or stands in braces. There is none where Unicode
is switched off. -/
def property? (flags : Flags) (negated : Bool) (s : List Char) :
    Option (CharSet × List Char) := do
  guard flags.unicode
  let (set, rest) ← match skip flags s with
    | '{' :: inner =>
      match takeKind flags (· != '}') inner.length (skip flags inner) with
      | (text, '}' :: rest) => (writtenSet? text).map (·, rest)
      | _ => none
    | c :: rest => if c == '\\' then none else (propertySet? [c]).map (·, skip flags rest)
    | [] => none
  let set := foldCase flags set
  return (if negated then .complement set else set, rest)

/-- The edge that a word in braces after a boundary names. -/
def namedEdge? (asciiOnly : Bool) (name : List Char) : Option Edge :=
  if name == "start".toList then some (.wordStart asciiOnly)
  else if name == "end".toList then some (.wordEnd asciiOnly)
  else if name == "start-half".toList then some (.noWordBefore asciiOnly)
  else if name == "end-half".toList then some (.noWordAfter asciiOnly)
  else none

/-- A character of the words that name edges. -/
def isEdgeName (c : Char) : Bool := c.isAlpha || c == '-'

/-- A boundary of words, perhaps with a name in braces; a number in braces is left to be a
count. -/
def boundary? (flags : Flags) (s : List Char) : Option (Edge × List Char) :=
  let plain := Edge.wordBoundary (!flags.unicode)
  match s with
  | '{' :: inner =>
    match skip flags inner with
    | [] => none
    | c :: rest =>
      if !isEdgeName c then some (plain, s)
      else match takeKind flags isEdgeName (c :: rest).length (c :: rest) with
        | (name, '}' :: rest) => (namedEdge? (!flags.unicode) name).map (·, rest)
        | _ => none
  | _ => some (plain, s)

/-- A literal; where Unicode is switched off it must be of ASCII. -/
def literal? (flags : Flags) (c : Char) : Option Char :=
  if flags.unicode || c.toNat < 0x80 then some c else none

/-- What the characters after a backslash stand for, and the rest. -/
def escape? (flags : Flags) : List Char → Option (Escape × List Char)
  | [] => none
  | c :: s =>
    let set (negated : Bool) (set : CharSet) : Option (Escape × List Char) :=
      (classSet? flags negated set).map fun set => (.set set, skip flags s)
    let hex (width : Nat) : Option (Escape × List Char) := do
      let (c, rest) ← hex? flags width s
      return (.literal (← literal? flags c), rest)
    match c with
    | 'x' => hex 2
    | 'u' => hex 4
    | 'U' => hex 8
    | 'd' => set false .digit
    | 'D' => set true .digit
    | 's' => set false .blank
    | 'S' => set true .blank
    | 'w' => set false .word
    | 'W' => set true .word
    | 'p' => (property? flags false s).map fun (set, rest) => (.set set, rest)
    | 'P' => (property? flags true s).map fun (set, rest) => (.set set, rest)
    | 'a' => some (.literal '\x07', s)
    | 'f' => some (.literal '\x0C', s)
    | 't' => some (.literal '\t', s)
    | 'n' => some (.literal '\n', s)
    | 'r' => some (.literal '\r', s)
    | 'v' => some (.literal '\x0B', s)
    | 'A' => some (.edge .textStart, s)
    | 'z' => some (.edge .textEnd, s)
    | 'b' => (boundary? flags s).map fun (boundary, rest) => (.edge boundary, rest)
    | 'B' => some (.edge (.noWordBoundary (!flags.unicode)), s)
    | '<' => some (.edge (.wordStart (!flags.unicode)), s)
    | '>' => some (.edge (.wordEnd (!flags.unicode)), s)
    | c => if escapesItself c then some (.literal c, s) else none

end Covenant.Pattern
