import Covenant.Yaml.Cursor
/-!
# Scalars of YAML

Readers of the four ways to write a scalar; the text of a scalar is what is left after folding.

* Inside of a plain or quoted scalar a single line end is a space, and each further one a line
  feed; blanks around line ends vanish.
* `readPlain` ends before `: `, before a comment, and where the indentation falls.
* `readSingle` and `readDouble` end at their quote; `readDouble` knows the escapes.
* `readBlock` reads literal (`|`) and folded (`>`) scalars by their indentation.
-/

namespace Covenant.Yaml

/-! ## 1. Folding -/

/-- The text of a scalar so far, and the blanks and line ends that have been read after it: `lead`
is the first line end, `trail` are the later ones. Every list is reversed. `folded` says that a
line end has been passed. -/
structure Folding where
  text : List Char
  blanks : List Char
  lead : List Char
  trail : List Char
  folded : Bool
deriving Inhabited

namespace Folding

/-- Nothing read. -/
def empty : Folding := ⟨[], [], [], [], false⟩

/-- One more blank. -/
def blank (f : Folding) (c : Char) : Folding :=
  if f.folded then f else { f with blanks := c :: f.blanks }

/-- One more line end. -/
def lineEnd (f : Folding) (c : Char) : Folding :=
  if f.folded then { f with trail := c :: f.trail }
  else { f with blanks := [], lead := [c], folded := true }

/-- The text with the blanks and line ends after it taken in. -/
def join (f : Folding) : Folding :=
  let text :=
    if f.folded then
      if f.lead == ['\n'] then if f.trail.isEmpty then ' ' :: f.text else f.trail ++ f.text
      else f.trail ++ f.lead ++ f.text
    else f.blanks ++ f.text
  ⟨text, [], [], [], false⟩

/-- One more character of the text. -/
def push (f : Folding) (c : Char) : Folding := { f with text := c :: f.text }

/-- The text read. -/
def string (f : Folding) : String := .ofList f.text.reverse

end Folding

/-! ## 2. Plain scalars -/

/-- Reads a plain scalar to its end. `flow` says that a flow collection is open; `indent` is the
least column of a further line; `inRun` says that blanks or line ends have just been read. -/
def plainFrom (flow : Bool) (indent : Int) (inRun : Bool) (f : Folding) (place : Place) :
    List Char → Option (Folding × Cursor)
  | [] => some (f, ⟨place, []⟩)
  | c :: r =>
    if isBlank c then
      if f.folded && (place.column : Int) < indent && c == '\t' then none
      else plainFrom flow indent true (f.blank c) (place.forward 1) r
    else if isBreak c then plainFrom flow indent true (f.lineEnd c) place.newline r
    else if inRun && ((!flow && (place.column : Int) < indent) || c == '#' ||
        (place.column == 0 && atDocumentMark (c :: r))) then some (f, ⟨place, c :: r⟩)
    else if flow && c == ':' && r.head?.any (fun d => isFlowIndicator d || d == '?') then none
    else if (c == ':' && atBlankOrEnd r) || (flow && isFlowIndicator c) then
      some (f, ⟨place, c :: r⟩)
    else plainFrom flow indent false ((if inRun then f.join else f).push c) (place.forward 1) r

/-- The plain scalar that begins here, and whether a line end has been passed after its text. -/
def readPlain (flow : Bool) (indent : Int) (cur : Cursor) : Option (String × Bool × Cursor) :=
  (plainFrom flow indent false .empty cur.place cur.rest).map fun (f, after) =>
    (f.string, f.folded, after)

/-! ## 3. Quoted scalars -/

/-- The character that a one-letter escape stands for. -/
def escaped? (c : Char) : Option Char :=
  if c == '0' then some '\x00'
  else if c == 'a' then some '\x07'
  else if c == 'b' then some '\x08'
  else if c == 't' || c == '\t' then some '\t'
  else if c == 'n' then some '\n'
  else if c == 'v' then some '\x0b'
  else if c == 'f' then some '\x0c'
  else if c == 'r' then some '\r'
  else if c == 'e' then some '\x1b'
  else if c == ' ' || c == '"' || c == '/' || c == '\\' then some c
  else if c == 'N' then some '\u0085'
  else if c == '_' then some '\u00a0'
  else if c == 'L' then some '\u2028'
  else if c == 'P' then some '\u2029'
  else none

/-- The number of hexadecimal digits that an escape asks for. -/
def hexLength? (c : Char) : Option Nat :=
  if c == 'x' then some 2 else if c == 'u' then some 4 else if c == 'U' then some 8 else none

/-- The value of a hexadecimal digit. -/
def hexDigit? (c : Char) : Option Nat :=
  if c.isDigit then some (c.toNat - 0x30)
  else if 'a' ≤ c && c ≤ 'f' then some (c.toNat - 0x57)
  else if 'A' ≤ c && c ≤ 'F' then some (c.toNat - 0x37)
  else none

/-- The number that `count` hexadecimal digits at the beginning of a text spell. -/
def hexNumber? (count : Nat) (s : List Char) : Option Nat :=
  let digits := s.take count
  if digits.length < count then none
  else digits.foldl (fun n c => n.bind fun n => (hexDigit? c).map (n * 16 + ·)) (some 0)

/-- The character with a number, which surrogates do not have. -/
def charOfNumber? (n : Nat) : Option Char :=
  if (0xD800 ≤ n && n ≤ 0xDFFF) || 0x10FFFF < n then none else some (Char.ofNat n)

/-- The character that an escape with this letter stands for, and the characters it takes after
the letter. -/
def escape? (letter : Char) (r : List Char) : Option (Char × Nat) :=
  match hexLength? letter with
  | some count =>
    (hexNumber? count r).bind fun n => (charOfNumber? n).map (·, count)
  | none => (escaped? letter).map (·, 0)

/-- Reads a quoted scalar to its quote. `skip` characters are already accounted for; `inRun` says
that blanks or line ends have just been read. -/
def quotedFrom (single : Bool) (skip : Nat) (inRun : Bool) (f : Folding) (place : Place) :
    List Char → Option (Folding × Cursor)
  | [] => none
  | c :: r =>
    if 0 < skip then quotedFrom single (skip - 1) inRun f (place.forward 1) r
    else if isBlank c then quotedFrom single 0 true (f.blank c) (place.forward 1) r
    else if isBreak c then quotedFrom single 0 true (f.lineEnd c) place.newline r
    else if inRun && place.column == 0 && atDocumentMark (c :: r) then none
    else
      let g := if inRun then f.join else f
      if single then
        if c == '\'' then
          if r.head? == some '\'' then
            quotedFrom single 1 false (g.push '\'') (place.forward 1) r
          else some (g, ⟨place.forward 1, r⟩)
        else quotedFrom single 0 false (g.push c) (place.forward 1) r
      else if c == '"' then some (g, ⟨place.forward 1, r⟩)
      else if c == '\\' then
        match r with
        | [] => none
        | e :: r' =>
          if isBreak e then
            quotedFrom single 0 true { g with folded := true } (place.forward 1).newline r'
          else match escape? e r' with
            | none => none
            | some (d, count) =>
              quotedFrom single (count + 1) false (g.push d) (place.forward 1) (e :: r')
      else quotedFrom single 0 false (g.push c) (place.forward 1) r

/-- The quoted scalar whose opening quote stands here. -/
def readQuoted (single : Bool) (cur : Cursor) : Option (String × Cursor) :=
  let inside := cur.forward 1
  (quotedFrom single 0 false .empty inside.place inside.rest).map fun (f, after) =>
    (f.string, after)

/-! ## 4. Block scalars -/

/-- What becomes of the line ends at the end of a block scalar. -/
inductive Chomping where
  | strip | clip | keep
deriving Repr, DecidableEq

/-- The header of a block scalar: what becomes of its end, and the indentation it asks for. -/
structure BlockHeader where
  chomping : Chomping
  increment : Option Nat

/-- The chomping that an indicator asks for. -/
def chomping? (c : Char) : Option Chomping :=
  if c == '+' then some .keep else if c == '-' then some .strip else none

/-- The indentation that a digit asks for, zero not being one. -/
def increment? (c : Char) : Option Nat :=
  if c.isDigit && c != '0' then some (c.toNat - 0x30) else none

/-- The header after the indicator, and the number of its characters; absent for a zero. -/
def blockHeader? (s : List Char) : Option (BlockHeader × Nat) :=
  let second (header : BlockHeader) (n : Nat) := some (header, n)
  match s with
  | c :: r =>
    match chomping? c with
    | some chomping =>
      match r with
      | d :: _ =>
        if d.isDigit then
          (increment? d).bind fun n => second ⟨chomping, some n⟩ 2
        else second ⟨chomping, none⟩ 1
      | [] => second ⟨chomping, none⟩ 1
    | none =>
      if c.isDigit then
        (increment? c).bind fun n =>
          match r.head?.bind chomping? with
          | some chomping => second ⟨chomping, some n⟩ 2
          | none => second ⟨.clip, some n⟩ 1
      else second ⟨.clip, none⟩ 0
  | [] => second ⟨.clip, none⟩ 0

/-- A block scalar in progress. `lead` is the line end after the last line, `trail` are the empty
lines after it, reversed like the text; `indented` says that the last line began with a blank.
`indent` is zero until it is known, and `widest` is the widest margin met before that. -/
structure Block where
  text : List Char
  lead : List Char
  trail : List Char
  indented : Bool
  indent : Nat
  widest : Nat
deriving Inhabited

/-- The block before the first character of a line with text. A folded scalar joins two lines
neither of which begins with a blank. -/
def Block.beginLine (b : Block) (foldedStyle : Bool) (c : Char) : Block :=
  let text :=
    if foldedStyle && b.lead == ['\n'] && !b.indented && !isBlank c then
      if b.trail.isEmpty then ' ' :: b.text else b.trail ++ b.text
    else b.trail ++ b.lead ++ b.text
  { b with text := c :: text, lead := [], trail := [], indented := isBlank c }

/-- The text of a block scalar at its end. -/
def Block.close (b : Block) (chomping : Chomping) : String :=
  .ofList (match chomping with
    | .strip => b.text
    | .clip => b.lead ++ b.text
    | .keep => b.trail ++ b.lead ++ b.text).reverse

/-- Reads the lines of a block scalar. `least` is the least indentation it may have; `inLine` says
that the reader is inside of a line and not in its margin. -/
def blockFrom (foldedStyle : Bool) (least : Nat) (inLine : Bool) (b : Block) (place : Place) :
    List Char → Option (Block × Cursor)
  | [] => some (b, ⟨place, []⟩)
  | c :: r =>
    if inLine then
      if isBreak c then blockFrom foldedStyle least false { b with lead := [c] } place.newline r
      else blockFrom foldedStyle least true { b with text := c :: b.text } (place.forward 1) r
    else
      let inMargin := b.indent == 0 || place.column < b.indent
      if c == ' ' && inMargin then blockFrom foldedStyle least false b (place.forward 1) r
      else if c == '\t' && inMargin then none
      else
        let widest := max b.widest place.column
        if isBreak c then
          blockFrom foldedStyle least false { b with trail := c :: b.trail, widest } place.newline r
        else
          let indent := if b.indent == 0 then max widest least else b.indent
          let known := { b with indent, widest }
          if place.column == indent then
            blockFrom foldedStyle least true (known.beginLine foldedStyle c) (place.forward 1) r
          else some (known, ⟨place, c :: r⟩)

/-- The block scalar whose indicator stands here, in a block whose indentation is `parent`, which
is negative outside of all blocks. -/
def readBlock (foldedStyle : Bool) (parent : Int) (cur : Cursor) : Option (String × Cursor) := do
  let (header, length) ← blockHeader? (cur.rest.drop 1)
  let first ← (cur.forward (1 + length)).endLine?
  let indent := (header.increment.map (· + parent.toNat)).getD 0
  let (b, after) ← blockFrom foldedStyle (max 1 (parent + 1).toNat) false
    ⟨[], [], [], false, indent, 0⟩ first.place first.rest
  return (b.close header.chomping, after)

end Covenant.Yaml
