import Covenant.Yaml.Property
import Covenant.Yaml.Scalar
/-!
# Tokens of a text

`tokens?` turns a text into the tokens of a YAML stream, or fails where no token can begin.

* Outside of flow collections the lexer keeps the columns of the open blocks: a column further
  right opens a block, one further left closes blocks.
* A token that might turn out to be a simple key is remembered; the `:` that makes it one puts a
  `key` token, and perhaps the opening of a mapping, in front of it. A simple key is at most 1024
  characters long and ends on the line on which it begins.
-/

namespace Covenant.Yaml

/-! ## 1. States -/

/-- A token that might begin a simple key: the number of tokens before it and where it stands.
`required` says that nothing but a key can stand there. -/
structure KeyCandidate where
  position : Nat
  place : Place
  required : Bool
deriving Inhabited

/-- The lexer between two tokens. Tokens are kept in reverse, with their number. `indent` is the
column of the innermost block, `-1` outside of all; `indents` are those of the outer ones. There
is one place for a key candidate in the block context and one in each open flow collection. -/
structure Lexer where
  cursor : Cursor
  tokens : List Token
  count : Nat
  indent : Int
  indents : List Int
  keyAllowed : Bool
  candidate : Option KeyCandidate
  outerCandidates : List (Option KeyCandidate)
deriving Inhabited

namespace Lexer

/-- The lexer before a text. -/
def start (s : List Char) : Lexer :=
  ⟨⟨.start, s⟩, [], 0, -1, [], true, none, []⟩

/-- A flow collection is open. -/
def inFlow (lx : Lexer) : Bool := !lx.outerCandidates.isEmpty

/-- The column of the next character. -/
def column (lx : Lexer) : Int := lx.cursor.place.column

/-- One more token. -/
def emit (lx : Lexer) (token : Token) : Lexer :=
  { lx with tokens := token :: lx.tokens, count := lx.count + 1 }

/-- A token in front of those from `position` on. -/
def emitAt (lx : Lexer) (position : Nat) (token : Token) : Lexer :=
  let later := lx.count - position
  { lx with
    tokens := lx.tokens.take later ++ token :: lx.tokens.drop later
    count := lx.count + 1 }

/-- One more token, `n` characters long. -/
def emitShort (lx : Lexer) (token : Token) (n : Nat) : Lexer :=
  { lx.emit token with cursor := lx.cursor.forward n }

/-! ## 2. Blocks -/

/-- Closes blocks until the innermost one is not indented further than `column`. -/
def closeBlocksFrom (column : Int) : List Int → Lexer → Lexer
  | [], lx => lx
  | outer :: rest, lx =>
    if column < lx.indent then
      closeBlocksFrom column rest { lx.emit .blockEnd with indent := outer, indents := rest }
    else lx

/-- Closes the blocks that are indented further than `column`; inside of flow collections
indentation means nothing. -/
def closeBlocks (lx : Lexer) (column : Int) : Lexer :=
  if lx.inFlow then lx else closeBlocksFrom column lx.indents lx

/-- Opens a block at `column`, if it is indented further than the innermost one. Its token comes
last, or in front of the tokens from `position` on. -/
def openBlock (lx : Lexer) (column : Int) (position : Option Nat) (token : Token) : Lexer :=
  if lx.inFlow || !(lx.indent < column) then lx
  else
    let opened := { lx with indent := column, indents := lx.indent :: lx.indents }
    match position with
    | some n => opened.emitAt n token
    | none => opened.emit token

/-! ## 3. Simple keys -/

/-- The candidate has ended without becoming a key: on an earlier line, or too far back. -/
def isStale (now : Place) (key : KeyCandidate) : Bool :=
  key.place.line < now.line || key.place.index + 1024 < now.index

/-- The candidate, unless it is stale; a stale one that had to be a key is an error. -/
def refresh? (now : Place) (candidate : Option KeyCandidate) : Option (Option KeyCandidate) :=
  match candidate with
  | none => some none
  | some key => if isStale now key then if key.required then none else some none else some candidate

/-- Forgets the candidates that are stale. -/
def refreshKeys? (lx : Lexer) : Option Lexer := do
  let now := lx.cursor.place
  let candidate ← refresh? now lx.candidate
  let outer ← lx.outerCandidates.mapM (refresh? now)
  return { lx with candidate, outerCandidates := outer }

/-- Forgets the candidate of the innermost context, which must not have had to be a key. -/
def dropKey? (lx : Lexer) : Option Lexer :=
  match lx.candidate with
  | some key => if key.required then none else some { lx with candidate := none }
  | none => some lx

/-- Remembers that the next token might begin a simple key. -/
def noteKey? (lx : Lexer) : Option Lexer :=
  if lx.keyAllowed then do
    let dropped ← lx.dropKey?
    let required := !lx.inFlow && lx.indent == lx.column
    return { dropped with candidate := some ⟨lx.count, lx.cursor.place, required⟩ }
  else some lx

/-! ## 4. Between tokens -/

/-- Passes over blanks, comments and line ends. A tab counts as a blank only where it cannot be
taken for indentation; a line end outside of flow collections allows a simple key again. -/
def skipGapFrom (flow : Bool) (allowed inComment : Bool) (place : Place) :
    List Char → Bool × Cursor
  | [] => (allowed, ⟨place, []⟩)
  | c :: r =>
    if isBreak c then skipGapFrom flow (allowed || !flow) false place.newline r
    else if inComment then skipGapFrom flow allowed true (place.forward 1) r
    else if c == ' ' || (c == '\t' && (flow || !allowed)) ||
        (c == '\ufeff' && place.index == 0) then
      skipGapFrom flow allowed false (place.forward 1) r
    else if c == '#' then skipGapFrom flow allowed true (place.forward 1) r
    else (allowed, ⟨place, c :: r⟩)

/-- Passes over everything before the next token. -/
def skipGap (lx : Lexer) : Lexer :=
  let (allowed, cursor) :=
    skipGapFrom lx.inFlow lx.keyAllowed false lx.cursor.place lx.cursor.rest
  { lx with keyAllowed := allowed, cursor }

/-! ## 5. Tokens -/

/-- Leaves all blocks and forgets the candidate, as at the end of a document. -/
def leave? (lx : Lexer) : Option Lexer := do
  let dropped ← (lx.closeBlocks (-1)).dropKey?
  return { dropped with keyAllowed := false }

/-- A document mark. -/
def documentMark? (lx : Lexer) (token : Token) : Option Lexer := do
  return (← lx.leave?).emitShort token 3

/-- A directive. -/
def directive? (lx : Lexer) : Option Lexer := do
  let left ← lx.leave?
  let (token, cursor) ← readDirective left.cursor
  return { left.emit token with cursor }

/-- The opening bracket of a flow collection. -/
def openFlow? (lx : Lexer) (token : Token) : Option Lexer := do
  let noted ← lx.noteKey?
  return { noted.emitShort token 1 with
    outerCandidates := noted.candidate :: noted.outerCandidates
    candidate := none
    keyAllowed := true }

/-- The closing bracket of a flow collection. -/
def closeFlow? (lx : Lexer) (token : Token) : Option Lexer := do
  let dropped ← lx.dropKey?
  let closed := { dropped.emitShort token 1 with keyAllowed := false }
  match closed.outerCandidates with
  | [] => return closed
  | outer :: rest => return { closed with candidate := outer, outerCandidates := rest }

/-- A comma. -/
def flowEntry? (lx : Lexer) : Option Lexer := do
  return { (← lx.dropKey?).emitShort .flowEntry 1 with keyAllowed := true }

/-- The dash of a block sequence. -/
def blockEntry? (lx : Lexer) : Option Lexer := do
  if !lx.inFlow && !lx.keyAllowed then none
  else
    let dropped ← (lx.openBlock lx.column none .blockSequenceStart).dropKey?
    return { dropped.emitShort .blockEntry 1 with keyAllowed := true }

/-- A question mark. -/
def key? (lx : Lexer) : Option Lexer := do
  if !lx.inFlow && !lx.keyAllowed then none
  else
    let dropped ← (lx.openBlock lx.column none .blockMappingStart).dropKey?
    return { dropped.emitShort .key 1 with keyAllowed := !lx.inFlow }

/-- A colon. -/
def value? (lx : Lexer) : Option Lexer :=
  match lx.candidate with
  | some key =>
    let keyed := (lx.emitAt key.position .key).openBlock key.place.column (some key.position)
      .blockMappingStart
    some { keyed.emitShort .value 1 with candidate := none, keyAllowed := false }
  | none =>
    if !lx.inFlow && !lx.keyAllowed then none
    else
      let opened := lx.openBlock lx.column none .blockMappingStart
      some { opened.emitShort .value 1 with keyAllowed := !lx.inFlow }

/-- An anchor, an alias or a tag, which may begin a simple key. -/
def property? (lx : Lexer) (read : Cursor → Option (Token × Cursor)) : Option Lexer := do
  let noted ← lx.noteKey?
  let (token, cursor) ← read noted.cursor
  return { noted.emit token with cursor, keyAllowed := false }

/-- A literal or folded scalar. -/
def blockScalar? (lx : Lexer) (style : Style) : Option Lexer := do
  let dropped ← lx.dropKey?
  let (text, cursor) ← readBlock (style == .folded) lx.indent lx.cursor
  return { dropped.emit (.scalar style text) with cursor, keyAllowed := true }

/-- A quoted scalar. -/
def quoted? (lx : Lexer) (style : Style) : Option Lexer :=
  lx.property? fun cursor =>
    (readQuoted (style == .singleQuoted) cursor).map fun (text, after) => (.scalar style text, after)

/-- A plain scalar. A line end after it allows a simple key again. -/
def plain? (lx : Lexer) : Option Lexer := do
  let noted ← lx.noteKey?
  let (text, folded, cursor) ← readPlain lx.inFlow (lx.indent + 1) noted.cursor
  return { noted.emit (.scalar .plain text) with cursor, keyAllowed := folded }

/-- The characters that begin no plain scalar, or begin one only before certain others. -/
def isIndicator (c : Char) : Bool := "-?:,[]\x7b\x7d#&*!|>'\"%@\x60".toList.contains c

/-- A plain scalar begins with `c`, which the text `r` follows. -/
def beginsPlain (flow : Bool) (c : Char) (r : List Char) : Bool :=
  !(isIndicator c || isBlank c || isBreak c) ||
    (c == '-' && !r.head?.any isBlank) ||
    (!flow && (c == '?' || c == ':') && !atBlankOrEnd r)

/-- The token that begins with `c`, which the text `r` follows. -/
def token? (lx : Lexer) (c : Char) (r : List Char) : Option Lexer :=
  let flow := lx.inFlow
  let atMargin := lx.cursor.place.column == 0
  if atMargin && c == '%' then lx.directive?
  else if atMargin && atDocumentMark (c :: r) then
    lx.documentMark? (if c == '-' then .documentStart else .documentEnd)
  else if c == '[' then lx.openFlow? .flowSequenceStart
  else if c == '{' then lx.openFlow? .flowMappingStart
  else if c == ']' then lx.closeFlow? .flowSequenceEnd
  else if c == '}' then lx.closeFlow? .flowMappingEnd
  else if c == ',' then lx.flowEntry?
  else if c == '-' && atBlankOrEnd r then lx.blockEntry?
  else if c == '?' && (flow || atBlankOrEnd r) then lx.key?
  else if c == ':' && (flow || atBlankOrEnd r) then lx.value?
  else if c == '*' then
    lx.property? fun cursor => (readAnchor cursor).map fun (name, after) => (.alias name, after)
  else if c == '&' then
    lx.property? fun cursor => (readAnchor cursor).map fun (name, after) => (.anchor name, after)
  else if c == '!' then lx.property? (readTag flow)
  else if c == '|' && !flow then lx.blockScalar? .literal
  else if c == '>' && !flow then lx.blockScalar? .folded
  else if c == '\'' then lx.quoted? .singleQuoted
  else if c == '"' then lx.quoted? .doubleQuoted
  else if beginsPlain flow c r then lx.plain?
  else none

/-- The end of the text, which ends every line and every block. -/
def finish? (lx : Lexer) : Option (List Token) := do
  return (← lx.leave?).tokens.reverse

/-- Scans at most `fuel` tokens; every token is at least one character long. -/
def scanFrom : Nat → Lexer → Option (List Token)
  | 0, _ => none
  | fuel + 1, lx => do
    let ready := (← lx.skipGap.refreshKeys?)
    let ready := ready.closeBlocks ready.column
    match ready.cursor.rest with
    | [] => ready.finish?
    | c :: r => scanFrom fuel (← ready.token? c r)

end Lexer

/-- The tokens of a stream. -/
def tokens? (s : List Char) : Option (List Token) := do
  let text ← normalize? s
  Lexer.scanFrom (text.length + 1) (.start text)

end Covenant.Yaml
