import Covenant.Yaml.Cursor
import Covenant.Yaml.Token
/-!
# Anchors, tags and directives

Readers of the tokens that are made of names: `&anchor`, `*alias`, `!tag`, `%YAML` and `%TAG`.
-/

namespace Covenant.Yaml

/-! ## 1. Anchors -/

/-- The characters, blanks and line ends apart, that may follow the name of an anchor. -/
def endsAnchor (s : List Char) : Bool :=
  atBlankOrEnd s || s.head?.any "?:,]\x7d%@\x60".toList.contains

/-- The name of the anchor or alias whose indicator stands here. -/
def readAnchor (cur : Cursor) : Option (String × Cursor) :=
  let (name, after) := (cur.forward 1).span isNameChar
  if name.isEmpty || !endsAnchor after.rest then none else some (.ofList name, after)

/-! ## 2. Tags -/

/-- The number of bytes that a first byte of UTF-8 announces. -/
def utf8Width? (octet : Nat) : Option Nat :=
  if octet < 0x80 then some 1
  else if octet / 0x20 == 6 then some 2
  else if octet / 0x10 == 14 then some 3
  else if octet / 8 == 30 then some 4
  else none

/-- The byte that `%` and two hexadecimal digits spell. -/
def escapedByte? : List Char → Option Nat
  | '%' :: a :: b :: _ =>
    let digit (c : Char) : Option Nat :=
      if c.isDigit then some (c.toNat - 0x30)
      else if 'a' ≤ c.toLower && c.toLower ≤ 'f' then some (c.toLower.toNat - 0x57) else none
    (digit a).bind fun high => (digit b).map (high * 16 + ·)
  | _ => none

/-- The continuation bytes of a character whose value so far is `value`. -/
def escapedRest? (value : Nat) : Nat → List Char → Option Nat
  | 0, _ => some value
  | count + 1, s =>
    (escapedByte? s).bind fun octet =>
      if octet / 0x40 == 2 then escapedRest? (value * 0x40 + octet % 0x40) count (s.drop 3)
      else none

/-- The character that a row of escaped bytes spells, and the number of its bytes. -/
def escapedChar? (s : List Char) : Option (Char × Nat) := do
  let first ← escapedByte? s
  let width ← utf8Width? first
  let lead := if width == 1 then first else first % Nat.pow 2 (7 - width)
  let value ← escapedRest? lead (width - 1) (s.drop 3)
  return (Char.ofNat value, width)

/-- Worker of `readTagText`: `skip` characters belong to an escape that has been read. -/
def tagTextFrom (verbatim : Bool) (skip : Nat) (done : List Char) (place : Place) :
    List Char → Option (List Char × Cursor)
  | [] => some (done.reverse, ⟨place, []⟩)
  | c :: r =>
    if 0 < skip then tagTextFrom verbatim (skip - 1) done (place.forward 1) r
    else if c == '%' then
      match escapedChar? (c :: r) with
      | some (d, width) => tagTextFrom verbatim (3 * width - 1) (d :: done) (place.forward 1) r
      | none => none
    else if isTagChar verbatim c then tagTextFrom verbatim 0 (c :: done) (place.forward 1) r
    else some (done.reverse, ⟨place, c :: r⟩)

/-- The text of a tag that begins here, with its escapes resolved. -/
def readTagText (verbatim : Bool) (cur : Cursor) : Option (List Char × Cursor) :=
  tagTextFrom verbatim 0 [] cur.place cur.rest

/-- The handle that begins here: an exclamation mark, a name, and a second mark if there is one. -/
def readHandle (cur : Cursor) : Option (List Char × Cursor) :=
  match cur.rest with
  | '!' :: _ =>
    let (name, after) := (cur.forward 1).span isNameChar
    match after.rest with
    | '!' :: _ => some ('!' :: name ++ ['!'], after.forward 1)
    | _ => some ('!' :: name, after)
  | _ => none

/-- A tag in the form of a handle and a suffix. Without a second mark the name after the first
belongs to the suffix, and a mark alone is a tag of its own. -/
def readShortTag (cur : Cursor) : Option (Token × Cursor) := do
  let (handle, after) ← readHandle cur
  if 1 < handle.length && handle.getLast? == some '!' then
    let (suffix, last) ← readTagText false after
    if suffix.isEmpty then none else return (.tag (.ofList handle) (.ofList suffix), last)
  else
    let (more, last) ← readTagText false after
    let suffix := handle.drop 1 ++ more
    return (if suffix.isEmpty then .tag "" "!" else .tag "!" (.ofList suffix), last)

/-- A tag given in full, between `!<` and `>`. -/
def readVerbatimTag (cur : Cursor) : Option (Token × Cursor) := do
  let (suffix, after) ← readTagText true (cur.forward 2)
  match after.rest with
  | '>' :: _ => if suffix.isEmpty then none else return (.tag "" (.ofList suffix), after.forward 1)
  | _ => none

/-- The tag that begins here. A blank or a line end follows it, or a comma in a flow collection. -/
def readTag (flow : Bool) (cur : Cursor) : Option (Token × Cursor) := do
  let (token, after) ← match cur.rest with
    | '!' :: '<' :: _ => readVerbatimTag cur
    | _ => readShortTag cur
  if atBlankOrEnd after.rest || (flow && after.rest.head? == some ',') then return (token, after)
  else none

/-! ## 3. Directives -/

/-- A number of one to nine digits. -/
def readNumber (cur : Cursor) : Option (Nat × Cursor) :=
  let (digits, after) := cur.span Char.isDigit
  if digits.isEmpty || 9 < digits.length then none
  else some (digits.foldl (fun n c => n * 10 + (c.toNat - 0x30)) 0, after)

/-- The version that a `%YAML` directive names. -/
def readVersion (cur : Cursor) : Option (Token × Cursor) := do
  let (major, after) ← readNumber (cur.skipWhile isBlank)
  match after.rest with
  | '.' :: _ =>
    let (minor, last) ← readNumber (after.forward 1)
    return (.versionDirective major minor, last)
  | _ => none

/-- The handle and the beginning of tags that a `%TAG` directive binds to it. -/
def readTagBinding (cur : Cursor) : Option (Token × Cursor) := do
  let (handle, after) ← readHandle (cur.skipWhile isBlank)
  if 1 < handle.length && handle.getLast? != some '!' then none
  else if !after.rest.head?.any isBlank then none
  else
    let (text, last) ← readTagText true (after.skipWhile isBlank)
    if text.isEmpty || !atBlankOrEnd last.rest then none
    else return (.tagDirective (.ofList handle) (.ofList text), last)

/-- The directive whose percent sign stands here, to the end of its line. -/
def readDirective (cur : Cursor) : Option (Token × Cursor) := do
  let (name, after) := (cur.forward 1).span isNameChar
  if name.isEmpty || !atBlankOrEnd after.rest then none
  else
    let (token, last) ←
      if name == "YAML".toList then readVersion after
      else if name == "TAG".toList then readTagBinding after
      else none
    return (token, ← last.endLine?)

end Covenant.Yaml
