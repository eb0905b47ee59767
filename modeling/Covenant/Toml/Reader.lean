import Covenant.Toml.Scalar
/-!
# Reading TOML

`read?` gives the members of a document. Inline tables may go over several lines and end in a comma.

* Brackets are nested at most 80 levels deep.
* A byte order mark at the start is passed over.
-/

namespace Covenant.Toml

/-! ## 1. Keys -/

/-- A character of a key without quotes. -/
def isKeyChar (c : Char) : Bool := c.isAlphanum || c == '_' || c == '-'

/-- One part of a key, and the rest. -/
def keyPart? (s : List Char) : Option (String × List Char) :=
  if s.head? == some '"' || s.head? == some '\'' then
    (lineText? s).map fun (text, rest) => (.ofList text, rest)
  else
    let name := s.takeWhile isKeyChar
    if name.isEmpty then none else some (.ofList name, s.dropWhile isKeyChar)

/-- A dotted key: the parts before the last one, the last one, and the rest without blanks before
it; `fuel` bounds the number of parts. -/
def keyFrom : Nat → List String → List Char → Option (List String × String × List Char)
  | 0, _, _ => none
  | fuel + 1, path, s => do
    let (part, rest) ← keyPart? (skipSpaces s)
    match skipSpaces rest with
    | '.' :: rest => keyFrom fuel (path ++ [part]) rest
    | rest => some (path, part, rest)

/-- A dotted key, and the rest. -/
def key? (s : List Char) : Option (List String × String × List Char) := keyFrom s.length [] s

/-- A dotted key and the sign after it, and the rest without blanks before it. -/
def keySign? (s : List Char) : Option (List String × String × List Char) := do
  match ← key? s with
  | (path, key, '=' :: rest) => some (path, key, skipSpaces rest)
  | _ => none

/-! ## 2. Values -/

mutual

/-- A value, and the rest; `depth` levels of brackets may be opened, and `fuel` bounds the steps. -/
def valueFrom : Nat → Nat → List Char → Option (Node × List Char)
  | 0, _, _ => none
  | fuel + 1, depth, s =>
    match s, depth with
    | '[' :: _, 0 => none
    | '{' :: _, 0 => none
    | '[' :: rest, depth + 1 => itemsFrom fuel depth [] rest
    | '{' :: rest, depth + 1 => membersFrom fuel depth [] rest
    | s, _ => scalar? s

/-- The rest of an array after `done`. -/
def itemsFrom : Nat → Nat → List Node → List Char → Option (Node × List Char)
  | 0, _, _, _ => none
  | fuel + 1, depth, done, s => do
    match ← skipLines s with
    | ']' :: rest => some (.items false done.reverse, rest)
    | s =>
      let (node, rest) ← valueFrom fuel depth s
      match ← skipLines rest with
      | ',' :: rest => itemsFrom fuel depth (node :: done) rest
      | ']' :: rest => some (.items false (node :: done).reverse, rest)
      | _ => none

/-- The rest of an inline table after `done`. -/
def membersFrom : Nat → Nat → Members → List Char → Option (Node × List Char)
  | 0, _, _, _ => none
  | fuel + 1, depth, done, s => do
    match ← skipLines s with
    | '}' :: rest => some (.table .inline done, rest)
    | s =>
      let (path, key, rest) ← keySign? s
      let (node, rest) ← valueFrom fuel depth rest
      let done ← put path key node .inline done
      match ← skipLines rest with
      | ',' :: rest => membersFrom fuel depth done rest
      | '}' :: rest => some (.table .inline done, rest)
      | _ => none

end

/-- The levels of brackets that may be opened. -/
def maxDepth : Nat := 80

/-- A value, and the rest. -/
def value? (s : List Char) : Option (Node × List Char) := valueFrom (2 * s.length + 1) maxDepth s

/-! ## 3. Documents -/

/-- What has been read: all members, and the path of the table that is open. -/
structure Reading where
  members : Members
  header : List String
deriving Repr, Inhabited

/-- A header in single or, if `item`, double brackets: what it opens, and the next line. -/
def Reading.openHeader (reading : Reading) (item : Bool) (s : List Char) :
    Option (Reading × List Char) := do
  let (path, key, rest) ← key? s
  let rest ← match item, rest with
    | true, ']' :: ']' :: rest => some rest
    | false, ']' :: rest => some rest
    | _, _ => none
  let rest ← nextLine rest
  let change := if item then openItem key else openTable key
  let members ← changeAt false change path .opened reading.members
  return (⟨members, path ++ [key]⟩, rest)

/-- A member of the open table, and the next line. -/
def Reading.addMember (reading : Reading) (s : List Char) : Option (Reading × List Char) := do
  let (path, key, rest) ← keySign? s
  let (node, rest) ← value? rest
  let rest ← nextLine rest
  let members ← changeAt false (put path key node) reading.header .opened reading.members
  return ({ reading with members }, rest)

/-- Reads header by header and member by member; `fuel` bounds their number. -/
def Reading.readFrom : Nat → Reading → List Char → Option Members
  | 0, _, _ => none
  | fuel + 1, reading, s => do
    match ← skipLines s with
    | [] => some reading.members
    | '[' :: '[' :: s =>
      let (reading, rest) ← reading.openHeader true s
      Reading.readFrom fuel reading rest
    | '[' :: s =>
      let (reading, rest) ← reading.openHeader false s
      Reading.readFrom fuel reading rest
    | s =>
      let (reading, rest) ← reading.addMember s
      Reading.readFrom fuel reading rest

/-- The text without a byte order mark at its start. -/
def skipMark : List Char → List Char
  | '\uFEFF' :: rest => rest
  | s => s

/-- The members of the document that a text holds. -/
def read? (s : List Char) : Option Members := Reading.readFrom (s.length + 1) ⟨[], []⟩ (skipMark s)

end Covenant.Toml
