import Covenant.Pattern.Escape
/-!
# Bracketed sets of written patterns

A set between brackets lists characters, ranges, classes and other bracketed sets; `&&`, `--` and
`~~` between two lists take what both share, what only the first has, and what they do not share.

* A `]` that comes first, and a `-` that comes first or last, stand for themselves.
* The reader keeps a stack of the brackets and operators that are open.
-/

namespace Covenant.Pattern

/-! ## 1. Parts -/

/-- A set, and how deeply its parts are nested. -/
structure SetPart where
  set : CharSet
  depth : Nat
deriving Repr, Inhabited

/-- The list of parts that is being read. -/
structure PartList where
  set : CharSet
  depth : Nat
  count : Nat
deriving Repr, Inhabited

namespace PartList

/-- The list without parts. -/
def empty : PartList := ⟨.none, 0, 0⟩

/-- The list with one more part. -/
def push (parts : PartList) (part : SetPart) : PartList :=
  ⟨if parts.count == 0 then part.set else .union parts.set part.set,
    max parts.depth part.depth, parts.count + 1⟩

/-- The list as one part; a list of several is a level of its own. -/
def close (parts : PartList) : SetPart :=
  ⟨parts.set, if parts.count ≤ 1 then parts.depth else parts.depth + 1⟩

end PartList

/-- An operator between two lists. -/
inductive SetOp where
  | inter | except | unshared
deriving Repr, DecidableEq

/-- What two sets give. -/
def SetOp.apply : SetOp → CharSet → CharSet → CharSet
  | .inter, a, b => .inter a b
  | .except, a, b => .except a b
  | .unshared, a, b => .unshared a b

/-- What is open: a bracket, with the list around it, or an operator, with what stands before. -/
inductive SetFrame where
  | bracket (negated : Bool) (around : PartList)
  | operator (op : SetOp) (before : SetPart)
deriving Repr

/-! ## 2. Classes by name -/

/-- The classes of ASCII by name. -/
def asciiClasses : List (String × List (Char × Char)) := [
  ("alnum", [('0', '9'), ('A', 'Z'), ('a', 'z')]),
  ("alpha", [('A', 'Z'), ('a', 'z')]),
  ("ascii", [('\x00', '\x7F')]),
  ("blank", [('\t', '\t'), (' ', ' ')]),
  ("cntrl", [('\x00', '\x1F'), ('\x7F', '\x7F')]),
  ("digit", [('0', '9')]),
  ("graph", [('!', '~')]),
  ("lower", [('a', 'z')]),
  ("print", [(' ', '~')]),
  ("punct", [('!', '/'), (':', '@'), ('[', '\x60'), ('\x7B', '~')]),
  ("space", [('\t', '\r'), (' ', ' ')]),
  ("upper", [('A', 'Z')]),
  ("word", [('0', '9'), ('A', 'Z'), ('_', '_'), ('a', 'z')]),
  ("xdigit", [('0', '9'), ('A', 'F'), ('a', 'f')])]

/-- The class after `[`, such as `:alpha:]`; absent where it is none, and failed inside where it
may not be negated. -/
def namedClass? (flags : Flags) (s : List Char) : Option (Option CharSet × List Char) :=
  match s with
  | ':' :: s =>
    let (negated, s) := match s with
      | '^' :: rest => (true, rest)
      | _ => (false, s)
    let name := s.takeWhile (· != ':')
    match s.dropWhile (· != ':') with
    | ':' :: ']' :: rest =>
      (asciiClasses.lookup (.ofList name)).map fun ranges =>
        (classSet? flags negated (foldCase flags (.ofRanges ranges)), rest)
    | _ => none
  | _ => none

/-! ## 3. Reading -/

/-- One character or class in brackets. -/
def setItem? (flags : Flags) : List Char → Option (Escape × List Char)
  | [] => none
  | '\\' :: s => escape? flags s
  | c :: s => (literal? flags c).map fun c => (.literal c, s)

/-- The set that one item stands for. -/
def itemSet? : Escape → Option CharSet
  | .literal c => some (.single c)
  | .set set => some set
  | .edge _ => none

/-- The characters from one item to another. -/
def rangeSet? : Escape → Escape → Option CharSet
  | .literal first, .literal last => if last < first then none else some (.span first last)
  | _, _ => none

/-- An item or a range of items in brackets. -/
def setRange? (flags : Flags) (s : List Char) : Option (CharSet × List Char) := do
  let (first, rest) ← setItem? flags s
  match skip flags rest with
  | [] => none
  | '-' :: rest =>
    match skip flags rest with
    | ']' :: _ => return (← itemSet? first, '-' :: rest)
    | '-' :: _ => return (← itemSet? first, '-' :: rest)
    | rest =>
      let (last, rest) ← setItem? flags rest
      return (← rangeSet? first last, rest)
  | rest => return (← itemSet? first, rest)

/-- The hyphens at the start of a bracket, which stand for themselves; `fuel` bounds their
number. -/
def leadingHyphens (flags : Flags) : Nat → PartList → List Char → PartList × List Char
  | fuel + 1, parts, '-' :: s =>
    leadingHyphens flags fuel (parts.push ⟨.single '-', 0⟩) (skip flags s)
  | _, parts, s => (parts, s)

/-- What stands at the start of a bracket: the sign of negation, hyphens, a closing bracket. -/
def openBracket (flags : Flags) (s : List Char) : Bool × PartList × List Char :=
  let s := skip flags s
  let (negated, s) := match s with
    | '^' :: rest => (true, skip flags rest)
    | _ => (false, s)
  let (parts, s) := leadingHyphens flags s.length .empty s
  match parts.count, s with
  | 0, ']' :: rest => (negated, parts.push ⟨.single ']', 0⟩, skip flags rest)
  | _, _ => (negated, parts, s)

/-- The part that ends a list: joined to what stands before an operator, if one is open. -/
def closeOperator (flags : Flags) (part : SetPart) : List SetFrame → SetPart × List SetFrame
  | .operator op before :: stack =>
    (⟨op.apply (foldCase flags before.set) (foldCase flags part.set),
      max before.depth part.depth + 1⟩, stack)
  | stack => (part, stack)

/-- The operator at the start, and the rest. -/
def setOp? : List Char → Option (SetOp × List Char)
  | '&' :: '&' :: s => some (.inter, s)
  | '-' :: '-' :: s => some (.except, s)
  | '~' :: '~' :: s => some (.unshared, s)
  | _ => none

/-- Reads on until the first bracket of the stack is closed; `fuel` bounds the steps. -/
def bracketFrom (flags : Flags) :
    Nat → List SetFrame → PartList → List Char → Option (SetPart × List Char)
  | 0, _, _, _ => none
  | fuel + 1, stack, parts, s =>
    match skip flags s with
    | [] => none
    | '[' :: s =>
      match namedClass? flags s with
      | some (some set, rest) => bracketFrom flags fuel stack (parts.push ⟨set, 0⟩) rest
      | some (none, _) => none
      | none =>
        let (negated, inner, rest) := openBracket flags s
        bracketFrom flags fuel (.bracket negated parts :: stack) inner rest
    | ']' :: s =>
      match closeOperator flags parts.close stack with
      | (part, .bracket negated around :: stack) =>
        match classSet? flags negated (foldCase flags part.set) with
        | none => none
        | some set =>
          let part : SetPart := ⟨set, part.depth + 1⟩
          if stack.isEmpty then some (part, s)
          else bracketFrom flags fuel stack (around.push part) s
      | _ => none
    | c :: s =>
      match setOp? (c :: s) with
      | some (op, rest) =>
        let (part, stack) := closeOperator flags parts.close stack
        bracketFrom flags fuel (.operator op part :: stack) .empty rest
      | none =>
        match setRange? flags (c :: s) with
        | some (set, rest) => bracketFrom flags fuel stack (parts.push ⟨set, 0⟩) rest
        | none => none

/-- The set after an opening bracket, and the rest after the closing one. -/
def bracket? (flags : Flags) (s : List Char) : Option (SetPart × List Char) :=
  let (negated, parts, rest) := openBracket flags s
  bracketFrom flags (2 * s.length + 2) [.bracket negated .empty] parts rest

end Covenant.Pattern
