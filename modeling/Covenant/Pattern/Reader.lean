import Covenant.Decimal.Numeral
import Covenant.Pattern.Bracket
/-!
# Reading patterns

The usual notation of regular expressions. `Pattern.read?` refuses a text that is none, one nested
more than 250 levels deep, and one that would take too much room.

* Alternatives are separated by `|`; `?`, `*`, `+` and counts in braces repeat what stands before,
  and a further `?` changes nothing here, since it is only asked whether a text occurs.
* Groups may be named, each name once, and may set flags for what is inside or what follows.
-/

namespace Covenant.Pattern

open Covenant.Decimal Covenant.Text

/-! ## 1. Parts of a pattern -/

/-- A part of a sequence. -/
structure Item where
  pattern : Pattern
  /-- The number of levels on which its parts are nested. -/
  depth : Nat
  /-- The part may be repeated; a mere change of flags may not. -/
  repeatable : Bool
deriving Repr, Inhabited

/-- A part on one level. -/
def Item.leaf (pattern : Pattern) : Item := ⟨pattern, 0, true⟩

/-- The number of levels of several parts: one more than any of them has, if there are several. -/
def levels : List Item → Nat
  | [] => 0
  | [item] => item.depth
  | items => items.foldl (fun depth item => max depth item.depth) 0 + 1

/-- Several parts, one after the other, as one. -/
def joinItems (items : List Item) : Item := ⟨.all (items.map (·.pattern)), levels items, true⟩

/-- Several alternatives as one part. -/
def joinBranches (items : List Item) : Item := ⟨.any (items.map (·.pattern)), levels items, true⟩

/-- What has been read of a group: the alternatives before, and the parts of the last one, both
backwards. -/
structure Level where
  branches : List Item
  items : List Item
  /-- The flags outside of the group. -/
  outer : Flags
deriving Repr, Inhabited

/-- The level of a group that has just been opened. -/
def Level.opened (outer : Flags) : Level := ⟨[], [], outer⟩

/-- A level with one more part. -/
def Level.push (level : Level) (item : Item) : Level := { level with items := item :: level.items }

/-- The last alternative is finished. -/
def Level.branch (level : Level) : Level :=
  { level with branches := joinItems level.items.reverse :: level.branches, items := [] }

/-- All of a level as one part. -/
def Level.close (level : Level) : Item := joinBranches level.branch.branches.reverse

/-- Everything that is open, the innermost level first. -/
structure State where
  flags : Flags
  level : Level
  outer : List Level
  names : List (List Char)
deriving Repr, Inhabited

/-! ## 2. Counts -/

/-- The largest count: one of 32 bits. -/
def countLimit : Nat := Nat.pow 2 32 - 1

/-- A count with blanks around it; absent inside where there are no digits. -/
def count? (flags : Flags) (s : List Char) : Option (Option Nat × List Char) :=
  let s := trimStart s
  let (digits, rest) := takeKind flags Char.isDigit s.length s
  let n := readDigits digits
  let rest := skip flags (trimStart rest)
  if digits.isEmpty then some (none, rest)
  else if countLimit < n then none
  else some (some n, rest)

/-- The least and greatest number of repetitions after an opening brace, and the rest. -/
def counts? (flags : Flags) (s : List Char) : Option (Nat × Option Nat × List Char) := do
  let (first, rest) ← count? flags (skip flags s)
  let least ← first
  match rest with
  | '}' :: rest => some (least, some least, rest)
  | ',' :: rest =>
    match skip flags rest with
    | '}' :: rest => some (least, none, rest)
    | rest =>
      let (last, rest) ← count? flags rest
      let most ← last
      match rest with
      | '}' :: rest => if most < least then none else some (least, some most, rest)
      | _ => none
  | _ => none

/-- The rest without the sign that asks for few repetitions. -/
def skipLazy : List Char → List Char
  | '?' :: rest => rest
  | s => s

/-! ## 3. Groups -/

/-- A flag by its letter, switched on or off; greed plays no part here. -/
def setFlag? (flags : Flags) (on : Bool) : Char → Option Flags
  | 'i' => some { flags with caseless := on }
  | 'm' => some { flags with multiLine := on }
  | 's' => some { flags with dotAll := on }
  | 'R' => some { flags with crlf := on }
  | 'x' => some { flags with verbose := on }
  | 'u' => some { flags with unicode := on }
  | 'U' => some flags
  | _ => none

/-- The letters of a change of flags up to a colon or a closing parenthesis, and what follows. No
letter may come twice, and a letter must follow the sign that switches off. -/
def flagsFrom (flags : Flags) (on : Bool) (seen : List Char) :
    List Char → Option (Flags × Bool × List Char)
  | [] => none
  | c :: rest =>
    if c == ':' || c == ')' then
      if seen.head? == some '-' || (c == ')' && seen.isEmpty) then none
      else some (flags, c == ':', rest)
    else if seen.contains c then none
    else if c == '-' then flagsFrom flags false (c :: seen) rest
    else match setFlag? flags on c with
      | some flags => flagsFrom flags on (c :: seen) rest
      | none => none

/-- A character of the name of a group. -/
def isGroupName (first : Bool) (c : Char) : Bool :=
  c == '_' || (isWord c && (!first || !isDigit c) && c != '\u200C' && c != '\u200D')
    || (!first && (c == '.' || c == '[' || c == ']'))

/-- The name of a group up to the closing angle bracket, and the rest. -/
def groupName? (s : List Char) : Option (List Char × List Char) :=
  let name := s.takeWhile (· != '>')
  match s.dropWhile (· != '>') with
  | '>' :: rest =>
    match name with
    | [] => none
    | c :: more =>
      if isGroupName true c && more.all (isGroupName false) then some (name, rest) else none
  | _ => none

/-- The text begins a look at what stands before or after. -/
def isLookAround : List Char → Bool
  | '?' :: '=' :: _ => true
  | '?' :: '!' :: _ => true
  | '?' :: '<' :: '=' :: _ => true
  | '?' :: '<' :: '!' :: _ => true
  | _ => false

/-- The state inside of a new group with these flags. -/
def State.enter (state : State) (inner : Flags) : State :=
  { state with
    flags := inner
    level := .opened state.flags
    outer := state.level :: state.outer }

/-- The state in a group with a name that is not taken yet. -/
def State.enterNamed (state : State) (s : List Char) : Option (State × List Char) := do
  let (name, rest) ← groupName? s
  if state.names.contains name then none
  else some ({ state.enter state.flags with names := name :: state.names }, rest)

/-- What follows an opening parenthesis. -/
def State.openGroup (state : State) (s : List Char) : Option (State × List Char) :=
  let s := skip state.flags s
  if isLookAround s then none
  else match s with
    | '?' :: 'P' :: '<' :: rest => state.enterNamed rest
    | '?' :: '<' :: rest => state.enterNamed rest
    | '?' :: rest => do
      let (flags, group, rest) ← flagsFrom state.flags true [] rest
      if group then some (state.enter flags, rest)
      else
        let change : Item := ⟨.empty, 0, false⟩
        some ({ state with flags, level := state.level.push change }, rest)
    | rest => some (state.enter state.flags, rest)

/-- What follows a closing parenthesis. -/
def State.closeGroup (state : State) : Option State :=
  match state.outer with
  | [] => none
  | level :: outer =>
    let inner := state.level.close
    some { state with
      flags := state.level.outer
      level := level.push { inner with depth := inner.depth + 1, repeatable := true }
      outer }

/-! ## 4. Reading -/

/-- The state with one more part. -/
def State.push (state : State) (item : Item) : State :=
  { state with level := state.level.push item }

/-- The state with the last part repeated. -/
def State.repeatLast (state : State) (least : Nat) (most : Option Nat) : Option State :=
  match state.level.items with
  | item :: items =>
    if item.repeatable then
      let pattern := if most == some 0 then .empty else .times item.pattern least most
      some { state with level := { state.level with
        items := ⟨pattern, item.depth + 1, true⟩ :: items } }
    else none
  | [] => none

/-- The pattern of one character. -/
def charPattern (flags : Flags) (c : Char) : Pattern := .char (foldCase flags (.single c))

/-- The pattern of a point. -/
def dotPattern? (flags : Flags) : Option Pattern :=
  if !flags.unicode then none
  else if flags.dotAll then some (.char (.complement .none))
  else if flags.crlf then some (.char (.complement (.union (.single '\n') (.single '\r'))))
  else some (.char (.complement (.single '\n')))

/-- The edge of a caret. -/
def startEdge (flags : Flags) : Edge :=
  if !flags.multiLine then .textStart
  else if flags.crlf then .lineStartAfterReturn
  else .lineStart

/-- The edge of a dollar sign. -/
def endEdge (flags : Flags) : Edge :=
  if !flags.multiLine then .textEnd else if flags.crlf then .lineEndBeforeReturn else .lineEnd

/-- The pattern of an escape. -/
def escapePattern (flags : Flags) : Escape → Pattern
  | .literal c => charPattern flags c
  | .set set => .char set
  | .edge condition => .edge condition

/-- One step: the state after the first sign of the text, and the rest. -/
def State.step (state : State) : List Char → Option (State × List Char)
  | [] => none
  | '(' :: s => state.openGroup s
  | ')' :: s => state.closeGroup.map (·, s)
  | '|' :: s => some ({ state with level := state.level.branch }, s)
  | '?' :: s => (state.repeatLast 0 (some 1)).map (·, skipLazy s)
  | '*' :: s => (state.repeatLast 0 none).map (·, skipLazy s)
  | '+' :: s => (state.repeatLast 1 none).map (·, skipLazy s)
  | '{' :: s => do
    let (least, most, rest) ← counts? state.flags s
    return (← state.repeatLast least most, skipLazy (skip state.flags rest))
  | '[' :: s => do
    let (part, rest) ← bracket? state.flags s
    return (state.push ⟨.char part.set, part.depth, true⟩, rest)
  | '\\' :: s => do
    let (escape, rest) ← escape? state.flags s
    return (state.push (.leaf (escapePattern state.flags escape)), rest)
  | '.' :: s => do return (state.push (.leaf (← dotPattern? state.flags)), s)
  | '^' :: s => some (state.push (.leaf (.edge (startEdge state.flags))), s)
  | '$' :: s => some (state.push (.leaf (.edge (endEdge state.flags))), s)
  | c :: s => do return (state.push (.leaf (charPattern state.flags (← literal? state.flags c))), s)

/-- Reads the text to its end; `fuel` bounds the steps. -/
def State.readFrom : Nat → State → List Char → Option Item
  | 0, _, _ => none
  | fuel + 1, state, s =>
    match skip state.flags s with
    | [] => if state.outer.isEmpty then some state.level.close else none
    | s => do
      let (state, rest) ← state.step s
      State.readFrom fuel state rest

/-- The most levels of a pattern. -/
def depthLimit : Nat := 250

/-- The pattern that a text writes. -/
def read? (text : String) : Option Pattern := do
  let s := text.toList
  let start : State := ⟨.initial, .opened .initial, [], []⟩
  let item ← State.readFrom (s.length + 1) start s
  if depthLimit < item.depth || weightLimit < item.pattern.weight then none
  else some item.pattern

end Covenant.Pattern
