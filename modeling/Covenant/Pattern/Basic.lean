import Covenant.Pattern.CharSet
/-!
# Patterns

A pattern describes texts, and `Pattern.occursIn` says whether a line holds such a text anywhere.

* `acceptsAt` says that a pattern matches the empty text between two characters.
* `after` are the patterns that may be left to match once a character has been read; a list of
  patterns stands for all of them at once. A repetition counts down, so it is never written out.
* The search reads every character once and keeps what may be left to match.
-/

namespace Covenant

namespace Pattern

/-! ## 1. Edges -/

/-- A place between two characters, or at an end of the text. -/
structure Place where
  before : Option Char
  next : Option Char
deriving Repr, DecidableEq

/-- A condition on a place. `asciiOnly` counts no other letters as word characters. -/
inductive Edge where
  | textStart
  | textEnd
  | lineStart
  | lineEnd
  /-- The start of a line that may also end in a carriage return. -/
  | lineStartAfterReturn
  | lineEndBeforeReturn
  | wordBoundary (asciiOnly : Bool)
  | noWordBoundary (asciiOnly : Bool)
  | wordStart (asciiOnly : Bool)
  | wordEnd (asciiOnly : Bool)
  | noWordBefore (asciiOnly : Bool)
  | noWordAfter (asciiOnly : Bool)
deriving Repr, DecidableEq

/-- There is a word character. -/
def isWordAt (asciiOnly : Bool) (c : Option Char) : Bool :=
  c.any fun c => isWord c && (!asciiOnly || c.toNat < 0x80)

/-- The condition holds at a place. -/
def Edge.holds (place : Place) : Edge → Bool
  | .textStart => place.before.isNone
  | .textEnd => place.next.isNone
  | .lineStart => place.before.all (· == '\n')
  | .lineEnd => place.next.all (· == '\n')
  | .lineStartAfterReturn =>
    place.before.all (· == '\n') || (place.before == some '\r' && place.next != some '\n')
  | .lineEndBeforeReturn =>
    place.next.all (· == '\r') || (place.next == some '\n' && place.before != some '\r')
  | .wordBoundary ascii => isWordAt ascii place.before != isWordAt ascii place.next
  | .noWordBoundary ascii => isWordAt ascii place.before == isWordAt ascii place.next
  | .wordStart ascii => !isWordAt ascii place.before && isWordAt ascii place.next
  | .wordEnd ascii => isWordAt ascii place.before && !isWordAt ascii place.next
  | .noWordBefore ascii => !isWordAt ascii place.before
  | .noWordAfter ascii => !isWordAt ascii place.next

end Pattern

/-! ## 2. Patterns -/

open Pattern in
/-- A description of texts. -/
inductive Pattern where
  /-- The empty text. -/
  | empty
  | char (set : CharSet)
  | edge (edge : Edge)
  | seq (first second : Pattern)
  | alt (first second : Pattern)
  /-- At least `least` and, if there is a bound, at most `most` texts of a pattern. -/
  | times (body : Pattern) (least : Nat) (most : Option Nat)
deriving Repr, DecidableEq, Inhabited

namespace Pattern

/-- One pattern after another, without an empty one in front. -/
def andThen : Pattern → Pattern → Pattern
  | .empty, second => second
  | first, second => .seq first second

/-- Patterns one after the other. -/
def all : List Pattern → Pattern
  | [] => .empty
  | [p] => p
  | p :: rest => .seq p (all rest)

/-- One of several patterns; without any, the empty text. -/
def any : List Pattern → Pattern
  | [] => .empty
  | [p] => p
  | p :: rest => .alt p (any rest)

/-- The pattern of one text. -/
def ofText (text : String) : Pattern := all (text.toList.map fun c => .char (.single c))

/-- The pattern matches the empty text at a place. -/
def acceptsAt (place : Place) : Pattern → Bool
  | .empty => true
  | .char _ => false
  | .edge e => e.holds place
  | .seq first second => first.acceptsAt place && second.acceptsAt place
  | .alt first second => first.acceptsAt place || second.acceptsAt place
  | .times body least _ => least == 0 || body.acceptsAt place

/-- A repetition with one text less to come; where the body may be empty, none is owed any more. -/
def countDown (body : Pattern) (mayBeEmpty : Bool) (least : Nat) (most : Option Nat) : Pattern :=
  match most with
  | some 1 => .empty
  | _ => .times body (if mayBeEmpty then 0 else least - 1) (most.map (· - 1))

/-- What may be left to match once `c` has been read after `before`. -/
def after (before : Option Char) (c : Char) : Pattern → List Pattern
  | .empty => []
  | .char set => if set.contains c then [.empty] else []
  | .edge _ => []
  | .seq first second =>
    (first.after before c).map (·.andThen second)
      ++ if first.acceptsAt ⟨before, some c⟩ then second.after before c else []
  | .alt first second => first.after before c ++ second.after before c
  | .times body least most =>
    if most == some 0 then []
    else
      let mayBeEmpty := body.acceptsAt ⟨before, some c⟩
      (body.after before c).map (·.andThen (countDown body mayBeEmpty least most))

/-! ## 3. Searching -/

/-- The list without repetitions. -/
def distinct : List Pattern → List Pattern
  | [] => []
  | p :: rest =>
    let rest := distinct rest
    if rest.contains p then rest else p :: rest

/-- One of the patterns `left`, or the pattern itself from here on, is matched in the text. -/
def searchFrom (pattern : Pattern) (before : Option Char) (left : List Pattern) :
    List Char → Bool
  | [] => (pattern :: left).any (·.acceptsAt ⟨before, none⟩)
  | c :: rest =>
    let left := pattern :: left
    left.any (·.acceptsAt ⟨before, some c⟩)
      || searchFrom pattern (some c) (distinct (left.flatMap (·.after before c))) rest

/-- Some part of the line is a text of the pattern. -/
def occursIn (pattern : Pattern) (line : List Char) : Bool :=
  pattern.searchFrom none [] line

/-! ## 4. Size -/

/-- A measure of the room that the compiled pattern takes, in bytes. -/
def weight : Pattern → Nat
  | .empty => 0
  | .char set => set.weight
  | .edge _ => 32
  | .seq first second => first.weight + second.weight
  | .alt first second => first.weight + second.weight + 40
  | .times body least none => max 1 least * body.weight + 40
  | .times body least (some most) => most * body.weight + (most - least) * 40

/-- The most room that a compiled pattern may take: 10 MiB. -/
def weightLimit : Nat := 10 * 1024 * 1024

end Pattern

end Covenant
