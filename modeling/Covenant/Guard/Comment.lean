import Covenant.Guard.Language
import Covenant.Text.Split
/-!
# Code beside comments

What of each line of a file is looked at, line by line. Between lines it is only remembered whether
a block comment is open.

* Where comments begin with `#`, a line that begins with one is left out and every other line is
  looked at as a whole.
* Elsewhere comments at the start of a line are dropped, as often as they come; a line of which
  nothing but blanks or a line comment is left is left out. What comes after the first code on a
  line is not looked at for comments.
-/

namespace Covenant.Guard

open Covenant.Text

/-- What comes after the end of a block comment. -/
def afterBlock? : List Char → Option (List Char)
  | [] => none
  | '*' :: '/' :: rest => some rest
  | _ :: rest => afterBlock? rest

theorem length_afterBlock? {s rest : List Char} (h : afterBlock? s = some rest) :
    rest.length < s.length := by
  fun_induction afterBlock? s with
  | case1 => simp at h
  | case2 r =>
    obtain rfl : r = rest := by simpa using h
    simp only [List.length_cons]
    omega
  | case3 c r _ ih =>
    have := ih h
    simp only [List.length_cons]
    omega

theorem length_trimStart (s : List Char) : (trimStart s).length ≤ s.length := by
  simpa [trimStart] using (List.dropWhile_sublist (p := isBlank) (l := s)).length_le

/-- The code of a line outside of a block comment, and whether a block comment is open after it. -/
def codeOutside (line : List Char) : Option (List Char) × Bool :=
  match _h : trimStart line with
  | '/' :: '*' :: inner =>
    match _g : afterBlock? inner with
    | none => (none, true)
    | some rest => codeOutside rest
  | '/' :: '/' :: _ => (none, false)
  | [] => (none, false)
  | _ => (some line, false)
termination_by line.length
decreasing_by
  have := length_afterBlock? _g
  have := length_trimStart line
  simp [_h] at this
  omega

/-- The code of a line, and whether a block comment is open after it; `open_` says that one is
before. -/
def slashCode (open_ : Bool) (line : List Char) : Option (List Char) × Bool :=
  if open_ then
    match afterBlock? line with
    | none => (none, true)
    | some rest => codeOutside rest
  else codeOutside line

/-- The code of a line of a language, and whether a block comment is open after it. -/
def codeOf (language : Language) (open_ : Bool) (line : List Char) : Option (List Char) × Bool :=
  if language.hasSlashComments then slashCode open_ line
  else if (trimStart line).head? == some '#' then (none, false)
  else (some line, false)

end Covenant.Guard
