import Covenant.Proofs.Guard.Comment
import Mathlib.Data.List.Infix
/-!
# What is dropped from a line

A scan drops comments from the start of a line, one in each pass, until it comes to code or to the
end of the line.

* `Passes`: the passes over a line and what they end with; `Passes.unique`: they end in one way at
  most. `exists_passes`: they end with the code of the line, and two characters go in each pass but
  the last.
* `Dropped`: what is left of an open block comment, and complete block comments with blanks before
  each of them.
* `Passes.reads` and `Reads.exists_passes`: what is dropped in some passes and what they stop at, and
  that every line which is read so is passed over so.
* `codeOf_drops`: in which form a line is of which code is left, and of which none is.
-/

namespace Covenant.Guard

open Covenant.Text

variable {line rest inner code front : List Char} {n : Nat} {open_ : Bool}
variable {result : Option (List Char) × Bool}

/-! ## 1. Passes over a line -/

/-- One pass outside of a block comment: what comes behind the start of another one, or the code of
the line. -/
def pass (line : List Char) : List Char ⊕ Option (List Char) :=
  match trimStart line with
  | '/' :: '*' :: inner => .inl inner
  | '/' :: '/' :: _ => .inr none
  | [] => .inr none
  | _ => .inr (some line)

/-- **The passes over what is left of a line**, their number, and the code and the state that they
end with. -/
inductive Passes : Bool → List Char → Nat → Option (List Char) × Bool → Prop
  | unended {line : List Char} : afterBlock? line = none → Passes true line 1 (none, true)
  | ended {line rest : List Char} {n : Nat} {result : Option (List Char) × Bool} :
      afterBlock? line = some rest → Passes false rest n result → Passes true line n result
  | opened {line inner : List Char} {n : Nat} {result : Option (List Char) × Bool} :
      pass line = .inl inner → Passes true inner n result → Passes false line (n + 1) result
  | last {line : List Char} {code : Option (List Char)} :
      pass line = .inr code → Passes false line 1 (code, false)

/-- Passes end in one way at most. -/
theorem Passes.unique {m : Nat} {other : Option (List Char) × Bool}
    (h : Passes open_ line n result) (g : Passes open_ line m other) : m = n ∧ other = result := by
  induction h generalizing m with
  | unended none_left =>
    cases g with
    | unended _ => exact ⟨rfl, rfl⟩
    | ended left _ => simp [none_left] at left
  | ended left _ ih =>
    cases g with
    | unended none_left => simp [none_left] at left
    | ended also later =>
      obtain rfl := Option.some.inj (left.symm.trans also)
      exact ih later
  | opened start _ ih =>
    cases g with
    | opened also later =>
      obtain rfl := Sum.inl.inj (start.symm.trans also)
      obtain ⟨rfl, rfl⟩ := ih later
      exact ⟨rfl, rfl⟩
    | last stop => simp [start] at stop
  | last stop =>
    cases g with
    | opened start _ => simp [stop] at start
    | last also =>
      obtain rfl := Sum.inr.inj (stop.symm.trans also)
      exact ⟨rfl, rfl⟩

/-- **The passes come to an end**, for two characters at least go in each but the last. -/
theorem exists_passes_outside (line : List Char) :
    ∃ n, 2 * n ≤ line.length + 2 ∧ Passes false line n (codeOutside line) := by
  have shorter : ∀ {line inner}, trimStart line = '/' :: '*' :: inner →
      inner.length + 2 ≤ line.length := by
    intro line inner start
    have fewer := length_trimStart line
    rwa [start] at fewer
  fun_induction codeOutside line with
  | case1 line inner start unended =>
    have fewer := shorter start
    exact ⟨2, by omega, .opened (by simp [pass, start]) (.unended unended)⟩
  | case2 line inner start rest ended ih =>
    obtain ⟨n, few, later⟩ := ih
    have fewer := shorter start
    have behind := length_afterBlock? ended
    exact ⟨n + 1, by omega, .opened (by simp [pass, start]) (.ended ended later)⟩
  | case3 line rest start => exact ⟨1, by omega, .last (by simp [pass, start])⟩
  | case4 line start => exact ⟨1, by omega, .last (by simp [pass, start])⟩
  | case5 line no_block no_comment filled =>
    refine ⟨1, by omega, .last ?_⟩
    unfold pass
    split <;> simp_all

theorem exists_passes (open_ : Bool) (line : List Char) :
    ∃ n, 2 * n ≤ line.length + 2 ∧ Passes open_ line n (slashCode open_ line) := by
  unfold slashCode
  cases open_ with
  | false => exact exists_passes_outside line
  | true =>
    cases left : afterBlock? line with
    | none => exact ⟨1, by omega, by simpa [left] using Passes.unended left⟩
    | some rest =>
      obtain ⟨n, few, later⟩ := exists_passes_outside rest
      have behind := length_afterBlock? left
      exact ⟨n, by omega, by simpa [left] using Passes.ended left later⟩

/-! ## 2. What a pass sees -/

/-- What remains of an open block comment: a text up to the first end of one. -/
def EndsBlock (text : List Char) : Prop :=
  ∃ inner, text = inner ++ ['*', '/'] ∧ ¬['*', '/'] <:+: inner

theorem afterBlock?_eq_none_iff : afterBlock? line = none ↔ ¬['*', '/'] <:+: line := by
  fun_induction afterBlock? line with
  | case1 => simp
  | case2 rest => simp [List.infix_cons_iff, List.cons_prefix_cons]
  | case3 c rest other ih =>
    have front : ¬['*', '/'] <+: c :: rest := by
      rintro ⟨more, same⟩
      obtain ⟨rfl, rfl⟩ := List.cons.inj same
      exact other more rfl rfl
    rw [ih, List.infix_cons_iff, not_or, and_iff_right front]

theorem exists_endsBlock (h : afterBlock? line = some rest) :
    ∃ ended, EndsBlock ended ∧ line = ended ++ rest := by
  fun_induction afterBlock? line with
  | case1 => cases h
  | case2 more =>
    obtain rfl := Option.some.inj h
    exact ⟨['*', '/'], ⟨[], rfl, by simp⟩, rfl⟩
  | case3 c more other ih =>
    obtain ⟨ended, ⟨inner, rfl, none⟩, rfl⟩ := ih h
    refine ⟨c :: (inner ++ ['*', '/']), ⟨c :: inner, rfl, ?_⟩, rfl⟩
    rw [List.infix_cons_iff, not_or]
    refine ⟨?_, none⟩
    rintro ⟨tail, same⟩
    obtain ⟨rfl, rfl⟩ := List.cons.inj same
    exact other _ rfl rfl

theorem afterBlock?_append {ended : List Char} (h : EndsBlock ended) (rest : List Char) :
    afterBlock? (ended ++ rest) = some rest := by
  obtain ⟨inner, rfl, none⟩ := h
  induction inner with
  | nil => rfl
  | cons c inner ih =>
    rw [List.infix_cons_iff, not_or] at none
    have step : afterBlock? (c :: (inner ++ ['*', '/'] ++ rest)) =
        afterBlock? (inner ++ ['*', '/'] ++ rest) := by
      rw [afterBlock?]
      -- a star at the end of `inner` stands before the star of the end, not before a slash
      rintro more rfl same
      cases inner with
      | nil => simp at same
      | cons d inner =>
        obtain ⟨rfl, -⟩ := List.cons.inj same
        exact none.1 ⟨inner, rfl⟩
    exact step.trans (ih none.2)

/-- Code: it is not blank, and no comment begins before what else is in it. -/
structure BeginsCode (code : List Char) : Prop where
  filled : allBlank code = false
  no_block : ¬['/', '*'] <+: trimStart code
  no_comment : ¬['/', '/'] <+: trimStart code

theorem trimStart_eq_nil_iff : trimStart line = [] ↔ allBlank line = true := by
  rw [trimStart, List.dropWhile_eq_nil_iff, allBlank, List.all_eq_true]

theorem pass_eq_inl_iff : pass line = .inl inner ↔ trimStart line = '/' :: '*' :: inner := by
  unfold pass
  split <;> simp_all

theorem pass_eq_none_iff :
    pass line = .inr none ↔ allBlank line = true ∨ ['/', '/'] <+: trimStart line := by
  rw [← trimStart_eq_nil_iff]
  unfold pass
  split
  · rename_i inner start
    simp [start, List.cons_prefix_cons]
  · rename_i rest start
    simp [start, List.cons_prefix_cons]
  · rename_i start
    simp [start]
  · rename_i no_block no_comment filled
    simp only [reduceCtorEq, Sum.inr.injEq, false_iff, not_or]
    refine ⟨filled, ?_⟩
    rintro ⟨rest, start⟩
    exact no_comment rest start.symm

theorem pass_eq_some_iff : pass line = .inr (some code) ↔ code = line ∧ BeginsCode line := by
  have filled_iff : allBlank line = false ↔ trimStart line ≠ [] := by
    rw [ne_eq, trimStart_eq_nil_iff, Bool.not_eq_true]
  have begins : BeginsCode line ↔ trimStart line ≠ [] ∧ ¬['/', '*'] <+: trimStart line ∧
      ¬['/', '/'] <+: trimStart line :=
    ⟨fun h => ⟨filled_iff.mp h.filled, h.no_block, h.no_comment⟩,
      fun h => ⟨filled_iff.mpr h.1, h.2.1, h.2.2⟩⟩
  rw [begins]
  unfold pass
  split
  · rename_i inner start
    simp [start, List.cons_prefix_cons]
  · rename_i rest start
    simp [start, List.cons_prefix_cons]
  · rename_i start
    simp [start]
  · rename_i no_block no_comment filled
    have starts : ¬['/', '*'] <+: trimStart line ∧ ¬['/', '/'] <+: trimStart line :=
      ⟨fun ⟨rest, start⟩ => no_block rest start.symm, fun ⟨rest, start⟩ => no_comment rest start.symm⟩
    constructor
    · intro same
      exact ⟨(Option.some.inj (Sum.inr.inj same)).symm, filled, starts⟩
    · rintro ⟨rfl, -⟩
      rfl

/-! ## 3. What is dropped -/

/-- Complete block comments, with blanks before each of them. -/
inductive Comments : List Char → Prop
  | none : Comments []
  | block {blanks ended comments : List Char} : (∀ c ∈ blanks, isBlank c = true) →
      EndsBlock ended → Comments comments → Comments (blanks ++ '/' :: '*' :: (ended ++ comments))

/-- **What is dropped from the start of a line**: what remains of the block comment, if one is open,
and complete block comments. -/
def Dropped (open_ : Bool) (front : List Char) : Prop :=
  if open_ then ∃ ended comments, EndsBlock ended ∧ Comments comments ∧ front = ended ++ comments
  else Comments front

/-- A block comment that is left unended. -/
def LeavesOpen (rest : List Char) : Prop :=
  ∃ inner, trimStart rest = '/' :: '*' :: inner ∧ ¬['*', '/'] <:+: inner

/-- What the passes stop at, and what they end with there. -/
inductive StopsAt (rest : List Char) : Option (List Char) × Bool → Prop
  | code : BeginsCode rest → StopsAt rest (some rest, false)
  | idle : allBlank rest = true ∨ ['/', '/'] <+: trimStart rest → StopsAt rest (none, false)
  | unended : LeavesOpen rest → StopsAt rest (none, true)

/-- **How a line is read**: it stands in the open block comment as a whole, or something is dropped
from it and the passes stop at the rest. -/
def Reads (open_ : Bool) (line : List Char) (result : Option (List Char) × Bool) : Prop :=
  (open_ = true ∧ ¬['*', '/'] <:+: line ∧ result = (none, true)) ∨
    ∃ front rest, Dropped open_ front ∧ line = front ++ rest ∧ StopsAt rest result

theorem StopsAt.reads (h : StopsAt line result) : Reads false line result :=
  .inr ⟨[], line, .none, rfl, h⟩

/-- **A line is read as it is passed over.** -/
theorem Passes.reads (h : Passes open_ line n result) : Reads open_ line result := by
  -- over the passes: what one pass drops stands before all that later ones drop
  induction h with
  | unended left => exact .inl ⟨rfl, afterBlock?_eq_none_iff.mp left, rfl⟩
  | ended left _ ih =>
    obtain ⟨ended, ends, rfl⟩ := exists_endsBlock left
    obtain ⟨within, -⟩ | ⟨front, rest, comments, rfl, stops⟩ := ih
    · cases within
    · exact .inr ⟨ended ++ front, rest, ⟨ended, front, ends, comments, rfl⟩,
        (List.append_assoc ..).symm, stops⟩
  | @opened line inner _ _ start _ ih =>
    have begin := pass_eq_inl_iff.mp start
    obtain ⟨-, unended, rfl⟩ | ⟨_, rest, ⟨ended, comments, ends, more, rfl⟩, rfl, stops⟩ := ih
    · exact (StopsAt.unended ⟨inner, begin, unended⟩).reads
    · have whole := (takeWhile_append_trimStart line).symm
      rw [begin] at whole
      refine .inr ⟨_, rest, .block (blank_of_mem_takeWhile line) ends more, ?_, stops⟩
      rw [List.append_assoc]
      exact whole
  | @last line code stop =>
    cases code with
    | none => exact (StopsAt.idle (pass_eq_none_iff.mp stop)).reads
    | some code =>
      obtain ⟨rfl, begins⟩ := pass_eq_some_iff.mp stop
      exact (StopsAt.code begins).reads

theorem StopsAt.exists_passes (h : StopsAt rest result) : ∃ n, Passes false rest n result := by
  cases h with
  | code begins => exact ⟨1, .last (pass_eq_some_iff.mpr ⟨rfl, begins⟩)⟩
  | idle ends => exact ⟨1, .last (pass_eq_none_iff.mpr ends)⟩
  | unended leaves =>
    obtain ⟨inner, start, unended⟩ := leaves
    exact ⟨2, .opened (pass_eq_inl_iff.mpr start) (.unended (afterBlock?_eq_none_iff.mpr unended))⟩

/-- Comments are passed over, whatever comes behind them. -/
theorem Comments.exists_passes (h : Comments front) (later : ∃ n, Passes false rest n result) :
    ∃ n, Passes false (front ++ rest) n result := by
  induction h with
  | none => exact later
  | @block blanks ended comments blank ends _ ih =>
    obtain ⟨n, passes⟩ := ih
    have start : pass (blanks ++ '/' :: '*' :: (ended ++ comments) ++ rest) =
        .inl (ended ++ (comments ++ rest)) := by
      rw [pass_eq_inl_iff, trimStart, List.append_assoc, List.dropWhile_append_of_pos blank]
      simp [show isBlank '/' = false from rfl]
    exact ⟨n + 1, .opened start (.ended (afterBlock?_append ends _) passes)⟩

/-- **A line that is read so is passed over so.** -/
theorem Reads.exists_passes (h : Reads open_ line result) : ∃ n, Passes open_ line n result := by
  obtain ⟨rfl, unended, rfl⟩ | ⟨front, rest, dropped, rfl, stops⟩ := h
  · exact ⟨1, .unended (afterBlock?_eq_none_iff.mpr unended)⟩
  · cases open_ with
    | false => exact Comments.exists_passes dropped stops.exists_passes
    | true =>
      obtain ⟨ended, comments, ends, more, rfl⟩ := dropped
      obtain ⟨n, passes⟩ := more.exists_passes stops.exists_passes
      rw [List.append_assoc]
      exact ⟨n, .ended (afterBlock?_append ends _) passes⟩

theorem slashCode_eq_iff : slashCode open_ line = result ↔ Reads open_ line result := by
  obtain ⟨n, -, passes⟩ := Guard.exists_passes open_ line
  constructor
  · rintro rfl
    exact passes.reads
  · intro reads
    obtain ⟨m, others⟩ := reads.exists_passes
    exact (others.unique passes).2

/-- **What a scan drops from a line**, whether a block comment is open before it or not. The passes
over the line come to an end, in one way. Code is left just if the line is code behind what is
dropped, and then no block comment is open. None is left just if the line stands in the open block
comment as a whole, or has nothing behind what is dropped but blanks, a line comment, or a block
comment without an end; in the first and in the last of these cases a block comment is open after
it. -/
theorem codeOf_drops {language : Language} (slash : language.hasSlashComments = true) (open_ : Bool)
    (line : List Char) :
    (∃ passes, 2 * passes ≤ line.length + 2 ∧ ∀ n result, Passes open_ line n result ↔
        n = passes ∧ result = codeOf language open_ line) ∧
      (∀ code after, codeOf language open_ line = (some code, after) ↔
        after = false ∧ BeginsCode code ∧ ∃ front, Dropped open_ front ∧ line = front ++ code) ∧
      ∀ after, codeOf language open_ line = (none, after) ↔
        (open_ = true ∧ ¬['*', '/'] <:+: line ∧ after = true) ∨
          ∃ front rest, Dropped open_ front ∧ line = front ++ rest ∧
            (((allBlank rest = true ∨ ['/', '/'] <+: trimStart rest) ∧ after = false) ∨
              LeavesOpen rest ∧ after = true) := by
  rw [codeOf, if_pos slash]
  refine ⟨?_, fun code after => ?_, fun after => ?_⟩
  · obtain ⟨passes, few, ends⟩ := exists_passes open_ line
    refine ⟨passes, few, fun n result => ⟨ends.unique, ?_⟩⟩
    rintro ⟨rfl, rfl⟩
    exact ends
  · rw [slashCode_eq_iff]
    constructor
    · rintro (⟨-, -, same⟩ | ⟨front, rest, dropped, rfl, stops⟩)
      · cases same
      · cases stops with
        | code begins => exact ⟨rfl, begins, front, dropped, rfl⟩
    · rintro ⟨rfl, begins, front, dropped, rfl⟩
      exact .inr ⟨front, code, dropped, rfl, .code begins⟩
  · rw [slashCode_eq_iff]
    constructor
    · rintro (⟨opened, unended, same⟩ | ⟨front, rest, dropped, rfl, stops⟩)
      · exact .inl ⟨opened, unended, congrArg Prod.snd same⟩
      · refine .inr ⟨front, rest, dropped, rfl, ?_⟩
        cases stops with
        | idle ends => exact .inl ⟨ends, rfl⟩
        | unended leaves => exact .inr ⟨leaves, rfl⟩
    · rintro (⟨opened, unended, rfl⟩ | ⟨front, rest, dropped, rfl, ⟨ends, rfl⟩ | ⟨leaves, rfl⟩⟩)
      · exact .inl ⟨opened, unended, rfl⟩
      · exact .inr ⟨front, rest, dropped, rfl, .idle ends⟩
      · exact .inr ⟨front, rest, dropped, rfl, .unended leaves⟩

/-- A call behind two comments, of which the first was open before the line. -/
theorem call_left_of_line : Language.go.hasSlashComments = true ∧
    codeOf .go true "a */ /* b */ f(x) // c".toList = (some " f(x) // c".toList, false) ∧
      BeginsCode " f(x) // c".toList ∧
      ∃ front, Dropped true front ∧
        "a */ /* b */ f(x) // c".toList = front ++ " f(x) // c".toList := by
  have left : codeOf .go true "a */ /* b */ f(x) // c".toList =
      (some " f(x) // c".toList, false) := by
    decide +kernel
  obtain ⟨-, some_left, -⟩ := @codeOf_drops .go rfl true "a */ /* b */ f(x) // c".toList
  exact ⟨rfl, left, ((some_left _ _).mp left).2⟩

end Covenant.Guard
