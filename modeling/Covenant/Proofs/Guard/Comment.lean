import Covenant.Guard.Scan
import Mathlib.Data.List.Forall2
import Mathlib.Data.List.Induction
import Mathlib.Data.List.TakeWhile
/-!
# Code that is looked at

Comments are read here a second time, character by character: a comment may begin anywhere in a
line, and a block comment ends at its first end. The lines that are scanned are held against this
reading.

* `lex` says of each character of a line whether it stands outside of all comments, and whether a
  block comment is open after the line.
* `sees_slashCode`: from the same state, what is dropped from a line is blank or comment, and a line
  that is left out leads to the same state.
* `seesCode_iff_inStep`: all code of the next line is looked at, whatever the line is, just if the
  scan remembers a block comment exactly where one is open.
* `tidy_iff_seesCode`: in a file in which no block comment is left open on a line with code before
  it, no code is passed over; in any other file it may be.
-/

namespace Covenant.Guard

open Covenant.Text

/-! ## 1. Reading comments -/

/-- What is read in a line: for each character whether it stands outside of all comments, and
whether a block comment is open after the line. -/
structure Lexed where
  outside : List Bool
  open_ : Bool
deriving Repr, DecidableEq

/-- What is read in a line that has more characters in front. -/
def Lexed.after (marks : List Bool) (lexed : Lexed) : Lexed := ⟨marks ++ lexed.outside, lexed.open_⟩

@[simp] theorem Lexed.after_after (lexed : Lexed) (first second : List Bool) :
    (lexed.after second).after first = lexed.after (first ++ second) := by
  simp [Lexed.after]

/-- Reads a line; the first argument says that a block comment is open before it. -/
def lex : Bool → List Char → Lexed
  | open_, [] => ⟨[], open_⟩
  | true, '*' :: '/' :: rest => (lex false rest).after [false, false]
  | true, _ :: rest => (lex true rest).after [false]
  | false, '/' :: '/' :: rest => ⟨false :: false :: rest.map fun _ => false, false⟩
  | false, '/' :: '*' :: rest => (lex true rest).after [false, false]
  | false, _ :: rest => (lex false rest).after [true]

/-- Within a block comment a character is passed over, if the comment does not end with it. -/
theorem lex_within {c : Char} {rest : List Char}
    (open_ : ∀ more, c = '*' → rest = '/' :: more → False) :
    lex true (c :: rest) = (lex true rest).after [false] := by
  rw [lex]
  exact open_

/-- Outside of comments a character is code, if no comment begins with it. -/
theorem lex_outside {c : Char} {rest : List Char}
    (no_comment : ∀ more, c = '/' → rest = '/' :: more → False)
    (no_block : ∀ more, c = '/' → rest = '*' :: more → False) :
    lex false (c :: rest) = (lex false rest).after [true] := by
  rw [lex]
  · exact no_comment
  · exact no_block

/-- A block comment is open after some lines. -/
def openAfter (lines : List (List Char)) : Bool :=
  lines.foldl (fun open_ line => (lex open_ line).open_) false

/-! ## 2. What is dropped -/

/-- Nothing but blanks stands outside of all comments. -/
def NoCode (line : List Char) (marks : List Bool) : Prop :=
  List.Forall₂ (fun c mark => mark = true → isBlank c = true) line marks

theorem noCode_comment (line : List Char) : NoCode line (line.map fun _ => false) := by
  rw [NoCode, List.forall₂_map_right_iff, List.forall₂_same]
  exact fun _ _ outside => by cases outside

theorem noCode_blank {line : List Char} (h : ∀ c ∈ line, isBlank c = true) :
    NoCode line (line.map fun _ => true) := by
  rw [NoCode, List.forall₂_map_right_iff, List.forall₂_same]
  exact fun c hc _ => h c hc

theorem NoCode.append {first second : List Char} {marks more : List Bool}
    (h : NoCode first marks) (g : NoCode second more) : NoCode (first ++ second) (marks ++ more) :=
  List.rel_append h g

theorem lex_of_afterBlock?_eq_none {s : List Char} (h : afterBlock? s = none) :
    lex true s = ⟨s.map fun _ => false, true⟩ := by
  fun_induction afterBlock? s with
  | case1 => rfl
  | case2 rest => cases h
  | case3 c rest other ih =>
    rw [lex_within other, ih h]
    rfl

/-- A block comment is read up to its first end. -/
theorem lex_of_afterBlock?_eq_some {s rest : List Char} (h : afterBlock? s = some rest) :
    ∃ dropped, s = dropped ++ rest ∧
      lex true s = (lex false rest).after (dropped.map fun _ => false) := by
  fun_induction afterBlock? s with
  | case1 => cases h
  | case2 more =>
    obtain rfl := Option.some.inj h
    exact ⟨['*', '/'], rfl, rfl⟩
  | case3 c more other ih =>
    obtain ⟨dropped, rfl, same⟩ := ih h
    refine ⟨c :: dropped, rfl, ?_⟩
    rw [lex_within other, same]
    simp

theorem lex_blank {blanks : List Char} (h : ∀ c ∈ blanks, isBlank c = true) (rest : List Char) :
    lex false (blanks ++ rest) = (lex false rest).after (blanks.map fun _ => true) := by
  induction blanks with
  | nil => rfl
  | cons c blanks ih =>
    have solid : c ≠ '/' := by
      rintro rfl
      exact absurd (h '/' List.mem_cons_self) (by decide)
    have here : lex false (c :: (blanks ++ rest)) = (lex false (blanks ++ rest)).after [true] :=
      lex_outside (fun _ slash => absurd slash solid) fun _ slash => absurd slash solid
    rw [List.cons_append, here, ih fun other ho => h other (List.mem_cons_of_mem _ ho)]
    simp

/-- Where nothing but blanks is code, a character of code is blank. -/
theorem NoCode.isBlank {text : List Char} {marks : List Bool} (h : NoCode text marks) {i : Nat}
    {c : Char} (there : text[i]? = some c) (outside : marks[i]? = some true) :
    Text.isBlank c = true := by
  obtain ⟨inLine, rfl⟩ := List.getElem?_eq_some_iff.mp there
  obtain ⟨inMarks, marked⟩ := List.getElem?_eq_some_iff.mp outside
  exact h.get inLine inMarks marked

theorem noCode_append_iff {first second : List Char} {marks more : List Bool}
    (h : NoCode first marks) :
    NoCode (first ++ second) (marks ++ more) ↔ NoCode second more := by
  refine ⟨fun both => ?_, h.append⟩
  have dropped := List.forall₂_drop first.length both
  rwa [List.drop_left, h.length_eq, List.drop_left] at dropped

/-! ## 3. One line -/

/-- **What becomes of a line**: it is left out just if there is no code on it, and then the same is
remembered as is read; otherwise there is no code in what was dropped from it. -/
def Sees (open_ : Bool) (line : List Char) : Option (List Char) × Bool → Prop
  | (none, after) => NoCode line (lex open_ line).outside ∧ (lex open_ line).open_ = after
  | (some code, after) => ¬NoCode line (lex open_ line).outside ∧ after = false ∧
      ∃ dropped marks, line = dropped ++ code ∧ NoCode dropped marks ∧
        lex open_ line = (lex false code).after marks

/-- Dropping something without code from the start of a line. -/
theorem Sees.behind {open_ inner : Bool} {dropped rest : List Char} {marks : List Bool}
    {result : Option (List Char) × Bool} (h : Sees inner rest result) (idle : NoCode dropped marks)
    (split : lex open_ (dropped ++ rest) = (lex inner rest).after marks) :
    Sees open_ (dropped ++ rest) result := by
  obtain ⟨_ | code, after⟩ := result
  · simp only [Sees, split, Lexed.after, noCode_append_iff idle]
    exact h
  · obtain ⟨some_code, closed, more, others, rfl, idle_more, same⟩ := h
    refine ⟨?_, closed, dropped ++ more, marks ++ others, ?_, idle.append idle_more, ?_⟩
    · simp only [split, Lexed.after, noCode_append_iff idle]
      exact some_code
    · rw [List.append_assoc]
    · rw [split, same, Lexed.after_after]

theorem blank_of_mem_takeWhile (line : List Char) :
    ∀ c ∈ line.takeWhile isBlank, isBlank c = true := fun _ => List.mem_takeWhile_imp

theorem takeWhile_append_trimStart (line : List Char) :
    line.takeWhile isBlank ++ trimStart line = line := List.takeWhile_append_dropWhile

/-- Dropping the blanks at the start of a line. -/
theorem Sees.of_trimStart {line : List Char} {result : Option (List Char) × Bool}
    (h : Sees false (trimStart line) result) : Sees false line result := by
  have behind := h.behind (noCode_blank (blank_of_mem_takeWhile line))
    (lex_blank (blank_of_mem_takeWhile line) (trimStart line))
  rwa [takeWhile_append_trimStart] at behind

/-- Dropping a block comment up to its end, if it has one. -/
theorem Sees.of_afterBlock? {line : List Char} {result : Option (List Char) × Bool}
    (unended : afterBlock? line = none → result = (none, true))
    (ended : ∀ rest, afterBlock? line = some rest → Sees false rest result) :
    Sees true line result := by
  cases h : afterBlock? line with
  | none =>
    rw [unended h, Sees, lex_of_afterBlock?_eq_none h]
    exact ⟨noCode_comment line, rfl⟩
  | some rest =>
    obtain ⟨dropped, rfl, split⟩ := lex_of_afterBlock?_eq_some h
    exact (ended rest h).behind (noCode_comment dropped) split

/-- Dropping the start of a block comment. -/
theorem Sees.opened {inner : List Char} {result : Option (List Char) × Bool}
    (h : Sees true inner result) : Sees false ('/' :: '*' :: inner) result :=
  h.behind (noCode_comment ['/', '*']) rfl

/-- A line that begins with code after its blanks is looked at as a whole. -/
theorem sees_self {line rest : List Char} {c : Char} (start : trimStart line = c :: rest)
    (first : lex false (c :: rest) = (lex false rest).after [true]) :
    Sees false line (some line, false) := by
  have solid : isBlank c = false := by
    have head := List.head?_dropWhile_not isBlank line
    rw [show line.dropWhile isBlank = c :: rest from start] at head
    simpa using head
  refine ⟨fun idle => ?_, rfl, [], [], rfl, .nil, rfl⟩
  rw [← takeWhile_append_trimStart line, lex_blank (blank_of_mem_takeWhile line), Lexed.after,
    noCode_append_iff (noCode_blank (blank_of_mem_takeWhile line)), start, first] at idle
  obtain ⟨here, _⟩ := List.forall₂_cons.mp idle
  rw [here rfl] at solid
  cases solid

theorem sees_codeOutside (line : List Char) : Sees false line (codeOutside line) := by
  fun_induction codeOutside line with
  | case1 line inner start unended =>
    refine .of_trimStart ?_
    rw [start]
    exact .opened (.of_afterBlock? (fun _ => rfl) fun rest ended => by simp [unended] at ended)
  | case2 line inner start rest ended ih =>
    refine .of_trimStart ?_
    rw [start]
    refine .opened (.of_afterBlock? (fun unended => by simp [unended] at ended) ?_)
    intro other same
    obtain rfl := Option.some.inj (ended.symm.trans same)
    exact ih
  | case3 line rest start =>
    refine .of_trimStart ?_
    rw [start]
    exact ⟨noCode_comment ('/' :: '/' :: rest), rfl⟩
  | case4 line start =>
    refine .of_trimStart ?_
    rw [start]
    exact ⟨.nil, rfl⟩
  | case5 line no_block no_comment filled =>
    obtain ⟨c, rest, start⟩ := List.exists_cons_of_ne_nil filled
    refine sees_self start (lex_outside ?_ ?_)
    · rintro rest rfl rfl
      exact no_comment _ start
    · rintro rest rfl rfl
      exact no_block _ start

/-- **From the same state all code of a line is looked at.** -/
theorem sees_slashCode (open_ : Bool) (line : List Char) :
    Sees open_ line (slashCode open_ line) := by
  unfold slashCode
  cases open_ with
  | false => exact sees_codeOutside line
  | true =>
    refine .of_afterBlock? (fun unended => by simp [unended]) fun rest ended => ?_
    simpa [ended] using sees_codeOutside rest

/-- Where a line leaves what is remembered and what is read in step. -/
theorem Sees.open_eq_iff {open_ : Bool} {line : List Char} {result : Option (List Char) × Bool}
    (h : Sees open_ line result) :
    result.2 = (lex open_ line).open_ ↔
      ((lex open_ line).open_ = true → NoCode line (lex open_ line).outside) := by
  obtain ⟨_ | code, after⟩ := result
  · exact ⟨fun _ _ => h.1, fun _ => h.2.symm⟩
  · obtain ⟨some_code, rfl, _⟩ := h
    constructor
    · intro closed opened
      rw [← closed] at opened
      cases opened
    · intro idle
      by_contra opened
      exact some_code (idle (by simpa using opened))

/-- Code on a line stands in what is looked at. -/
theorem Sees.mem_code {open_ : Bool} {text : List Char} {result : Option (List Char) × Bool}
    (h : Sees open_ text result) {i : Nat} {c : Char} (there : text[i]? = some c)
    (solid : isBlank c = false) (outside : (lex open_ text).outside[i]? = some true) :
    ∃ code, result.1 = some code ∧ code <:+ text ∧ text.length ≤ i + code.length := by
  obtain ⟨_ | code, after⟩ := result
  · rw [h.1.isBlank there outside] at solid
    cases solid
  · obtain ⟨_, _, dropped, marks, rfl, idle, split⟩ := h
    refine ⟨code, rfl, List.suffix_append dropped code, ?_⟩
    by_contra early
    have front : i < dropped.length := by
      simp only [List.length_append] at early
      omega
    rw [List.getElem?_append_left front] at there
    rw [split, Lexed.after, List.getElem?_append_left (idle.length_eq ▸ front)] at outside
    rw [idle.isBlank there outside] at solid
    cases solid

/-- A line without code is left out. -/
theorem Sees.eq_none {open_ : Bool} {line : List Char} {result : Option (List Char) × Bool}
    (h : Sees open_ line result) (idle : NoCode line (lex open_ line).outside) :
    result.1 = none := by
  obtain ⟨_ | code, after⟩ := result
  · rfl
  · exact absurd idle h.1

/-! ## 4. Many lines -/

variable {language : Language}

/-- Whether a block comment is remembered after some lines. -/
def rememberedFrom (language : Language) (open_ : Bool) (lines : List (List Char)) : Bool :=
  lines.foldl (fun open_ line => (codeOf language open_ line).2) open_

/-- **Which lines are looked at, and what of them**: those of which code is left, when the lines
before them have been gone through. -/
theorem mem_codeLines_iff {open_ : Bool} {start number : Nat} {lines : List (List Char)}
    {line code : List Char} :
    (number, line, code) ∈ codeLines language open_ start lines ↔
      ∃ before after, lines = before ++ line :: after ∧ number = start + before.length ∧
        (codeOf language (rememberedFrom language open_ before) line).1 = some code := by
  induction lines generalizing open_ start with
  | nil => simp [codeLines]
  | cons first rest ih =>
    have split : (number, line, code) ∈ codeLines language open_ start (first :: rest) ↔
        (number = start ∧ line = first ∧ (codeOf language open_ first).1 = some code) ∨
          (number, line, code) ∈
            codeLines language (codeOf language open_ first).2 (start + 1) rest := by
      rw [codeLines]
      rcases codeOf language open_ first with ⟨_ | found, after⟩
      · simp
      · simp [eq_comm]
    rw [split, ih]
    constructor
    · rintro (⟨rfl, rfl, looked⟩ | ⟨before, after, rfl, rfl, looked⟩)
      · exact ⟨[], rest, rfl, rfl, looked⟩
      · refine ⟨first :: before, after, rfl, ?_, looked⟩
        simp only [List.length_cons]
        omega
    · rintro ⟨_ | ⟨other, before⟩, after, e, rfl, looked⟩
      · obtain ⟨rfl, rfl⟩ := List.cons.inj e
        exact .inl ⟨rfl, rfl, looked⟩
      · obtain ⟨rfl, rfl⟩ := List.cons.inj e
        refine .inr ⟨before, after, rfl, ?_, looked⟩
        simp only [List.length_cons]
        omega

/-- **All code on the line after some others is looked at**: every character that is no blank and
stands outside of all comments stands in what is held against the rules, whatever follows. -/
def SeesCode (language : Language) (before : List (List Char)) (text : List Char) : Prop :=
  ∀ (i : Nat) (c : Char), text[i]? = some c → isBlank c = false →
    (lex (openAfter before) text).outside[i]? = some true →
    ∃ code, code <:+ text ∧ text.length ≤ i + code.length ∧
      ∀ after,
        (before.length + 1, text, code) ∈ codeLines language false 1 (before ++ text :: after)

/-- After some lines a block comment is remembered just if one is open. -/
def InStep (language : Language) (before : List (List Char)) : Prop :=
  rememberedFrom language false before = openAfter before

/-- **In a file a block comment that is open after a line has no code before it on this line.** -/
def Tidy (lines : List (List Char)) : Prop :=
  ∀ before line, before ++ [line] <+: lines → openAfter (before ++ [line]) = true →
    NoCode line (lex (openAfter before) line).outside

/-- What a line that is looked at shows does not depend on what follows. -/
theorem looked_of_mem {before : List (List Char)} {line code : List Char}
    (h : (before.length + 1, line, code) ∈ codeLines language false 1 (before ++ [line])) :
    (codeOf language (rememberedFrom language false before) line).1 = some code := by
  obtain ⟨front, rest, split, count, looked⟩ := mem_codeLines_iff.mp h
  have same : before.length = front.length := by omega
  obtain ⟨rfl, _⟩ := List.append_inj split same
  exact looked

section SlashComments

variable (slash : language.hasSlashComments = true)
include slash

theorem sees_codeOf (open_ : Bool) (line : List Char) :
    Sees open_ line (codeOf language open_ line) := by
  rw [codeOf, if_pos slash]
  exact sees_slashCode open_ line

/-- Code that is no code to a scan in another state is passed over. -/
theorem not_seesCode {before : List (List Char)} {text : List Char} {i : Nat} {c : Char}
    (there : text[i]? = some c) (solid : isBlank c = false)
    (outside : (lex (openAfter before) text).outside[i]? = some true)
    (idle : NoCode text (lex (rememberedFrom language false before) text).outside) :
    ¬SeesCode language before text := by
  intro seen
  obtain ⟨code, _, _, looked⟩ := seen i c there solid outside
  have none := (sees_codeOf slash (rememberedFrom language false before) text).eq_none idle
  rw [looked_of_mem (looked [])] at none
  cases none

/-- **All code of the next line is looked at, whatever the line is, just if the scan is in
step.** -/
theorem seesCode_iff_inStep (before : List (List Char)) :
    (∀ line, SeesCode language before line) ↔ InStep language before := by
  constructor
  · intro seen
    unfold InStep
    cases remembers : rememberedFrom language false before with
    | false =>
      cases reads : openAfter before with
      | false => rfl
      | true =>
        -- a line that seems to be a comment and ends the one that is open
        have passed : ¬SeesCode language before "//*/x".toList := by
          refine not_seesCode slash (i := 4) (c := 'x') rfl rfl (by rw [reads]; decide) ?_
          rw [remembers]
          exact noCode_comment "//*/x".toList
        exact absurd (seen _) passed
    | true =>
      cases reads : openAfter before with
      | true => rfl
      | false =>
        have passed : ¬SeesCode language before ['x'] := by
          refine not_seesCode slash (i := 0) (c := 'x') rfl rfl (by rw [reads]; decide) ?_
          rw [remembers]
          exact noCode_comment ['x']
        exact absurd (seen _) passed
  · intro step line i c there solid outside
    rw [← show rememberedFrom language false before = openAfter before from step] at outside
    obtain ⟨code, looked, suffix, late⟩ :=
      (sees_codeOf slash (rememberedFrom language false before) line).mem_code there solid outside
    refine ⟨code, suffix, late, fun after => mem_codeLines_iff.mpr ?_⟩
    exact ⟨before, after, rfl, Nat.add_comm _ _, looked⟩

/-- How a line keeps the scan in step. -/
theorem inStep_concat_iff {before : List (List Char)} (step : InStep language before)
    (line : List Char) :
    InStep language (before ++ [line]) ↔ (openAfter (before ++ [line]) = true →
      NoCode line (lex (openAfter before) line).outside) := by
  have remembers : rememberedFrom language false (before ++ [line]) =
      (codeOf language (openAfter before) line).2 := by
    rw [← show rememberedFrom language false before = openAfter before from step]
    simp [rememberedFrom]
  have reads : openAfter (before ++ [line]) = (lex (openAfter before) line).open_ := by
    simp [openAfter]
  rw [InStep, remembers, reads]
  exact (sees_codeOf slash (openAfter before) line).open_eq_iff

/-- A scan is in step throughout a file just if the file is tidy. -/
theorem tidy_iff_inStep (lines : List (List Char)) :
    Tidy lines ↔ ∀ before, before <+: lines → InStep language before := by
  constructor
  · intro tidy before
    induction before using List.reverseRecOn with
    | nil => exact fun _ => rfl
    | append_singleton before line ih =>
      intro front
      have step := ih ((List.prefix_append before [line]).trans front)
      exact (inStep_concat_iff slash step line).mpr (tidy before line front)
  · intro step before line front
    have here := step before ((List.prefix_append before [line]).trans front)
    exact (inStep_concat_iff slash here line).mp (step _ front)

/-- Where no block comment is remembered, a line that begins with no comment is looked at as a
whole. -/
theorem seesCode_of_not_comment {before : List (List Char)} {line : List Char}
    (closed : rememberedFrom language false before = false)
    (no_comment : ∀ rest, trimStart line ≠ '/' :: '/' :: rest)
    (no_block : ∀ rest, trimStart line ≠ '/' :: '*' :: rest) : SeesCode language before line := by
  intro i c there solid _
  have filled : trimStart line ≠ [] := by
    intro empty
    have blank := List.dropWhile_eq_nil_iff.mp empty c (List.mem_of_getElem? there)
    rw [blank] at solid
    cases solid
  have whole : codeOutside line = (some line, false) := by
    fun_cases codeOutside line with
    | case1 inner start => exact absurd start (no_block inner)
    | case2 inner start => exact absurd start (no_block inner)
    | case3 rest start => exact absurd start (no_comment rest)
    | case4 start => exact absurd start filled
    | case5 => rfl
  refine ⟨line, List.suffix_refl line, Nat.le_add_left _ _, fun after => mem_codeLines_iff.mpr ?_⟩
  refine ⟨before, after, rfl, Nat.add_comm _ _, ?_⟩
  rw [closed, codeOf, if_pos slash]
  exact congrArg Prod.fst whole

/-- **When all code of a file is looked at.** In a tidy file no code is passed over, and neither is
any in a line that comes next, whatever it is; after some part of any other file there are such
lines. Even there nothing is passed over in a line that begins with no comment, so long as no block
comment is remembered. -/
theorem tidy_iff_seesCode (lines : List (List Char)) :
    (Tidy lines ↔ ∀ before, before <+: lines → ∀ line, SeesCode language before line) ∧
      ∀ before line, rememberedFrom language false before = false →
        (∀ rest, trimStart line ≠ '/' :: '/' :: rest) →
        (∀ rest, trimStart line ≠ '/' :: '*' :: rest) → SeesCode language before line := by
  refine ⟨?_, fun before line => seesCode_of_not_comment slash⟩
  rw [tidy_iff_inStep slash lines]
  exact forall₂_congr fun before _ => (seesCode_iff_inStep slash before).symm

end SlashComments

/-- A call after the end of a block comment is passed over, if the comment began after code and the
line with its end looks like a comment. -/
theorem call_passed_over : Language.typescript.hasSlashComments = true ∧
    ¬SeesCode .typescript ["let a = 1; /* begin".toList] "// end */ fetch(1)".toList := by
  have closed : rememberedFrom .typescript false ["let a = 1; /* begin".toList] = false := by
    decide +kernel
  refine ⟨rfl, not_seesCode rfl (i := 10) (c := 'f') rfl rfl (by decide +kernel) ?_⟩
  rw [closed]
  exact noCode_comment "// end */ fetch(1)".toList

/-- Code after the end of a block comment is looked at, if no code came before the comment. -/
theorem call_seen : Language.go.hasSlashComments = true ∧
    SeesCode .go ["/* begin".toList] " * end */ http.Get(x)".toList := by
  have tidy : Tidy ["/* begin".toList] := by
    intro before line front _
    obtain ⟨rfl, rfl⟩ : before = [] ∧ line = "/* begin".toList := by
      obtain ⟨rest, split⟩ := front
      cases before with
      | nil => exact ⟨rfl, (List.cons.inj split).1⟩
      | cons first more => simp at split
    exact noCode_comment "/* begin".toList
  exact ⟨rfl, (tidy_iff_seesCode rfl ["/* begin".toList]).1.mp tidy _ (List.prefix_refl _) _⟩

end Covenant.Guard
