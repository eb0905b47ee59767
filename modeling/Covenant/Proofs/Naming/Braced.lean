import Covenant.Proofs.Naming.Inline
import Covenant.Proofs.Text.Braces
/-!
# Inlined names in braces

A text is inlined with the names in braces in it.

* `filter_inline`: inlining loses blanks, double quotes and backslashes and adds spaces; all else
  stays in its order.
* `braces_inline`: inlining leaves the braces of a text as they are, and so what is flat stays flat.
* `exists_inline_braced`: a name in braces is inlined to one in braces, though to another where the
  name is not inline itself.
-/

namespace Covenant.Naming

open Covenant.Text

variable {s name : List Char} {c : Char}

/-! ## 1. Fields on one line -/

/-- The fields of a text with single spaces between them. -/
abbrev oneLine (s : List Char) : List Char := joinWith [' '] (fields s)

theorem oneLine_cons_blank (blank : isBlank c = true) (s : List Char) :
    oneLine (c :: s) = oneLine s := by
  simp [oneLine, fields, splitWhere_eq, List.splitOnP_cons_eq_if_modifyHead, blank]

/-- What is not blank stays in front, with the space behind it if there was a blank. -/
theorem exists_oneLine_cons (visible : isBlank c = false) (s : List Char) :
    ∃ gap, (gap = [] ∨ gap = [' ']) ∧ oneLine (c :: s) = c :: (gap ++ oneLine s) := by
  obtain ⟨head, tail, split⟩ := exists_splitWhere isBlank s
  have longer : fields (c :: s) = (c :: head) :: tail.filter fun piece => !piece.isEmpty := by
    simp [fields, splitWhere_cons split, visible]
  have shorter : fields s = (head :: tail).filter fun piece => !piece.isEmpty := by
    rw [fields, split]
  rw [oneLine, oneLine, longer, shorter]
  generalize others : tail.filter (fun piece => !piece.isEmpty) = rest
  cases head with
  | nil =>
    cases rest with
    | nil => exact ⟨[], .inl rfl, by simp [others, joinWith]⟩
    | cons second more => exact ⟨[' '], .inr rfl, by simp [others, joinWith]⟩
  | cons d head =>
    refine ⟨[], .inl rfl, ?_⟩
    cases rest <;> simp [others, joinWith]

/-- What is not blank stays at the end. -/
theorem exists_oneLine_concat (visible : isBlank c = false) (s : List Char) :
    ∃ front, oneLine (s ++ [c]) = front ++ [c] := by
  induction s with
  | nil =>
    refine ⟨[], ?_⟩
    simp [oneLine, fields, splitWhere_eq, List.splitOnP_cons_eq_if_modifyHead, visible, joinWith]
  | cons d rest ih =>
    obtain ⟨front, same⟩ := ih
    by_cases blank : isBlank d = true
    · exact ⟨front, (oneLine_cons_blank blank _).trans same⟩
    · obtain ⟨gap, -, longer⟩ := exists_oneLine_cons (Bool.eq_false_iff.mpr blank) (rest ++ [c])
      refine ⟨d :: (gap ++ front), ?_⟩
      rw [List.cons_append, longer, same]
      simp

/-- **What is not blank is neither lost nor moved** where a text is put on one line. -/
theorem filter_oneLine {p : Char → Bool} (skips : ∀ c, isBlank c = true → p c = false)
    (s : List Char) : (oneLine s).filter p = s.filter p := by
  induction s with
  | nil => rfl
  | cons c rest ih =>
    by_cases blank : isBlank c = true
    · have other : ¬p c = true := Bool.eq_false_iff.mp (skips c blank)
      rw [oneLine_cons_blank blank, ih, List.filter_cons_of_neg other]
    · obtain ⟨gap, space, longer⟩ := exists_oneLine_cons (Bool.eq_false_iff.mpr blank) rest
      have none : gap.filter p = [] := by
        rcases space with rfl | rfl
        · rfl
        · exact List.filter_cons_of_neg (Bool.eq_false_iff.mp (skips ' ' rfl))
      rw [longer, List.filter_cons, List.filter_cons, List.filter_append, none, ih, List.nil_append]

/-- Opening the ends of comments adds nothing but spaces. -/
theorem filter_openEnds {p : Char → Bool} (skips : p ' ' = false) (s : List Char) :
    (openEnds s).filter p = s.filter p := by
  induction s using openEnds_induct with
  | nil => rfl
  | ends rest ih => simp only [List.filter_cons, skips, ih, Bool.false_eq_true, if_false]
  | other c rest _ ih => rw [List.filter_cons, List.filter_cons, ih]

/-- **Inlining takes away blanks and what would end a literal**, and moves nothing else. -/
theorem filter_inline {p : Char → Bool} (skips : ∀ c, isBlank c = true → p c = false)
    (s : List Char) : (inline s).filter p = s.filter fun c => p c && !endsLiteral c :=
  calc (inline s).filter p
      = ((oneLine s).filter fun c => !endsLiteral c).filter p := filter_openEnds (skips ' ' rfl) _
    _ = (oneLine s).filter fun c => p c && !endsLiteral c := List.filter_filter
    _ = s.filter fun c => p c && !endsLiteral c :=
        filter_oneLine (fun c blank => by rw [skips c blank, Bool.false_and]) s

/-! ## 2. Braces -/

theorem isBlank_of_isBrace (h : isBrace c = true) : isBlank c = false := by
  rcases Bool.or_eq_true_iff.mp h with e | e <;> rw [eq_of_beq e] <;> rfl

theorem endsLiteral_of_isBrace (h : isBrace c = true) : endsLiteral c = false := by
  rcases Bool.or_eq_true_iff.mp h with e | e <;> rw [eq_of_beq e] <;> rfl

/-- **Inlining leaves the braces as they are.** -/
theorem braces_inline (s : List Char) : braces (inline s) = braces s := by
  have skips : ∀ c, isBlank c = true → isBrace c = false := by
    intro c blank
    rw [Bool.eq_false_iff]
    intro brace
    rw [isBlank_of_isBrace brace] at blank
    cases blank
  refine (filter_inline skips s).trans (List.filter_congr fun c _ => ?_)
  cases brace : isBrace c with
  | false => rfl
  | true => simp [endsLiteral_of_isBrace brace]

theorem flat_inline_iff : Flat (inline s) ↔ Flat s := by
  rw [Flat, braces_inline, Flat]

theorem openEnds_concat (other : c ≠ '/') (s : List Char) :
    openEnds (s ++ [c]) = openEnds s ++ [c] := by
  induction s using openEnds_induct with
  | nil => simp [openEnds, replace, replaceFrom]
  | ends rest ih => rw [List.cons_append, List.cons_append, openEnds_end, ih]; rfl
  | other d rest h ih =>
    have later : ¬['*', '/'] <+: d :: (rest ++ [c]) := fun front => by
      rcases List.prefix_concat_iff.mp (List.cons_append ▸ front) with whole | shorter
      · have ends : ['*'] ++ ['/'] = (d :: rest) ++ [c] := whole
        exact other (List.singleton_inj.mp (List.append_inj' ends rfl).2).symm
      · exact h shorter
    rw [List.cons_append, openEnds_cons later, ih, List.cons_append]

theorem openEnds_braced (s : List Char) : openEnds (braced s) = braced (openEnds s) := by
  have opens : ¬['*', '/'] <+: braced s := by simp [braced, List.cons_prefix_cons]
  rw [braced, openEnds_cons opens, openEnds_concat (by decide), braced]

/-- **A name in braces is inlined to a name in braces.** -/
theorem exists_inline_braced (plain : NoBrace name) :
    ∃ inner, NoBrace inner ∧ inline (braced name) = braced inner := by
  obtain ⟨gap, -, opened⟩ := exists_oneLine_cons (c := '\x7b') rfl (name ++ ['\x7d'])
  obtain ⟨front, closed⟩ := exists_oneLine_concat (c := '\x7d') rfl name
  have line : oneLine (braced name) = braced (gap ++ front) := by
    rw [braced, opened, closed, braced, List.append_assoc]
  have kept : ∀ text, (braced text).filter (fun c => !endsLiteral c) =
      braced (text.filter fun c => !endsLiteral c) := fun text => by simp [braced, endsLiteral]
  have inlined : inline (braced name) =
      braced (openEnds ((gap ++ front).filter fun c => !endsLiteral c)) := by
    rw [← openEnds_braced, ← kept, ← line]
    rfl
  refine ⟨_, ?_, inlined⟩
  have same := congrArg braces inlined
  rw [braces_inline, plain.braces_braced, braces_braced] at same
  rw [← braces_eq_nil_iff]
  simpa using same

end Covenant.Naming
