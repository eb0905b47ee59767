import Covenant.Proofs.Text.Split
import Mathlib.Data.List.Infix
/-!
# Lines of a text, and what stands in one piece in it

* `lines_of_split`: the lines of a text are its pieces between line feeds without the carriage
  returns at their ends; a last piece counts if it is not empty.
* `lines_ended`: rows with a line feed after each of them have the lines that their pieces are.
* `contains_iff`: `contains` finds what stands in one piece in a text.
* `infix_append_cons_iff`: what does not hold a character stands on one side of it.
-/

namespace Covenant.Text

/-! ## 1. Lines -/

theorem lines_of_split {s last : List Char} {closed : List (List Char)}
    (split : splitAtChar '\n' s = closed ++ [last]) :
    lines s = closed.map dropReturn ++ if last.isEmpty then [] else [last] := by
  simp only [lines, split, List.reverse_append, List.reverse_singleton, List.singleton_append,
    List.reverse_reverse]
  split <;> simp

/-- Pieces with a line feed after each of them are lines, whatever follows. -/
theorem lines_of_split_append {s : List Char} {first rest : List (List Char)}
    (split : splitAtChar '\n' s = first ++ rest) (filled : rest ≠ []) :
    first.map dropReturn <+: lines s := by
  rw [← List.dropLast_append_getLast filled, ← List.append_assoc] at split
  rw [lines_of_split split, List.map_append, List.append_assoc]
  exact List.prefix_append _ _

/-- A line loses nothing but a carriage return. -/
theorem dropReturn_cases (line : List Char) :
    dropReturn line = line ∨ line = dropReturn line ++ ['\r'] := by
  unfold dropReturn
  split
  · rename_i rest ends
    exact .inr (by simpa using congrArg List.reverse ends)
  · exact .inl rfl

theorem dropReturn_eq_self {line : List Char} (h : '\r' ∉ line) : dropReturn line = line := by
  refine (dropReturn_cases line).resolve_right fun ends => h ?_
  rw [ends]
  simp

theorem dropReturn_eq_self_iff {line : List Char} :
    dropReturn line = line ↔ line.getLast? ≠ some '\r' := by
  constructor
  · intro same ends
    obtain ⟨rest, rfl⟩ := List.getLast?_eq_some_iff.mp ends
    have shorter := congrArg List.length same
    simp [dropReturn] at shorter
  · intro ends
    refine (dropReturn_cases line).resolve_right fun h => ends ?_
    rw [h, List.getLast?_concat]

/-- Rows with a character after each of them are cut there, and within themselves. -/
theorem splitAtChar_ended (ch : Char) (rows : List (List Char)) :
    splitAtChar ch (rows.flatMap (· ++ [ch])) = rows.flatMap (splitAtChar ch) ++ [[]] := by
  induction rows with
  | nil => rfl
  | cons row rest ih =>
    have joined : (row :: rest).flatMap (· ++ [ch]) = row ++ ch :: rest.flatMap (· ++ [ch]) := by
      rw [List.flatMap_cons, List.append_assoc, List.singleton_append]
    rw [joined, splitAtChar_append, ih, List.flatMap_cons, List.append_assoc]

/-- **Rows with a line feed after each of them.** -/
theorem lines_ended (rows : List (List Char)) :
    lines (rows.flatMap (· ++ ['\n'])) = (rows.flatMap (splitAtChar '\n')).map dropReturn := by
  rw [lines_of_split (splitAtChar_ended '\n' rows)]
  exact List.append_nil _

/-- There is one piece more than there are places at which a text is cut. -/
theorem length_splitAtChar (ch : Char) (s : List Char) :
    (splitAtChar ch s).length = s.count ch + 1 := by
  rw [splitAtChar, splitWhere_eq]
  induction s with
  | nil => rfl
  | cons c rest ih =>
    rw [List.splitOnP_cons_eq_if_modifyHead]
    by_cases cut : c = ch
    · rw [if_pos (by simpa using cut), List.length_cons, ih, cut, List.count_cons_self]
    · rw [if_neg (by simpa using cut), List.length_modifyHead, ih, List.count_cons_of_ne cut]

/-! ## 2. Parts of a text -/

theorem contains_iff {part s : List Char} : contains part s = true ↔ part <:+: s := by
  induction s with
  | nil => simp [contains]
  | cons c rest ih =>
    rw [contains, Bool.or_eq_true, ih, List.infix_cons_iff, List.isPrefixOf_iff_prefix]

/-- What does not hold a character and stands before it goes on no further. -/
theorem prefix_append_cons_iff {part s t : List Char} {c : Char} (h : c ∉ part) :
    part <+: s ++ c :: t ↔ part <+: s := by
  refine ⟨fun front => ?_, fun front => front.trans (List.prefix_append _ _)⟩
  refine List.prefix_of_prefix_length_le front (List.prefix_append _ _) ?_
  by_contra longer
  have inside : s ++ [c] <+: part := by
    refine List.prefix_of_prefix_length_le ?_ front (by simp; omega)
    exact (List.prefix_append_right_inj s).mpr ⟨t, rfl⟩
  exact h (inside.subset (by simp))

/-- **What does not hold a character stands on one side of it.** -/
theorem infix_append_cons_iff {part s t : List Char} {c : Char} (h : c ∉ part) :
    part <:+: s ++ c :: t ↔ part <:+: s ∨ part <:+: t := by
  induction s with
  | nil =>
    have front : part <+: c :: t ↔ part = [] := by
      have := prefix_append_cons_iff (s := []) (t := t) h
      simpa using this
    rw [List.nil_append, List.infix_cons_iff, front, List.infix_nil]
  | cons d rest ih =>
    have front := prefix_append_cons_iff (s := d :: rest) (t := t) h
    rw [List.cons_append] at front ⊢
    rw [List.infix_cons_iff, List.infix_cons_iff, ih, front, or_assoc]

/-- What does not end in a character does not reach to it at the end. -/
theorem infix_concat_iff {part s : List Char} {c : Char} (h : part.getLast? ≠ some c) :
    part <:+: s ++ [c] ↔ part <:+: s := by
  rw [List.infix_concat_iff, List.suffix_concat_iff, or_iff_right_iff_imp]
  rintro (rfl | ⟨front, rfl, _⟩)
  · exact List.nil_infix
  · simp at h

/-- What holds a character stands in no text without it. -/
theorem not_infix_of_mem {part s : List Char} {c : Char} (h : c ∈ part) (absent : c ∉ s) :
    ¬part <:+: s :=
  fun within => absent (within.subset h)

/-- A line without a carriage return at its end begins as before. -/
theorem prefix_dropReturn {part line : List Char} (h : '\r' ∉ part) (begins : part <+: line) :
    part <+: dropReturn line := by
  rcases dropReturn_cases line with same | ends
  · rwa [same]
  · rw [ends] at begins
    exact (prefix_append_cons_iff h).mp begins

/-- What does not hold a carriage return is not lost with one. -/
theorem infix_dropReturn_iff {part line : List Char} (h : '\r' ∉ part) :
    part <:+: dropReturn line ↔ part <:+: line := by
  rcases dropReturn_cases line with same | ends
  · rw [same]
  · conv_rhs => rw [ends, infix_concat_iff fun last => h (List.mem_of_getLast? last)]

end Covenant.Text
