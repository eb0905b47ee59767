import Covenant.Proofs.Text.Split
import Mathlib.Data.List.Chain
import Mathlib.Data.List.DropRight
import Mathlib.Data.List.TakeWhile
/-!
# Trimmed and collapsed texts

A text is collapsed if it has no blank at an end and no two blanks side by side.

* `trim_trim`: a trimmed text stays as it is when it is trimmed again.
* `mem_trim`: only blanks are lost.
* `exists_trim`: a text is what is left of it after trimming, with blanks around it.
* `collapsed_iff`: a text is collapsed just if it is empty or no piece between its blanks is.
* `collapsed_joinWith_iff`: pieces with single spaces between them are, just if none is empty or there
  is none beside it.
* `joinWith_fields`: a collapsed text with no blanks but spaces is the row of its fields.
-/

namespace Covenant.Text

/-! ## 1. Trimmed texts -/

/-- What is dropped from the end of a text does not stand there any more. -/
theorem not_of_mem_getLast?_rdropWhile (p : Char → Bool) (s : List Char) :
    ∀ c ∈ (s.rdropWhile p).getLast?, p c = false := by
  intro c hc
  obtain ⟨filled, rfl⟩ := List.mem_getLast?_eq_getLast hc
  exact Bool.eq_false_iff.mpr (List.rdropWhile_last_not p s filled)

theorem trimEnd_eq (s : List Char) : trimEnd s = s.rdropWhile isBlank := rfl

/-- A text that begins with no blank begins with none after its end is trimmed. -/
theorem trimStart_trimEnd {s : List Char} (h : trimStart s = s) :
    trimStart (trimEnd s) = trimEnd s := by
  rw [trimStart, List.dropWhile_eq_self_iff] at h ⊢
  intro filled blank
  have first := List.IsPrefix.getElem (List.rdropWhile_prefix isBlank s) filled
  exact h (Nat.lt_of_lt_of_le filled (List.rdropWhile_prefix isBlank s).length_le)
    (by rw [← first]; exact blank)

theorem trim_trim (s : List Char) : trim (trim s) = trim s := by
  have start : trimStart (trim s) = trim s :=
    trimStart_trimEnd (List.dropWhile_idempotent isBlank s)
  rw [trim, start]
  simp only [trim, trimEnd_eq, List.rdropWhile_idempotent]

theorem trimString_trimString (s : String) : trimString (trimString s) = trimString s := by
  simp only [trimString, String.toList_ofList, trim_trim]

/-- A character that is no blank is not trimmed away. -/
theorem mem_trim {s : List Char} {c : Char} (h : c ∈ s) (solid : isBlank c = false) :
    c ∈ trim s := by
  have dropped : ∀ {t : List Char}, c ∈ t → c ∈ t.dropWhile isBlank := by
    intro t ht
    rw [← List.takeWhile_append_dropWhile (p := isBlank) (l := t)] at ht
    rcases List.mem_append.mp ht with front | rest
    · rw [List.mem_takeWhile_imp front] at solid
      cases solid
    · exact rest
  simp only [trim, trimStart, trimEnd, List.mem_reverse]
  exact dropped (List.mem_reverse.mpr (dropped h))

/-- **A text is what is left of it after trimming, with blanks around it.** -/
theorem exists_trim (s : List Char) : ∃ front back, s = front ++ trim s ++ back ∧
    (∀ c ∈ front, isBlank c = true) ∧ ∀ c ∈ back, isBlank c = true := by
  have start : s.takeWhile isBlank ++ trimStart s = s := List.takeWhile_append_dropWhile
  have ending : trim s ++ (trimStart s).rtakeWhile isBlank = trimStart s :=
    List.rdropWhile_append_rtakeWhile
  refine ⟨s.takeWhile isBlank, (trimStart s).rtakeWhile isBlank, ?_,
    fun c => List.mem_takeWhile_imp, fun c => List.mem_rtakeWhile_imp⟩
  rw [List.append_assoc, ending, start]

theorem trim_eq_nil_iff {s : List Char} : trim s = [] ↔ allBlank s = true := by
  rw [allBlank, List.all_eq_true]
  constructor
  · intro none c hc
    by_contra solid
    have left : c ∈ trim s := mem_trim hc (Bool.eq_false_iff.mpr solid)
    rw [none] at left
    cases left
  · intro blank
    rw [trim, trimStart, List.dropWhile_eq_nil_iff.mpr blank]
    rfl

/-- A trimmed text ends in a visible character. -/
theorem visible_getLast?_trim (s : List Char) : ∀ c ∈ (trim s).getLast?, isBlank c = false :=
  not_of_mem_getLast?_rdropWhile isBlank (trimStart s)

/-! ## 2. Collapsed texts -/

variable {s : List Char} {pieces : List (List Char)}

/-- A text with no blank at an end and no two blanks side by side. -/
structure Collapsed (text : List Char) : Prop where
  first : ∀ c ∈ text.head?, isBlank c = false
  last : ∀ c ∈ text.getLast?, isBlank c = false
  apart : text.IsChain fun c d => isBlank c = true → isBlank d = false

/-- Where the pieces of a text are empty: the first one where the text begins with a blank, and one
behind it where the text ends in a blank or has two of them side by side. -/
theorem exists_pieces_filled (s : List Char) : ∃ head tail, splitWhere isBlank s = head :: tail ∧
    (head = [] ↔ ∀ c ∈ s.head?, isBlank c = true) ∧
    ((∀ piece ∈ tail, piece ≠ []) ↔ (∀ c ∈ s.getLast?, isBlank c = false) ∧
      s.IsChain fun c d => isBlank c = true → isBlank d = false) := by
  induction s with
  | nil => exact ⟨[], [], rfl, by simp, by simp⟩
  | cons c rest ih =>
    obtain ⟨head, tail, split, starts, fills⟩ := ih
    rw [splitWhere_cons split, List.isChain_cons]
    cases blank : isBlank c with
    | true =>
      refine ⟨[], head :: tail, rfl, by simp [blank], ?_⟩
      rw [List.forall_mem_cons, fills, ne_eq, starts]
      cases rest with
      | nil => simp [blank]
      | cons d more => simp [and_left_comm]
    | false =>
      refine ⟨c :: head, tail, rfl, by simp [blank], ?_⟩
      rw [fills]
      cases rest with
      | nil => simp [blank]
      | cons d more => simp

/-- **A text is collapsed just if it is empty or no piece between its blanks is.** -/
theorem collapsed_iff : Collapsed s ↔ s = [] ∨ ∀ piece ∈ splitWhere isBlank s, piece ≠ [] := by
  obtain ⟨head, tail, split, starts, fills⟩ := exists_pieces_filled s
  rw [split, List.forall_mem_cons, fills, ne_eq, starts]
  constructor
  · intro h
    cases s with
    | nil => exact .inl rfl
    | cons c rest => exact .inr ⟨fun blank => by simpa [h.first c rfl] using blank c rfl, h.2, h.3⟩
  · rintro (rfl | ⟨begins, last, apart⟩)
    · exact ⟨by simp, by simp, by simp⟩
    · refine ⟨fun c first => Bool.eq_false_iff.mpr fun blank => begins fun d same => ?_, last, apart⟩
      rwa [← Option.some.inj (first.symm.trans same)]

/-! ## 3. Fields -/

/-- No piece holds a blank. -/
abbrev Solid (pieces : List (List Char)) : Prop := ∀ piece ∈ pieces, ∀ c ∈ piece, isBlank c = false

theorem solid_fields (s : List Char) : Solid (fields s) := fun _ hf _ hc =>
  not_of_mem_splitWhere (List.mem_of_mem_filter hf) hc

theorem filled_fields (s : List Char) : ∀ field ∈ fields s, field ≠ [] := fun field hf => by
  simpa using (List.mem_filter.mp hf).2

theorem splitWhere_joinWith (solid : Solid pieces) (filled : pieces ≠ []) :
    splitWhere isBlank (joinWith [' '] pieces) = pieces := by
  have alone : ∀ piece ∈ pieces, splitWhere isBlank piece = [piece] := fun piece hp =>
    splitWhere_eq_singleton (solid piece hp)
  rw [joinWith_eq_intercalate, splitWhere_intercalate rfl filled, List.flatMap_congr alone,
    ← List.map_eq_flatMap, List.map_id']

/-- **Pieces with single spaces between them** are collapsed just if none is empty, or there is none
beside it. -/
theorem collapsed_joinWith_iff (solid : Solid pieces) :
    Collapsed (joinWith [' '] pieces) ↔ pieces.length ≤ 1 ∨ ∀ piece ∈ pieces, piece ≠ [] := by
  by_cases none : pieces = []
  · simp [none, collapsed_iff, joinWith]
  · rw [collapsed_iff, splitWhere_joinWith solid none]
    rcases pieces with _ | ⟨piece, _ | ⟨second, more⟩⟩
    · exact absurd rfl none
    · simp [joinWith, em]
    · simp [joinWith]

/-- A text is what its pieces are with spaces between them, if its blanks are spaces. -/
theorem intercalate_splitWhere (spaces : ∀ c ∈ s, isBlank c = true → c = ' ') :
    [' '].intercalate (splitWhere isBlank s) = s := by
  induction s with
  | nil => rfl
  | cons c rest ih =>
    obtain ⟨here, later⟩ := List.forall_mem_cons.mp spaces
    obtain ⟨head, tail, split⟩ := exists_splitWhere isBlank rest
    have same := ih later
    rw [split] at same
    rw [splitWhere_cons split]
    split
    · rename_i blank
      rw [List.intercalate_cons_cons, same, here blank]
      rfl
    · rw [← same]
      cases tail <;> simp [List.intercalate_cons_cons]

/-- **A collapsed text is the row of its fields**, if its blanks are spaces. -/
theorem joinWith_fields (h : Collapsed s) (spaces : ∀ c ∈ s, isBlank c = true → c = ' ') :
    joinWith [' '] (fields s) = s := by
  rcases collapsed_iff.mp h with rfl | filled
  · rfl
  · have all : fields s = splitWhere isBlank s :=
      List.filter_eq_self.mpr fun piece hp => by simpa using filled piece hp
    rw [all, joinWith_eq_intercalate, intercalate_splitWhere spaces]

end Covenant.Text
