import Covenant.Text.Split
import Mathlib.Data.List.Count
/-!
# Occurrences that are replaced

`replace` puts a text for every occurrence of another. Here it is read one occurrence at a time.

* `cutFirst?`: what stands before and after the first occurrence.
* `replace_eq_cut`: the first occurrence gives way, and then those after it.
* `replace_induct`: what holds of a text without an occurrence, and with one more in front of what it
  holds of, holds of every text.
* `replace_eq_self_iff`: a text without some character of what it is put for changes nothing just if
  there is no occurrence.
-/

namespace Covenant.Text

/-- What stands before and after the first occurrence of the non-empty `old`. -/
def cutFirst? (old : List Char) : List Char → Option (List Char × List Char)
  | [] => none
  | c :: r =>
    if old.isPrefixOf (c :: r) then some ([], (c :: r).drop old.length)
    else (cutFirst? old r).map fun cut => (c :: cut.1, cut.2)

theorem eq_of_cutFirst? {old s before after : List Char}
    (h : cutFirst? old s = some (before, after)) : s = before ++ (old ++ after) := by
  induction s generalizing before with
  | nil => cases h
  | cons c r ih =>
    rw [cutFirst?] at h
    split at h
    · rename_i begins
      obtain ⟨rfl, rfl⟩ : [] = before ∧ (c :: r).drop old.length = after := by simpa using h
      exact (List.prefix_iff_eq_append.mp (List.isPrefixOf_iff_prefix.mp begins)).symm
    · obtain ⟨⟨first, last⟩, cut, same⟩ := Option.map_eq_some_iff.mp h
      obtain ⟨rfl, rfl⟩ : c :: first = before ∧ last = after := by simpa using same
      rw [List.cons_append, ← ih cut]

/-- Nothing is cut where there is no occurrence. -/
theorem not_infix_of_cutFirst?_eq_none {old s : List Char} (some_old : old ≠ [])
    (h : cutFirst? old s = none) : ¬old <:+: s := by
  induction s with
  | nil => simpa using some_old
  | cons c r ih =>
    rw [cutFirst?] at h
    split at h
    · cases h
    · rename_i front
      rw [List.infix_cons_iff, ← List.isPrefixOf_iff_prefix]
      exact not_or.mpr ⟨front, ih (Option.map_eq_none_iff.mp h)⟩

/-- Before the first occurrence there is none. -/
theorem not_infix_of_cutFirst? {old s before after : List Char} (some_old : old ≠ [])
    (h : cutFirst? old s = some (before, after)) : ¬old <:+: before := by
  induction s generalizing before with
  | nil => cases h
  | cons c r ih =>
    rw [cutFirst?] at h
    split at h
    · obtain ⟨rfl, rfl⟩ : [] = before ∧ (c :: r).drop old.length = after := by simpa using h
      simpa using some_old
    · rename_i front
      obtain ⟨⟨first, last⟩, cut, same⟩ := Option.map_eq_some_iff.mp h
      obtain ⟨rfl, rfl⟩ : c :: first = before ∧ last = after := by simpa using same
      rw [List.infix_cons_iff]
      refine not_or.mpr ⟨fun begins => front ?_, ih cut⟩
      rw [List.isPrefixOf_iff_prefix, eq_of_cutFirst? cut, ← List.cons_append]
      exact begins.trans (List.prefix_append _ _)

section

variable {old : List Char} (new : List Char)

theorem replaceFrom_eq (skip : Nat) (s : List Char) :
    replaceFrom old new skip s = replace old new (s.drop skip) := by
  induction s generalizing skip with
  | nil => cases skip <;> rfl
  | cons c r ih =>
    cases skip with
    | zero => rfl
    | succ skip => exact ih skip

/-- **The first occurrence gives way, and then those after it.** -/
theorem replace_eq_cut (some_old : old ≠ []) (s : List Char) :
    replace old new s = match cutFirst? old s with
      | none => s
      | some (before, after) => before ++ (new ++ replace old new after) := by
  obtain ⟨o, others, rfl⟩ := List.exists_cons_of_ne_nil some_old
  induction s with
  | nil => rfl
  | cons c r ih =>
    have step : replace (o :: others) new (c :: r) =
        if (o :: others).isPrefixOf (c :: r) then new ++ replace (o :: others) new
          (r.drop others.length) else c :: replace (o :: others) new r := by
      rw [replace, replaceFrom, replaceFrom_eq, replaceFrom_eq]
      rfl
    rw [step, cutFirst?]
    split
    · rfl
    · rw [ih]
      cases cutFirst? (o :: others) r <;> rfl

/-- **A text is replaced in from its front**: up to the first occurrence, and then behind it. -/
theorem replace_induct (some_old : old ≠ []) {motive : List Char → List Char → Prop}
    (none : ∀ s, ¬old <:+: s → motive s s)
    (cut : ∀ before after, ¬old <:+: before → motive after (replace old new after) →
      motive (before ++ (old ++ after)) (before ++ (new ++ replace old new after)))
    (s : List Char) : motive s (replace old new s) := by
  induction long : s.length using Nat.strongRecOn generalizing s with
  | ind n ih =>
    rw [replace_eq_cut new some_old]
    cases found : cutFirst? old s with
    | none => exact none s (not_infix_of_cutFirst?_eq_none some_old found)
    | some parts =>
      obtain ⟨before, after⟩ := parts
      have whole := eq_of_cutFirst? found
      have shorter : after.length < n := by
        have filled := List.length_pos_iff.mpr some_old
        rw [← long, whole, List.length_append, List.length_append]
        omega
      have later := cut before after (not_infix_of_cutFirst? some_old found)
        (ih after.length shorter after rfl)
      rwa [← whole] at later

variable {new}

/-- What is replaced by a text without a character has that character no more often than before. -/
theorem count_replace_le {c : Char} (absent : c ∉ new) (s : List Char) :
    (replace old new s).count c ≤ s.count c := by
  have from_skip : ∀ skip, (replaceFrom old new skip s).count c ≤ s.count c := by
    induction s with
    | nil => intro skip; cases skip <;> exact Nat.le_refl _
    | cons d r ih =>
      intro skip
      cases skip with
      | succ skip => exact Nat.le_trans (ih skip) List.count_le_count_cons
      | zero =>
        rw [replaceFrom]
        split
        · rw [List.count_append, List.count_eq_zero_of_not_mem absent, Nat.zero_add]
          exact Nat.le_trans (ih _) List.count_le_count_cons
        · rw [List.count_cons, List.count_cons]
          exact Nat.add_le_add_right (ih 0) _
  exact from_skip 0

/-- **A text without some character of what it is put for changes nothing just if there is no
occurrence.** -/
theorem replace_eq_self_iff {c : Char} (there : c ∈ old) (absent : c ∉ new) (s : List Char) :
    replace old new s = s ↔ cutFirst? old s = none := by
  rw [replace_eq_cut new (List.ne_nil_of_mem there)]
  cases cut : cutFirst? old s with
  | none => simp
  | some parts =>
    obtain ⟨before, after⟩ := parts
    simp only [reduceCtorEq, iff_false]
    intro same
    have less : (replace old new after).count c ≤ after.count c := count_replace_le absent after
    have once := List.count_pos_iff.mpr there
    have counts := congrArg (List.count c) (same.trans (eq_of_cutFirst? cut))
    simp only [List.count_append, List.count_eq_zero_of_not_mem absent] at counts
    omega

end

end Covenant.Text
