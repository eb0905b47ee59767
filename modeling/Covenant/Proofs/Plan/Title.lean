import Covenant.Plan.Task
import Covenant.Proofs.Text.Blank
import Covenant.Proofs.Text.Case
/-!
# Titles

A title is an intent on at most sixty characters, and it is its own title.

* `Tidy` is said of a text that trimming and raising its first character leave as it is.
* `tidy_raiseFirst_trim` and `tidy_shorten`: both steps that make a title make a tidy text.
* `titleOf_bounded`: how long a title is, what of the intent it keeps, and that it stays as it is.
-/

namespace Covenant.Plan

open Covenant.Text

/-! ## 1. Tidy texts -/

/-- A text that begins with a settled character and ends in a visible one, if there is any. -/
structure Tidy (s : List Char) : Prop where
  first : ∀ c ∈ s.head?, Settled c
  last : ∀ c ∈ s.getLast?, isBlank c = false

theorem trimEnd_eq_self {s : List Char} (h : ∀ c ∈ s.getLast?, isBlank c = false) :
    trimEnd s = s := by
  rw [trimEnd_eq, List.rdropWhile_eq_self_iff]
  intro filled
  simpa using h _ (List.getLast?_eq_some_getLast filled)

theorem Tidy.trim_eq {s : List Char} (h : Tidy s) : trim s = s := by
  have start : trimStart s = s := by
    cases s with
    | nil => rfl
    | cons c rest => exact List.dropWhile_cons_of_neg (by simp [(h.first c rfl).visible])
  rw [trim, start, trimEnd_eq_self h.last]

theorem Tidy.raiseFirst_eq {s : List Char} (h : Tidy s) : raiseFirst s = s := by
  cases s with
  | nil => rfl
  | cons c rest => rw [raiseFirst, (h.first c rfl).upper, List.singleton_append]

theorem mem_head?_of_prefix {s t : List Char} (h : s <+: t) {c : Char} (hc : c ∈ s.head?) :
    c ∈ t.head? := by
  obtain ⟨more, rfl⟩ := h
  cases s with
  | nil => cases hc
  | cons d rest => exact hc

/-- A trimmed text begins with a visible character. -/
theorem visible_head?_trim (s : List Char) : ∀ c ∈ (trim s).head?, isBlank c = false := by
  intro c hc
  have front : c ∈ (s.dropWhile isBlank).head? :=
    mem_head?_of_prefix (List.rdropWhile_prefix isBlank _) hc
  have first := List.head?_dropWhile_not isBlank s
  rw [Option.mem_def.mp front] at first
  exact first

/-! ## 2. The steps to a title -/

/-- **A trimmed text with its first character raised is tidy.** -/
theorem tidy_raiseFirst_trim (s : List Char) : Tidy (raiseFirst (trim s)) := by
  have first := visible_head?_trim s
  have last : ∀ c ∈ (trim s).getLast?, isBlank c = false := not_of_mem_getLast?_rdropWhile _ _
  generalize trim s = text at first last
  cases text with
  | nil => exact ⟨nofun, nofun⟩
  | cons c rest =>
    have settled : ∀ u ∈ upperOf c, Settled u := fun u => settled_of_mem_upperOf (first c rfl)
    obtain ⟨u, more, raised⟩ := List.exists_cons_of_ne_nil (upperOf_ne_nil c)
    refine ⟨fun d hd => ?_, fun d hd => ?_⟩
    · rw [raiseFirst, raised] at hd
      obtain rfl := Option.some.inj hd
      exact settled u (raised ▸ List.mem_cons_self)
    · rw [raiseFirst, List.getLast?_append] at hd
      cases rest with
      | nil => exact (settled d (List.mem_of_getLast? hd)).visible
      | cons e rest => exact last d (by simpa using hd)

theorem shorten_of_le {s : List Char} (h : s.length ≤ titleLimit) : shorten s = s :=
  if_neg (Nat.not_lt.mpr h)

/-- **What is kept of a text that is too long**: all that there is room for, but for the blanks at
its end. -/
theorem exists_kept {s : List Char} (tidy : Tidy s) (long : titleLimit < s.length) :
    ∃ kept blanks, kept ≠ [] ∧ s.take (titleLimit - ellipsis.length) = kept ++ blanks ∧
      (∀ c ∈ kept.getLast?, isBlank c = false) ∧ (∀ c ∈ blanks, isBlank c = true) ∧
      shorten s = kept ++ ellipsis := by
  have whole : trimEnd (s.take (titleLimit - ellipsis.length)) ++ _ = _ :=
    List.rdropWhile_append_rtakeWhile
  refine ⟨trimEnd (s.take (titleLimit - ellipsis.length)), _, ?_, whole.symm,
    not_of_mem_getLast?_rdropWhile isBlank _, fun c => List.mem_rtakeWhile_imp, if_pos long⟩
  cases s with
  | nil => cases long
  | cons c rest =>
    intro none
    have blank := List.rdropWhile_eq_nil_iff.mp none c (by simp [titleLimit, ellipsis])
    rw [(tidy.first c rfl).visible] at blank
    cases blank

theorem length_shorten_le {s : List Char} (tidy : Tidy s) : (shorten s).length ≤ titleLimit := by
  by_cases long : titleLimit < s.length
  · obtain ⟨kept, blanks, _, whole, _, _, shortened⟩ := exists_kept tidy long
    have taken := congrArg List.length whole
    rw [List.length_take, List.length_append] at taken
    have room : titleLimit - ellipsis.length + ellipsis.length = titleLimit := rfl
    rw [shortened, List.length_append]
    omega
  · have short := Nat.not_lt.mp long
    rwa [shorten_of_le short]

/-- **A tidy text stays tidy when it is shortened.** -/
theorem tidy_shorten {s : List Char} (tidy : Tidy s) : Tidy (shorten s) := by
  by_cases long : titleLimit < s.length
  · obtain ⟨kept, blanks, filled, whole, _, _, shortened⟩ := exists_kept tidy long
    obtain ⟨c, rest, rfl⟩ := List.exists_cons_of_ne_nil filled
    have front : c ∈ s.head? := by
      refine mem_head?_of_prefix (List.take_prefix (titleLimit - ellipsis.length) s) ?_
      rw [whole]
      rfl
    rw [shortened]
    refine ⟨fun d hd => ?_, fun d hd => ?_⟩
    · obtain rfl := Option.some.inj hd
      exact tidy.first c front
    · rw [List.getLast?_append] at hd
      obtain rfl := Option.some.inj hd
      rfl
  · rwa [shorten_of_le (Nat.not_lt.mp long)]

/-! ## 3. Titles -/

/-- **What a title is.** It has at most sixty characters. If the trimmed intent, its first character
raised, has no more, it is the title; else the title is the beginning of it that leaves room for the
ellipsis, but for the blanks at its end, and the ellipsis. A title is its own title. -/
theorem titleOf_bounded (intent : String) :
    let whole := raiseFirst (trim intent.toList)
    (titleOf intent).length ≤ titleLimit ∧
      (whole.length ≤ titleLimit → titleOf intent = .ofList whole) ∧
      (titleLimit < whole.length → ∃ kept blanks, kept ≠ [] ∧ kept <+: whole ∧
        whole.take (titleLimit - ellipsis.length) = kept ++ blanks ∧
        (∀ c ∈ kept.getLast?, isBlank c = false) ∧ (∀ c ∈ blanks, isBlank c = true) ∧
        titleOf intent = .ofList (kept ++ ellipsis)) ∧
      titleOf (titleOf intent) = titleOf intent := by
  intro whole
  have tidy : Tidy whole := tidy_raiseFirst_trim intent.toList
  have bounded : (shorten whole).length ≤ titleLimit := length_shorten_le tidy
  refine ⟨?_, fun short => ?_, fun long => ?_, ?_⟩
  · rwa [titleOf, String.length_ofList]
  · rw [titleOf, shorten_of_le short]
  · obtain ⟨kept, blanks, filled, taken, last, blank, shortened⟩ := exists_kept tidy long
    refine ⟨kept, blanks, filled, ?_, taken, last, blank, congrArg String.ofList shortened⟩
    have within : kept ++ blanks <+: whole := taken ▸ List.take_prefix _ whole
    exact (List.prefix_append kept blanks).trans within
  · have again := tidy_shorten tidy
    rw [titleOf, titleOf, String.toList_ofList, again.trim_eq, again.raiseFirst_eq,
      shorten_of_le bounded]

end Covenant.Plan
