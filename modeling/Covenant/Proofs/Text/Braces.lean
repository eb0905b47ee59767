import Covenant.Proofs.Text.Occurrence
/-!
# Names in braces

In a template names stand in braces, and other texts are put for them.

* `Flat s`: in the text no brace is opened within braces; only the braces of a text decide it.
* `braced_infix_append_iff`: behind a text that leaves no brace open, a name in braces occurs on one
  side or on the other.
* `braced_infix_replace_iff`: when a text without braces is put for a name in braces, this name is
  gone and all others stay; `braced_infix_replaceEach_iff` says it of one replacement after another.
-/

namespace Covenant.Text

variable {s t old new name : List Char}

/-! ## 1. Braces -/

/-- The character opens or closes braces. -/
def isBrace (c : Char) : Bool := c == '\x7b' || c == '\x7d'

/-- The braces of a text, in order. -/
def braces (s : List Char) : List Char := s.filter isBrace

/-- The text has no braces. -/
def NoBrace (s : List Char) : Prop := ∀ c ∈ s, isBrace c = false

/-- The characters of the text decide, and no others. -/
instance (s : List Char) : Decidable (NoBrace s) :=
  List.decidableBAll (fun c => isBrace c = false) s

/-- A name in braces. -/
def braced (name : List Char) : List Char := '\x7b' :: (name ++ ['\x7d'])

/-- No brace is opened within braces: before the next one it is closed. -/
def Flat (s : List Char) : Prop := ¬['\x7b', '\x7b'] <:+: braces s

instance (s : List Char) : Decidable (Flat s) := inferInstanceAs (Decidable (¬_))

/-- The text leaves no brace open. -/
def Closes (s : List Char) : Prop := (braces s).getLast? ≠ some '\x7b'

theorem braces_append (s t : List Char) : braces (s ++ t) = braces s ++ braces t :=
  List.filter_append s t

theorem braces_cons (c : Char) (s : List Char) : braces (c :: s) = braces [c] ++ braces s :=
  braces_append [c] s

theorem braces_eq_nil_iff : braces s = [] ↔ NoBrace s := by
  simp [braces, NoBrace, List.filter_eq_nil_iff]

theorem braces_braced (name : List Char) :
    braces (braced name) = '\x7b' :: (braces name ++ ['\x7d']) := by
  rw [braced, braces_cons, braces_append]
  rfl

theorem NoBrace.braces_braced (plain : NoBrace name) : braces (braced name) = ['\x7b', '\x7d'] := by
  rw [Text.braces_braced, braces_eq_nil_iff.mpr plain, List.nil_append]

theorem NoBrace.closes (h : NoBrace s) : Closes s := by
  simp [Closes, braces_eq_nil_iff.mpr h]

theorem closes_braced (plain : NoBrace name) : Closes (braced name) := by
  rw [Closes, plain.braces_braced]
  decide

theorem not_infix_of_noBrace (h : NoBrace s) (name : List Char) : ¬braced name <:+: s := by
  intro inside
  have opened := h '\x7b' (inside.subset List.mem_cons_self)
  exact absurd opened (by decide)

/-! ## 2. Texts one after the other -/

/-- A word occurs in one of two texts where none of its proper beginnings ends the first. -/
theorem infix_append_iff_of_apart {word : List Char} (apart : ∀ first last, first ≠ [] →
    last ≠ [] → word = first ++ last → ¬first <:+ s) :
    word <:+: s ++ t ↔ word <:+: s ∨ word <:+: t := by
  constructor
  · intro inside
    rcases List.infix_append_iff.mp inside with first | last | ⟨first, last, whole, ends, begins⟩
    · exact .inl first
    · exact .inr last
    · by_cases none : first = []
      · rw [none, List.nil_append] at whole
        exact .inr (whole ▸ begins.isInfix)
      · by_cases all : last = []
        · rw [all, List.append_nil] at whole
          exact .inl (whole ▸ ends.isInfix)
        · exact absurd ends (apart first last none all whole)
  · rintro (first | last)
    · exact first.trans (List.infix_append' [] s t)
    · exact last.trans (List.suffix_append s t).isInfix

/-- **A name in braces does not reach beyond a text that leaves none open.** -/
theorem braced_infix_append_iff (closes : Closes s) (plain : NoBrace name) :
    braced name <:+: s ++ t ↔ braced name <:+: s ∨ braced name <:+: t := by
  refine infix_append_iff_of_apart fun first last some_first some_last whole ends => ?_
  obtain ⟨c, first, rfl⟩ := List.exists_cons_of_ne_nil some_first
  obtain ⟨last, d, rfl⟩ : ∃ front d, last = front ++ [d] :=
    ⟨_, _, (List.dropLast_concat_getLast some_last).symm⟩
  -- The part of the name that is in the first text is opened there, and has no further brace.
  obtain ⟨rfl, same⟩ := List.cons.inj whole
  obtain ⟨rfl, -⟩ := List.append_inj' (same.trans (List.append_assoc ..).symm) rfl
  have rest : NoBrace first := fun c hc => plain c (List.mem_append_left _ hc)
  obtain ⟨before, rfl⟩ := ends
  refine absurd ?_ closes
  rw [braces_append, braces_cons, braces_eq_nil_iff.mpr rest]
  exact List.getLast?_concat

/-- Behind a text that leaves no brace open a text is flat if both are. -/
theorem flat_append_iff (closes : Closes s) : Flat (s ++ t) ↔ Flat s ∧ Flat t := by
  rw [Flat, Flat, Flat, ← not_or, not_iff_not, braces_append]
  refine infix_append_iff_of_apart fun first last some_first some_last whole ends => ?_
  obtain ⟨c, first, rfl⟩ := List.exists_cons_of_ne_nil some_first
  obtain ⟨last, d, rfl⟩ : ∃ front d, last = front ++ [d] :=
    ⟨_, _, (List.dropLast_concat_getLast some_last).symm⟩
  have long := congrArg List.length whole
  simp only [List.length_append, List.length_cons, List.length_nil] at long
  obtain rfl := List.eq_nil_of_length_eq_zero (by omega : first.length = 0)
  obtain ⟨rfl, -⟩ := List.cons.inj whole
  obtain ⟨before, split⟩ := ends
  refine closes ?_
  rw [← split]
  exact List.getLast?_concat

/-- What stands before an opening brace in a flat text leaves none open. -/
theorem Flat.closes (h : Flat (s ++ '\x7b' :: t)) : Closes s := by
  intro opened
  obtain ⟨before, split⟩ := List.getLast?_eq_some_iff.mp opened
  refine h ⟨before, braces t, ?_⟩
  rw [braces_append, braces_cons, split, List.append_assoc, List.append_assoc]
  rfl

theorem braced_infix_braced_iff (plain : NoBrace name) (plain_old : NoBrace old) :
    braced name <:+: braced old ↔ name = old := by
  constructor
  · intro inside
    have later : ¬braced name <:+: old ++ ['\x7d'] := by
      rw [braced_infix_append_iff plain_old.closes plain, not_or]
      exact ⟨not_infix_of_noBrace plain_old name, by simp [braced, List.infix_cons_iff]⟩
    have front : name ++ ['\x7d'] <+: old ++ ['\x7d'] :=
      (List.cons_prefix_cons.mp ((List.infix_cons_iff.mp inside).resolve_right later)).2
    rcases List.prefix_concat_iff.mp front with same | shorter
    · exact (List.append_inj' same rfl).1
    · have closed := plain_old '\x7d' (shorter.subset (by simp))
      exact absurd closed (by decide)
  · rintro rfl
    exact List.infix_refl _

/-! ## 3. Replacements -/

/-- **Put for a name in braces, a text without braces removes this name and leaves all others.** -/
theorem braced_infix_replace_iff (plain_old : NoBrace old) (plain_new : NoBrace new)
    (flat : Flat s) : Flat (replace (braced old) new s) ∧ ∀ name, NoBrace name →
      (braced name <:+: replace (braced old) new s ↔ braced name <:+: s ∧ name ≠ old) := by
  have some_old : braced old ≠ [] := List.cons_ne_nil _ _
  induction s using replace_induct new some_old with
  | none s absent =>
    refine ⟨flat, fun name _ => (and_iff_left_of_imp ?_).symm⟩
    rintro inside rfl
    exact absent inside
  | cut before after absent ih =>
    have closes : Closes before := flat.closes
    obtain ⟨flat_before, flat⟩ := (flat_append_iff closes).mp flat
    obtain ⟨flat, names⟩ := ih ((flat_append_iff (closes_braced plain_old)).mp flat).2
    have flat_new : Flat new := by simp [Flat, braces_eq_nil_iff.mpr plain_new]
    refine ⟨(flat_append_iff closes).mpr
      ⟨flat_before, (flat_append_iff plain_new.closes).mpr ⟨flat_new, flat⟩⟩, fun name plain => ?_⟩
    rw [braced_infix_append_iff closes plain, braced_infix_append_iff closes plain,
      braced_infix_append_iff plain_new.closes plain,
      braced_infix_append_iff (closes_braced plain_old) plain, names name plain,
      braced_infix_braced_iff plain plain_old, or_iff_right (not_infix_of_noBrace plain_new name)]
    have other : braced name <:+: before → name ≠ old := by
      rintro inside rfl
      exact absent inside
    tauto

/-- One replacement after another. -/
def replaceEach (s : List Char) (pairs : List (List Char × List Char)) : List Char :=
  pairs.foldl (fun s pair => replace pair.1 pair.2 s) s

/-- **Where texts without braces are put for names in braces one after another**, all these names
are gone, and every other name stays. -/
theorem braced_infix_replaceEach_iff {pairs : List (List Char × List Char)} (flat : Flat s)
    (named : ∀ pair ∈ pairs, ∃ old, NoBrace old ∧ pair.1 = braced old)
    (plain_new : ∀ pair ∈ pairs, NoBrace pair.2) (plain : NoBrace name) :
    braced name <:+: replaceEach s pairs ↔
      braced name <:+: s ∧ ∀ pair ∈ pairs, pair.1 ≠ braced name := by
  induction pairs generalizing s with
  | nil => simp [replaceEach]
  | cons pair rest ih =>
    obtain ⟨⟨old, plain_old, opened⟩, named⟩ := List.forall_mem_cons.mp named
    obtain ⟨value, plain_new⟩ := List.forall_mem_cons.mp plain_new
    obtain ⟨flat, names⟩ := braced_infix_replace_iff plain_old value flat
    have different : pair.1 ≠ braced name ↔ name ≠ old := by
      rw [opened, not_iff_not]
      simp [braced, eq_comm]
    rw [← opened] at flat names
    rw [List.forall_mem_cons, different, ← and_assoc, ← names name plain]
    exact ih flat named plain_new

end Covenant.Text
