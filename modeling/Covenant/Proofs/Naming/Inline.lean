import Covenant.Naming.Inline
import Covenant.Proofs.Text.Split
import Mathlib.Data.List.Infix
/-!
# Texts on one line

* `IsInline` is what a text needs to stand between double quotes and in a comment of any language.
* `inline_isInline`: every text has it after it was inlined; letters, digits and underscores have it
  anyway.
* `LineBreaks` are the characters at which a language may end a line: the line feed, and others that
  are blank and not a space.
-/

namespace Covenant.Naming

open Covenant.Text

/-! ## 1. Inline texts -/

/-- A text with no double quote, no backslash, no blank but the space and no end of a comment. -/
structure IsInline (text : List Char) : Prop where
  no_quote : ∀ c ∈ text, endsLiteral c = false
  one_line : ∀ c ∈ text, isBlank c = true → c = ' '
  no_end : ¬['*', '/'] <:+: text

/-- The characters of the text decide, and no others. -/
instance (text : List Char) : Decidable (IsInline text) :=
  have := List.decidableBAll (fun c => endsLiteral c = false) text
  have := List.decidableBAll (fun c => isBlank c = true → c = ' ') text
  decidable_of_iff (_ ∧ _ ∧ _) ⟨fun h => ⟨h.1, h.2.1, h.2.2⟩, fun h => ⟨h.1, h.2, h.3⟩⟩

/-- What stands in one piece in an inline text is inline. -/
theorem IsInline.of_infix {part text : List Char} (h : IsInline text) (within : part <:+: text) :
    IsInline part where
  no_quote c hc := h.no_quote c (within.subset hc)
  one_line c hc := h.one_line c (within.subset hc)
  no_end inside := h.no_end (inside.trans within)

/-- A comment that ends in a text with a space in it ends before or after the space. -/
theorem no_end_spaced {first second : List Char} (h : ¬['*', '/'] <:+: first)
    (g : ¬['*', '/'] <:+: second) : ¬['*', '/'] <:+: first ++ ' ' :: second := by
  induction first with
  | nil => simpa [List.infix_cons_iff] using g
  | cons c rest ih =>
    rw [List.infix_cons_iff, not_or] at h
    rw [List.cons_append, List.infix_cons_iff, not_or]
    refine ⟨fun front => h.1 ?_, ih h.2⟩
    obtain ⟨rfl, slash⟩ := List.cons_prefix_cons.mp front
    cases rest with
    | nil => simp [List.cons_prefix_cons] at slash
    | cons d rest =>
      obtain ⟨rfl, -⟩ := List.cons_prefix_cons.mp slash
      exact ⟨rest, rfl⟩

/-- Inline texts with a space between them are an inline text. -/
theorem IsInline.spaced {first second : List Char} (h : IsInline first) (g : IsInline second) :
    IsInline (first ++ ' ' :: second) where
  no_quote := List.forall_mem_append.mpr
    ⟨h.no_quote, List.forall_mem_cons.mpr ⟨by decide, g.no_quote⟩⟩
  one_line := List.forall_mem_append.mpr
    ⟨h.one_line, List.forall_mem_cons.mpr ⟨fun _ => rfl, g.one_line⟩⟩
  no_end := no_end_spaced h.no_end g.no_end

/-- The characters of an identifier. -/
def isWordChar (c : Char) : Bool := c.isAlphanum || c == '_'

/-- The codes of letters and digits. -/
theorem code_of_alphanum {c : Char} (h : c.isAlphanum = true) :
    65 ≤ c.toNat ∧ c.toNat ≤ 90 ∨ 97 ≤ c.toNat ∧ c.toNat ≤ 122 ∨
      48 ≤ c.toNat ∧ c.toNat ≤ 57 := by
  rcases Bool.or_eq_true_iff.mp h with letter | digit
  · rcases Bool.or_eq_true_iff.mp letter with upper | lower
    · obtain ⟨low, high⟩ := of_decide_eq_true upper
      exact .inl ⟨low, high⟩
    · obtain ⟨low, high⟩ := Bool.and_eq_true_iff.mp lower
      exact .inr (.inl ⟨of_decide_eq_true low, of_decide_eq_true high⟩)
  · obtain ⟨low, high⟩ := Bool.and_eq_true_iff.mp digit
    exact .inr (.inr ⟨of_decide_eq_true low, of_decide_eq_true high⟩)

theorem not_isWordChar_of_blank {c : Char} (h : isBlank c = true) : isWordChar c = false := by
  rw [Bool.eq_false_iff]
  intro word
  rcases Bool.or_eq_true_iff.mp word with counts | bar
  · have codes := code_of_alphanum counts
    simp only [isBlank, Bool.or_eq_true, Bool.and_eq_true, decide_eq_true_eq, beq_iff_eq] at h
    omega
  · rw [eq_of_beq bar] at h
    exact absurd h (by decide)

/-- Letters, digits and underscores are an inline text. -/
theorem isInline_of_word {text : List Char} (h : ∀ c ∈ text, isWordChar c = true) :
    IsInline text where
  no_quote c hc := by
    have word := h c hc
    rw [Bool.eq_false_iff]
    intro quote
    rcases Bool.or_eq_true_iff.mp quote with e | e <;> rw [eq_of_beq e] at word <;>
      exact absurd word (by decide)
  one_line c hc blank := by
    have word := h c hc
    rw [not_isWordChar_of_blank blank] at word
    cases word
  no_end inside := by
    have star := h '*' (inside.subset List.mem_cons_self)
    exact absurd star (by decide)

/-! ## 2. Inlining -/

/-- The only blank between fields is the space. -/
theorem eq_space_of_mem_fields {c : Char} {text : List Char}
    (h : c ∈ joinWith [' '] (fields text)) (blank : isBlank c = true) : c = ' ' := by
  rcases mem_joinWith h with space | ⟨field, hf, hc⟩
  · exact List.mem_singleton.mp space
  · rw [not_of_mem_splitWhere (List.mem_of_mem_filter hf) hc] at blank
    cases blank

/-- A text with every end of a comment opened by a space. -/
abbrev openEnds (text : List Char) : List Char := replace ['*', '/'] ['*', ' ', '/'] text

theorem openEnds_end (rest : List Char) :
    openEnds ('*' :: '/' :: rest) = '*' :: ' ' :: '/' :: openEnds rest := by
  simp [openEnds, replace, replaceFrom]

theorem openEnds_cons {c : Char} {rest : List Char} (h : ¬['*', '/'] <+: c :: rest) :
    openEnds (c :: rest) = c :: openEnds rest := by
  rw [← List.isPrefixOf_iff_prefix, Bool.not_eq_true] at h
  simp [openEnds, replace, replaceFrom, h]

/-- A text is opened from its front: at an end of a comment or at any other character. -/
theorem openEnds_induct {motive : List Char → List Char → Prop} (nil : motive [] [])
    (ends : ∀ rest, motive rest (openEnds rest) →
      motive ('*' :: '/' :: rest) ('*' :: ' ' :: '/' :: openEnds rest))
    (other : ∀ c rest, ¬['*', '/'] <+: c :: rest → motive rest (openEnds rest) →
      motive (c :: rest) (c :: openEnds rest)) (text : List Char) :
    motive text (openEnds text) := by
  induction text using List.twoStepInduction with
  | nil => exact nil
  | singleton c =>
    have single : ¬['*', '/'] <+: [c] := by simp [List.cons_prefix_cons]
    rw [openEnds_cons single]
    exact other c [] single nil
  | cons_cons c d rest ih ihd =>
    by_cases h : ['*', '/'] <+: c :: d :: rest
    · obtain ⟨rfl, slash⟩ := List.cons_prefix_cons.mp h
      obtain ⟨rfl, -⟩ := List.cons_prefix_cons.mp slash
      rw [openEnds_end]
      exact ends rest ih
    · rw [openEnds_cons h]
      exact other c (d :: rest) h (ihd d)

theorem mem_openEnds {c : Char} {text : List Char} : c ∈ openEnds text → c = ' ' ∨ c ∈ text := by
  induction text using openEnds_induct with
  | nil => exact .inr
  | ends rest ih => simp only [List.mem_cons]; tauto
  | other d rest _ ih => simp only [List.mem_cons]; tauto

theorem no_end_openEnds (text : List Char) : ¬['*', '/'] <:+: openEnds text := by
  -- The text behind a star begins with a slash only if it did so before it was opened.
  suffices ¬['*', '/'] <:+: openEnds text ∧ (['/'] <+: openEnds text → ['/'] <+: text) from this.1
  induction text using openEnds_induct with
  | nil => simp
  | ends rest ih => simp [List.infix_cons_iff, List.cons_prefix_cons, ih.1]
  | other c rest h ih =>
    rw [List.infix_cons_iff, not_or]
    refine ⟨⟨fun front => h ?_, ih.1⟩, fun front => ?_⟩
    · obtain ⟨rfl, slash⟩ := List.cons_prefix_cons.mp front
      exact List.cons_prefix_cons.mpr ⟨rfl, ih.2 slash⟩
    · obtain ⟨rfl, -⟩ := List.cons_prefix_cons.mp front
      exact ⟨rest, rfl⟩

/-- **An inlined text is inline.** -/
theorem inline_isInline (text : List Char) : IsInline (inline text) where
  no_quote c hc := by
    rcases mem_openEnds hc with rfl | hc
    · decide
    · simpa using (List.mem_filter.mp hc).2
  one_line c hc blank := by
    rcases mem_openEnds hc with rfl | hc
    · rfl
    · exact eq_space_of_mem_fields (List.mem_of_mem_filter hc) blank
  no_end := no_end_openEnds _

theorem inlineText_isInline (text : String) : IsInline (inlineText text).toList := by
  rw [inlineText, String.toList_ofList]
  exact inline_isInline _

/-! ## 3. Line breaks -/

/-- The line feed and other characters at which a language may end a line. -/
structure LineBreaks (isBreak : Char → Bool) : Prop where
  feed : isBreak '\n' = true
  blank : ∀ c, isBreak c = true → isBlank c = true
  space : isBreak ' ' = false

/-- No language ends a line within an inline text. -/
theorem IsInline.no_break {text : List Char} (h : IsInline text) {isBreak : Char → Bool}
    (breaks : LineBreaks isBreak) : ∀ c ∈ text, isBreak c = false := by
  intro c hc
  rw [Bool.eq_false_iff]
  intro ends
  rw [h.one_line c hc (breaks.blank c ends), breaks.space] at ends
  cases ends

end Covenant.Naming
