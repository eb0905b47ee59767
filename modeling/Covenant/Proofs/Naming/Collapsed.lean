import Covenant.Proofs.Naming.Ends
/-!
# Blanks of inlined texts

Inlining collapses blanks first and removes quotes and backslashes then. What is removed may leave a
space at an end or beside another space.

* `inlineText_safe`: whatever the text, nothing is left that ends a literal, a comment or a line, and
  all other visible characters are left in their order.
* `collapsed_inline_iff`: an inlined text is collapsed just if no field beside others was made of
  removed characters alone.
* `inline_eq_self_iff`: the texts that inlining leaves alone are those that are inline and collapsed,
  so that inlining a second time changes nothing in the same case.
* `inline_eq_nil_iff`: what is inlined to nothing.
-/

namespace Covenant.Naming

open Covenant.Text

variable {s : List Char}

/-! ## 1. Safe texts -/

/-- **An inlined text is safe**: it has no double quote, no backslash, no blank but the space and no
end of a comment, and what else is visible in the text is left in its order. -/
theorem inlineText_safe (text : String) :
    '"' ∉ (inlineText text).toList ∧ '\\' ∉ (inlineText text).toList ∧
      ¬['*', '/'] <:+: (inlineText text).toList ∧
      (∀ c ∈ (inlineText text).toList, isBlank c = true → c = ' ') ∧
      (inlineText text).toList.filter (fun c => !isBlank c) =
        text.toList.filter fun c => !isBlank c && (c != '"' && c != '\\') := by
  have inlined : IsInline (inlineText text).toList := inlineText_isInline text
  refine ⟨fun quote => ?_, fun backslash => ?_, inlined.no_end, inlined.one_line, ?_⟩
  · exact absurd (inlined.no_quote _ quote) (by decide)
  · exact absurd (inlined.no_quote _ backslash) (by decide)
  · rw [inlineText, String.toList_ofList, filter_inline fun c blank => by rw [blank]; rfl]
    refine List.filter_congr fun c _ => ?_
    rw [endsLiteral, Bool.not_or]
    rfl

/-! ## 2. Inlined texts -/

/-- What is shown of a text are its fields without what is removed from them. -/
theorem shown_eq (s : List Char) :
    shown s = joinWith [' '] ((fields s).map (·.filter fun c => !endsLiteral c)) :=
  filter_joinWith _ [' '] (fields s)

/-- Opening the ends of comments brings no blanks together. -/
theorem collapsed_openEnds_iff : Collapsed (openEnds s) ↔ Collapsed s := by
  -- the neighbours of a space that is added are a star and a slash
  have kept : (openEnds s).head? = s.head? ∧
      ((openEnds s).IsChain (fun c d => isBlank c = true → isBlank d = false) ↔
        s.IsChain fun c d => isBlank c = true → isBlank d = false) := by
    have slash : isBlank '/' = false := rfl
    have star : isBlank '*' = false := rfl
    induction s using openEnds_induct with
    | nil => exact ⟨rfl, .rfl⟩
    | ends rest ih => exact ⟨rfl, by simp [List.isChain_cons, slash, star, ih.2]⟩
    | other c rest _ ih => exact ⟨rfl, by rw [List.isChain_cons, List.isChain_cons, ih.1, ih.2]⟩
  constructor
  · intro h
    exact ⟨kept.1 ▸ h.first, getLast?_openEnds s ▸ h.last, kept.2.mp h.apart⟩
  · intro h
    exact ⟨kept.1.symm ▸ h.first, (getLast?_openEnds s).symm ▸ h.last, kept.2.mpr h.apart⟩

/-- Inlining leaves something of each field of a text that has others beside it. -/
def KeepsFields (text : List Char) : Prop :=
  (fields text).length ≤ 1 ∨ ∀ field ∈ fields text, ∃ c ∈ field, endsLiteral c = false

/-- **An inlined text is collapsed** just if something is left of each field, or there is but one. -/
theorem collapsed_inline_iff : Collapsed (inline s) ↔ KeepsFields s := by
  have solid : Solid ((fields s).map (·.filter fun c => !endsLiteral c)) := by
    intro piece hp c hc
    obtain ⟨field, hf, rfl⟩ := List.mem_map.mp hp
    exact solid_fields s field hf c (List.mem_of_mem_filter hc)
  rw [inline_eq, collapsed_openEnds_iff, shown_eq, collapsed_joinWith_iff solid, List.length_map,
    List.forall_mem_map, KeepsFields]
  refine or_congr_right (forall₂_congr fun field _ => ?_)
  simp [List.filter_eq_nil_iff]

theorem openEnds_eq_self (no_end : ¬['*', '/'] <:+: s) : openEnds s = s := by
  induction s using openEnds_induct with
  | nil => rfl
  | ends rest _ => exact absurd ⟨[], rest, rfl⟩ no_end
  | other c rest _ ih => rw [ih fun inner => no_end (inner.trans (List.suffix_cons c rest).isInfix)]

/-- **The texts that inlining leaves alone.** -/
theorem inline_eq_self_iff : inline s = s ↔ IsInline s ∧ Collapsed s := by
  constructor
  · intro same
    have inlined : IsInline s := same ▸ inline_isInline s
    have keeps : KeepsFields s := .inr fun field hf => by
      obtain ⟨c, hc⟩ := List.exists_mem_of_ne_nil field (filled_fields s field hf)
      have there : c ∈ s := (mem_of_mem_splitWhere (List.mem_of_mem_filter hf) hc).1
      exact ⟨c, hc, inlined.no_quote c there⟩
    exact ⟨inlined, same ▸ collapsed_inline_iff.mpr keeps⟩
  · rintro ⟨inlined, collapsed⟩
    have plain : s.filter (fun c => !endsLiteral c) = s :=
      List.filter_eq_self.mpr fun c hc => by rw [inlined.no_quote c hc]; rfl
    have line : oneLine s = s := joinWith_fields collapsed inlined.one_line
    rw [inline_eq, shown, line, plain, openEnds_eq_self inlined.no_end]

theorem inline_inline_iff : inline (inline s) = inline s ↔ KeepsFields s := by
  rw [inline_eq_self_iff, and_iff_right (inline_isInline s), collapsed_inline_iff]

/-! ## 3. Texts of which nothing is left -/

/-- What is visible in a text is visible on its one line. -/
theorem mem_oneLine_iff {c : Char} (visible : isBlank c = false) : c ∈ oneLine s ↔ c ∈ s := by
  have same := congrArg (c ∈ ·) (filter_oneLine (p := fun c => !isBlank c) (by simp) s)
  simpa [List.mem_filter, visible] using same

/-- The one line of a text has a space just if there are two fields or more. -/
theorem visible_oneLine_iff :
    (∀ c ∈ oneLine s, isBlank c = false) ↔ (fields s).length ≤ 1 := by
  rcases split : fields s with _ | ⟨field, _ | ⟨second, more⟩⟩
  · simp [oneLine, split, joinWith]
  · have solid : ∀ c ∈ field, isBlank c = false := solid_fields s field (by simp [split])
    simpa [oneLine, split, joinWith] using solid
  · have space : ' ' ∈ oneLine s := by simp [oneLine, split, joinWith]
    constructor
    · intro visible
      exact absurd (visible ' ' space) (by decide)
    · intro few
      simp at few

/-- **What is inlined to nothing**: blanks and removed characters that are at most one field. -/
theorem inline_eq_nil_iff : inline s = [] ↔
    (fields s).length ≤ 1 ∧ ∀ c ∈ s, isBlank c = true ∨ endsLiteral c = true := by
  have opened : openEnds (shown s) = [] ↔ shown s = [] := by
    rw [← List.getLast?_eq_none_iff, getLast?_openEnds, List.getLast?_eq_none_iff]
  have emptied : shown s = [] ↔ ∀ c ∈ oneLine s, endsLiteral c = true := by
    rw [shown, List.filter_eq_nil_iff]
    simp
  rw [inline_eq, opened, emptied, ← visible_oneLine_iff]
  constructor
  · intro removed
    refine ⟨fun c hc => isBlank_of_endsLiteral (removed c hc), fun c hc => ?_⟩
    cases blank : isBlank c with
    | true => exact .inl rfl
    | false => exact .inr (removed c ((mem_oneLine_iff blank).mpr hc))
  · rintro ⟨visible, removed⟩ c hc
    have there : c ∈ s := (mem_oneLine_iff (visible c hc)).mp hc
    exact (removed c there).resolve_left (by simp [visible c hc])

end Covenant.Naming
