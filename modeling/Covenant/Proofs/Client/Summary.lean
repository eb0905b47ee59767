import Covenant.Client.Method
import Covenant.Proofs.Naming.Collapsed
/-!
# Summaries on one line

A method is documented by the summary of its operation, put on one line, or by verb and path where
there is no summary.

* `summaryText?_eq_none_iff`: which summaries count as absent.
* `inlineText_collapsed_iff`: blanks of an inlined text are collapsed, and inlining it again changes
  nothing, just if something is left of each field beside others; a summary of which nothing is left
  counts as absent just if it is at most one field.
* `quotes_leave_spaces`: two quotes with a space between them document a method by the space.
-/

namespace Covenant.Client

open Covenant.Contract Covenant.Naming Covenant.Text

theorem summaryText?_eq_none_iff {operation : Operation} :
    summaryText? operation = none ↔ ∀ summary ∈ operation.summary, inlineText summary = "" := by
  rw [summaryText?, Option.filter_eq_none_iff]
  simp

/-- The text has no characters but blanks and such as inlining removes. -/
def SaysNothing (text : List Char) : Prop :=
  ∀ c ∈ text, isBlank c = true ∨ endsLiteral c = true

/-- **When the blanks of an inlined text are collapsed**, and when a second inlining changes nothing:
if something is left of each field that has others beside it. A summary counts as absent if it says
nothing and has one field at most; the spaces between more fields than one remain. -/
theorem inlineText_collapsed_iff (text : String) (operation : Operation) :
    (Collapsed (inlineText text).toList ↔ KeepsFields text.toList) ∧
      (inlineText (inlineText text) = inlineText text ↔ KeepsFields text.toList) ∧
      (summaryText? operation = none ↔ ∀ summary ∈ operation.summary,
        (fields summary.toList).length ≤ 1 ∧ SaysNothing summary.toList) := by
  refine ⟨?_, ?_, ?_⟩
  · rw [inlineText, String.toList_ofList]
    exact collapsed_inline_iff
  · rw [← String.toList_inj]
    simp only [inlineText, String.toList_ofList]
    exact inline_inline_iff
  · rw [summaryText?_eq_none_iff]
    refine forall₂_congr fun summary _ => ?_
    rw [inlineText, String.ofList_eq_empty_iff]
    exact inline_eq_nil_iff

/-- An operation with a summary. -/
def summarizedOperation (summary : String) : Operation where
  id := "listPets"
  verb := .get
  path := "/pets"
  summary := some summary
  tags := []
  hasBody := false
  bodyType := none
  parameters := []
  reply := .void

/-- **Quotes leave the spaces beside them**: one at the start of a text, two within it, and one
between two quotes, by which a method is documented then. -/
theorem quotes_leave_spaces :
    ¬Collapsed (inlineText "\" a").toList ∧ ¬Collapsed (inlineText "a \" b").toList ∧
      inlineText (inlineText "\" a") ≠ inlineText "\" a" ∧
      SaysNothing "\" \"".toList ∧
      summaryText? (summarizedOperation "\" \"") = some " " ∧
      methodDoc (summarizedOperation "\" \"") = " " := by
  have front : inlineText "\" a" = " a" := by decide +kernel
  have within : inlineText "a \" b" = "a  b" := by decide +kernel
  have again : inlineText " a" = "a" := by decide +kernel
  have alone : summaryText? (summarizedOperation "\" \"") = some " " := by decide +kernel
  refine ⟨fun h => ?_, fun h => ?_, ?_, ?_, alone, ?_⟩
  · rw [front] at h
    exact absurd (h.first ' ' rfl) (by decide)
  · rw [within] at h
    have apart := (List.isChain_cons_cons.mp h.apart).2
    exact absurd ((List.isChain_cons_cons.mp apart).1 rfl) (by decide)
  · rw [front, again]
    decide
  · simp [SaysNothing, isBlank, endsLiteral]
  · rw [methodDoc, alone]
    rfl

end Covenant.Client
