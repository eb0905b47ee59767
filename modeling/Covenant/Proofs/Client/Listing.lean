import Covenant.Proofs.Client.Named
import Covenant.Proofs.Naming.Inline
/-!
# The listing of an entry point

The entry point of a project lists its operations as comment. Path and summary of an operation are
inlined before they are listed; its id is not.

* `no_break_listedLine_iff`: a line of the listing ends early only within an id.
* `splitWhere_operationComments`: if no id ends a line, the lines of the listing are those of the
  operations.
* `isListing_iff`: the listing is nothing but comment, with one line for each operation, just if no
  id ends a line.
-/

namespace Covenant.Client

open Covenant.Contract Covenant.Naming Covenant.Text

/-! ## 1. Lines that are listed -/

/-- The line that lists an operation, by characters. -/
abbrev listedLine (comment : String) (operation : Operation) : List Char :=
  (operationComment comment operation).toList

/-- A listing of operations: one line for each in their order, and no line that is not a comment
from its beginning. -/
structure IsListing (isBreak : Char → Bool) (comment : String) (operations : List Operation)
    (listing : String) : Prop where
  one_each : splitWhere isBreak listing.toList = operations.map (listedLine comment)
  commented : ∀ line ∈ splitWhere isBreak listing.toList, comment.toList <+: line

theorem comment_prefix_listedLine (comment : String) (operation : Operation) :
    comment.toList <+: listedLine comment operation := by
  simp only [listedLine, operationComment, String.toList_append, List.append_assoc]
  exact List.prefix_append _ _

theorem isInline_verb (verb : Verb) : IsInline verb.text.toList :=
  isInline_of_word (List.all_eq_true.mp (by cases verb <;> decide))

theorem isInline_summaryText {operation : Operation} {summary : String}
    (h : summaryText? operation = some summary) : IsInline summary.toList := by
  obtain ⟨h, -⟩ := Option.filter_eq_some_iff.mp h
  obtain ⟨text, -, rfl⟩ := Option.map_eq_some_iff.mp h
  exact inlineText_isInline text

/-! ## 2. Ends of lines -/

section Breaks

variable {isBreak : Char → Bool} (breaks : LineBreaks isBreak)
include breaks

/-- What begins a comment does not end a line. -/
theorem no_break_comment (target : Target) :
    ∀ c ∈ target.dialect.comment.toList, isBreak c = false := by
  have inline : IsInline target.dialect.comment.toList := by
    cases target <;> decide
  exact inline.no_break breaks

/-- **A line of the listing ends early only within an id.** -/
theorem no_break_listedLine_iff (target : Target) (operation : Operation) :
    (∀ c ∈ listedLine target.dialect.comment operation, isBreak c = false) ↔
      ∀ c ∈ operation.id.toList, isBreak c = false := by
  have space : ∀ c ∈ " ".toList, isBreak c = false := by simpa using breaks.space
  have indent : ∀ c ∈ "   ".toList, isBreak c = false := by simpa using breaks.space
  simp only [listedLine, operationComment, String.toList_append, List.forall_mem_append]
  constructor
  · exact fun h => h.1.2
  · intro id
    have begins := no_break_comment breaks target
    have verb := (isInline_verb operation.verb).no_break breaks
    have path := (inlineText_isInline operation.path).no_break breaks
    refine ⟨⟨⟨⟨⟨⟨⟨begins, indent⟩, verb⟩, space⟩, path⟩, space⟩, id⟩, ?_⟩
    cases said : summaryText? operation with
    | none => simp
    | some summary =>
      have colon : isBreak ':' = false := by
        rw [Bool.eq_false_iff]
        exact fun ends => absurd (breaks.blank _ ends) (by decide)
      have inlined := (isInline_summaryText said).no_break breaks
      simpa [colon, breaks.space] using inlined

/-! ## 3. Lines of the listing -/

/-- The lines of rows with line feeds between them are the lines of all rows. -/
theorem splitWhere_joinStrings {rows : List String} (filled : rows ≠ []) :
    splitWhere isBreak (joinStrings "\n" rows).toList =
      rows.flatMap fun row => splitWhere isBreak row.toList := by
  rw [joinStrings, String.toList_intercalate,
    show "\n".toList = ['\n'] from rfl,
    splitWhere_intercalate breaks.feed (by simpa using filled), List.flatMap_map]

/-- **Where no id ends a line, the lines of the listing are those of the operations.** -/
theorem splitWhere_operationComments {target : Target} {operations : List Operation}
    (filled : operations ≠ [])
    (clean : ∀ operation ∈ operations, ∀ c ∈ operation.id.toList, isBreak c = false) :
    splitWhere isBreak (operationComments target.dialect.comment operations).toList =
      operations.map (listedLine target.dialect.comment) := by
  have alone : ∀ operation ∈ operations,
      splitWhere isBreak (listedLine target.dialect.comment operation) =
        [listedLine target.dialect.comment operation] := fun operation ho =>
    splitWhere_eq_singleton
      ((no_break_listedLine_iff breaks target operation).mpr (clean operation ho))
  rw [operationComments, splitWhere_joinStrings breaks (by simpa using filled), List.flatMap_map,
    List.flatMap_congr alone, List.map_eq_flatMap]

/-- **The listing of an entry point is nothing but comment, with one line for each operation, just
if no id of an operation ends a line.** -/
theorem isListing_iff {document : Document} {filter : Option TextSet} {operations : List Operation}
    (extracted : document.operations filter = .ok operations) (target : Target) :
    IsListing isBreak target.dialect.comment operations
        (operationComments target.dialect.comment operations) ↔
      ∀ operation ∈ operations, ∀ c ∈ operation.id.toList, isBreak c = false := by
  obtain ⟨-, filled⟩ := operations_eq_ok_iff.mp extracted
  constructor
  · intro listing operation ho
    have line : listedLine target.dialect.comment operation ∈ splitWhere isBreak
        (operationComments target.dialect.comment operations).toList :=
      listing.one_each ▸ List.mem_map_of_mem ho
    exact (no_break_listedLine_iff breaks target operation).mp fun c => not_of_mem_splitWhere line
  · intro clean
    have lines : splitWhere isBreak
        (operationComments target.dialect.comment operations).toList =
        operations.map (listedLine target.dialect.comment) :=
      splitWhere_operationComments breaks filled clean
    refine ⟨lines, ?_⟩
    rw [lines, List.forall_mem_map]
    exact fun operation _ => comment_prefix_listedLine _ operation

end Breaks

/-- A line feed ends a line in every language. -/
theorem lineBreaks_feed : LineBreaks (· == '\n') where
  feed := rfl
  blank c h := by rw [eq_of_beq h]; rfl
  space := rfl

/-- A document with one operation at `/pets`. -/
def petsDocument (id : String) : Document where
  openapi := none
  info := ⟨"Pets", "1", none⟩
  servers := []
  paths := [⟨"/pets", ⟨some ⟨some id, none, [], [], none, .empty⟩, none, none, none, none, []⟩⟩]
  schemas := .empty

/-- A plain id is listed on one line of comment. -/
theorem isListing_listPets :
    ∃ operations, (petsDocument "listPets").operations none = .ok operations ∧
      IsListing (· == '\n') Target.go.dialect.comment operations
        (operationComments Target.go.dialect.comment operations) := by
  have extracted : (petsDocument "listPets").operations none =
      .ok ((petsDocument "listPets").extract none) := rfl
  have named : ∀ operation ∈ (petsDocument "listPets").extract none, operation.id = "listPets" := by
    decide
  have word : OfWordChars "listPets" := by decide
  refine ⟨_, extracted, (isListing_iff lineBreaks_feed extracted .go).mpr fun operation ho => ?_⟩
  rw [named operation ho]
  exact word.isInline.no_break lineBreaks_feed

/-- An id of two lines is listed on two lines, and the second is no comment. -/
theorem evil_line_listed :
    ∃ operations, (petsDocument "listPets\nevil()").operations none = .ok operations ∧
      splitWhere (· == '\n') (operationComments Target.go.dialect.comment operations).toList =
        ["//   GET /pets listPets".toList, "evil()".toList] ∧
      ¬IsListing (· == '\n') Target.go.dialect.comment operations
        (operationComments Target.go.dialect.comment operations) := by
  have lines : splitWhere (· == '\n') (operationComments Target.go.dialect.comment
      ((petsDocument "listPets\nevil()").extract none)).toList =
        ["//   GET /pets listPets".toList, "evil()".toList] := by decide +kernel
  refine ⟨_, rfl, lines, fun listing => ?_⟩
  have comment := listing.commented "evil()".toList (lines ▸ by simp)
  revert comment
  decide

end Covenant.Client
