import Covenant.Contract.Operation
import Covenant.Proofs.Text.Blank
import Covenant.Proofs.Text.Lines
import Mathlib.Data.List.Forall2
/-!
# The catalog of operations

The catalog has a line for each operation, but nothing keeps the texts of an operation from ending
it: they stand there as the contract has them, only the summary without the blanks around it.

* `toList_catalogLine`: the line of an operation is its heading and what is told of it.
* `length_lines_catalog`: how many lines a catalog has.
* `begins_dropReturn_iff`: the end of a line may take a carriage return from a heading.
* `catalog_lists_iff`: when the lines of a catalog are those of its operations.
-/

namespace Covenant.Contract

open Covenant.Text

/-! ## 1. The line of an operation -/

/-- The verb in a column of six characters, the path and the id. -/
def Operation.heading (operation : Operation) : List Char :=
  operation.verb.text.toList.rightpad 6 ' ' ++ ' ' :: operation.path.toList ++
    ' ' :: operation.id.toList

/-- The summary after a colon, if it is not blank. -/
def Operation.told (operation : Operation) : List Char :=
  match operation.summary with
  | none => []
  | some summary => if blankString summary then [] else ':' :: ' ' :: trim summary.toList

/-- No text of the operation begins another line. -/
structure Operation.StaysOnLine (operation : Operation) : Prop where
  path : '\n' ∉ operation.path.toList
  id : '\n' ∉ operation.id.toList
  summary : ∀ summary ∈ operation.summary, '\n' ∉ trim summary.toList

/-- Nothing is told of the operation, and its id ends in a carriage return. -/
def Operation.EndsInReturn (operation : Operation) : Prop :=
  operation.told = [] ∧ operation.id.toList.getLast? = some '\r'

variable {operation : Operation} {operations : List Operation}

/-- **The line of an operation** is its heading and what is told of it. -/
theorem toList_catalogLine (operation : Operation) :
    operation.catalogLine.toList = operation.heading ++ operation.told := by
  have head : (padEnd 6 operation.verb.text ++ " " ++ operation.path ++ " " ++
      operation.id).toList = operation.heading := by
    simp [Operation.heading, padEnd, List.rightpad]
  rw [Operation.catalogLine, Operation.told]
  cases operation.summary with
  | none => rw [List.append_nil]; exact head
  | some summary =>
    by_cases blank : blankString summary = true
    · simp only [blank, if_true, List.append_nil]
      exact head
    · simp only [blank, Bool.false_eq_true, if_false, String.toList_append, trimString,
        String.toList_ofList] at head ⊢
      rw [head, List.append_assoc]
      rfl

theorem feed_notMem_told_iff :
    '\n' ∉ operation.told ↔ ∀ summary ∈ operation.summary, '\n' ∉ trim summary.toList := by
  rw [Operation.told]
  cases operation.summary with
  | none => simp
  | some summary =>
    by_cases blank : blankString summary = true
    · simp [blank, trim_eq_nil_iff.mpr blank]
    · simp [blank]

/-- A line goes on in another one where a text of the operation does. -/
theorem feed_notMem_catalogLine_iff :
    '\n' ∉ operation.catalogLine.toList ↔ operation.StaysOnLine := by
  have verb : '\n' ∉ operation.verb.text.toList.rightpad 6 ' ' := by
    cases operation.verb <;> decide
  rw [toList_catalogLine, List.mem_append, not_or, feed_notMem_told_iff, Operation.heading]
  simp only [List.mem_append, List.mem_cons, verb, false_or, not_or]
  constructor
  · rintro ⟨⟨⟨-, path⟩, -, id⟩, summary⟩
    exact ⟨path, id, summary⟩
  · intro h
    exact ⟨⟨⟨by decide, h.path⟩, by decide, h.id⟩, h.summary⟩

/-! ## 2. Ends of lines -/

/-- What is told of an operation ends in a visible character. -/
theorem visible_getLast?_told : ∀ c ∈ operation.told.getLast?, isBlank c = false := by
  intro c hc
  rw [Operation.told] at hc
  split at hc
  · cases hc
  · rename_i summary _
    split at hc
    · cases hc
    · rename_i said
      have filled : trim summary.toList ≠ [] := fun none => said (trim_eq_nil_iff.mp none)
      have last := List.getLast?_append_of_ne_nil [':', ' '] filled
      exact visible_getLast?_trim summary.toList c (last ▸ hc)

/-- **The end of a line takes a carriage return from a heading** just if the line is the heading and
the id ends in one. -/
theorem begins_dropReturn_iff :
    operation.heading <+: dropReturn operation.catalogLine.toList ↔ ¬operation.EndsInReturn := by
  rw [toList_catalogLine]
  by_cases silent : operation.told = []
  · have ends : operation.heading.getLast? = some '\r' ↔ operation.EndsInReturn := by
      rw [Operation.EndsInReturn, Operation.heading, List.getLast?_append, List.getLast?_cons]
      cases operation.id.toList.getLast? <;> simp [silent]
    rw [silent, List.append_nil, ← ends, ← Ne, ← dropReturn_eq_self_iff]
    constructor
    · intro begins
      -- a line that has lost a character is shorter than the heading
      refine (dropReturn_cases operation.heading).resolve_right fun longer => ?_
      have length := congrArg List.length longer
      rw [List.length_append, List.length_singleton] at length
      have within := begins.length_le
      omega
    · intro same
      rw [same]
  · have kept : dropReturn (operation.heading ++ operation.told) =
        operation.heading ++ operation.told := by
      rw [dropReturn_eq_self_iff, List.getLast?_append_of_ne_nil operation.heading silent]
      intro ends
      have visible : isBlank '\r' = false := visible_getLast?_told '\r' ends
      revert visible
      decide
    rw [kept]
    exact iff_of_true (List.prefix_append _ _) fun ends => silent ends.1

/-! ## 3. Lines of the catalog -/

theorem toList_catalog (operations : List Operation) :
    (catalog operations).toList =
      (operations.map fun operation => operation.catalogLine.toList).flatMap (· ++ ['\n']) := by
  simp [catalog, String.toList_join, List.flatMap_map]

/-- **How many lines a catalog has**: one for each operation and one for each line feed in the lines
of the operations. -/
theorem length_lines_catalog (operations : List Operation) :
    (lines (catalog operations).toList).length = operations.length +
      (operations.flatMap fun operation => operation.catalogLine.toList).count '\n' := by
  rw [toList_catalog, lines_ended, List.length_map]
  induction operations with
  | nil => rfl
  | cons first rest ih =>
    rw [List.map_cons, List.flatMap_cons, List.length_append, ih, length_splitAtChar,
      List.flatMap_cons, List.count_append, List.length_cons]
    omega

theorem length_lines_catalog_iff :
    (lines (catalog operations).toList).length = operations.length ↔
      ∀ operation ∈ operations, operation.StaysOnLine := by
  rw [length_lines_catalog, Nat.add_eq_left, List.count_eq_zero, List.mem_flatMap]
  simp only [not_exists, not_and, feed_notMem_catalogLine_iff]

/-- Where every operation stays on its line, the lines of the catalog are theirs. -/
theorem lines_catalog (stay : ∀ operation ∈ operations, operation.StaysOnLine) :
    lines (catalog operations).toList =
      operations.map fun operation => dropReturn operation.catalogLine.toList := by
  have alone : ∀ operation ∈ operations, splitAtChar '\n' operation.catalogLine.toList =
      [operation.catalogLine.toList] := fun operation ho =>
    splitAtChar_eq_singleton (feed_notMem_catalogLine_iff.mpr (stay operation ho))
  rw [toList_catalog, lines_ended, List.flatMap_map, List.flatMap_congr alone,
    ← List.map_eq_flatMap, List.map_map]
  rfl

/-- **When a catalog lists each operation on a line of its own.** It has as many lines as there are
operations just if no path, no id and no trimmed summary holds a line feed. Each of these lines
begins with the verb, the path and the id of its operation just if, beyond that, no line ends with
an id that ends in a carriage return. -/
theorem catalog_lists_iff (operations : List Operation) :
    ((lines (catalog operations).toList).length = operations.length ↔
        ∀ operation ∈ operations, operation.StaysOnLine) ∧
      (List.Forall₂ (fun operation line => operation.heading <+: line) operations
          (lines (catalog operations).toList) ↔
        ∀ operation ∈ operations, operation.StaysOnLine ∧ ¬operation.EndsInReturn) := by
  refine ⟨length_lines_catalog_iff, ?_⟩
  constructor
  · intro listed
    have stay := length_lines_catalog_iff.mp listed.length_eq.symm
    rw [lines_catalog stay, List.forall₂_map_right_iff, List.forall₂_same] at listed
    exact fun operation ho => ⟨stay operation ho, begins_dropReturn_iff.mp (listed operation ho)⟩
  · intro h
    rw [lines_catalog fun operation ho => (h operation ho).1, List.forall₂_map_right_iff,
      List.forall₂_same]
    exact fun operation ho => begins_dropReturn_iff.mpr (h operation ho).2

/-- A document with one operation at `/pets`, and its summary. -/
def summarizedDocument (summary : String) : Document where
  openapi := none
  info := ⟨"Pets", "1", none⟩
  servers := []
  paths := [⟨"/pets", ⟨some ⟨some "listPets", some summary, [], [], none, .empty⟩,
    none, none, none, none, []⟩⟩]
  schemas := .empty

/-- A summary of two lines makes two lines of the catalog for one operation. -/
theorem long_summary_listed_twice :
    ∃ operations, (summarizedDocument "List\nall pets").operations none = .ok operations ∧
      operations.length = 1 ∧
      lines (catalog operations).toList =
        ["GET    /pets listPets: List".toList, "all pets".toList] ∧
      ¬List.Forall₂ (fun operation line => operation.heading <+: line) operations
        (lines (catalog operations).toList) := by
  have listed : lines (catalog ((summarizedDocument "List\nall pets").extract none)).toList =
      ["GET    /pets listPets: List".toList, "all pets".toList] := by decide +kernel
  refine ⟨_, rfl, rfl, listed, fun each => ?_⟩
  have length := each.length_eq
  rw [listed] at length
  cases length

end Covenant.Contract
