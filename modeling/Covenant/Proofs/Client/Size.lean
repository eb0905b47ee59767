import Covenant.Proofs.Client.Setting
import Mathlib.Algebra.GroupWithZero.Nat
/-!
# How large the files of a project are

The templates are short, so a file is only large if some text that comes into it is.

* `size_weave_le`: how large a filled row is, by its outline.
* `size_le_of_slots`: how large a file is at most, by the largest text that comes into a slot.
-/

namespace Covenant.Client

open Covenant.Contract Covenant.Text

/-- How many characters stand in an outline, apart from its slots. -/
def ownLength (outline : Woven) : Nat :=
  (outline.map fun
    | .own text => text.length
    | .taken _ => 0).sum

/-- How many slots stand in an outline. -/
def slotCount (outline : Woven) : Nat :=
  outline.countP fun
    | .own _ => false
    | .taken _ => true

theorem size_ofList_le (text : List Char) :
    (String.ofList text).utf8ByteSize ≤ 4 * text.length := by
  induction text with
  | nil => simp
  | cons c rest ih =>
    have four := c.utf8Size_le_four
    rw [String.ofList_cons, String.utf8ByteSize_append, String.utf8ByteSize_singleton,
      List.length_cons]
    omega

/-- **A filled row is no larger** than its own texts and its slots allow. -/
theorem size_weave_le {into : String → Woven} {row : List Fragment} {most : Nat}
    (slots : ∀ name, .slot name ∈ row → (into name).text.utf8ByteSize ≤ most) :
    (weave into row).text.utf8ByteSize ≤
      4 * ownLength (outline row) + most * slotCount (outline row) := by
  induction row with
  | nil => simp [weave]
  | cons fragment rest ih =>
    have later := ih fun name hn => slots name (List.mem_cons_of_mem _ hn)
    cases fragment with
    | text text =>
      have here := size_ofList_le text.toList
      have split : weave into (.text text :: rest) = .own text.toList :: weave into rest := rfl
      have own : ownLength (outline (.text text :: rest)) =
          text.toList.length + ownLength (outline rest) := rfl
      have same : slotCount (outline (.text text :: rest)) = slotCount (outline rest) := by
        simp [slotCount, outline, weave]
      rw [split, Woven.text_cons, String.utf8ByteSize_append, own, same]
      simp only [Stretch.text]
      omega
    | slot name =>
      have here := slots name List.mem_cons_self
      have split : weave into (.slot name :: rest) = into name ++ weave into rest := rfl
      have same : ownLength (outline (.slot name :: rest)) = ownLength (outline rest) := by
        simp [ownLength, outline, weave]
      have more : slotCount (outline (.slot name :: rest)) = slotCount (outline rest) + 1 := by
        simp [slotCount, outline, weave]
      rw [split, Woven.text_append, String.utf8ByteSize_append, same, more, Nat.mul_succ]
      omega

/-- An outline with few characters and few slots. -/
structure IsShort (outline : Woven) : Prop where
  own : ownLength outline ≤ 8000
  slots : slotCount outline ≤ 24

instance (outline : Woven) : Decidable (IsShort outline) :=
  decidable_of_iff (_ ∧ _) ⟨fun h => ⟨h.1, h.2⟩, fun h => ⟨h.own, h.slots⟩⟩

theorem IsShort.of_spelled {chosen : String → Bool} {template : Template} {woven : Woven}
    (spelled : Spelled chosen template woven) (short : IsShort woven) :
    IsShort (outline (template.row chosen)) := spelled.outline_eq ▸ short

theorem isShort_file (target : Target) (chosen : String → Bool) :
    ∀ template ∈ [target.dialect.templates.entry, target.dialect.templates.client,
      target.dialect.templates.manifest], IsShort (outline (template.row chosen)) := by
  simp only [List.forall_mem_cons]
  refine ⟨?_, ?_, ?_, fun _ none => nomatch none⟩ <;> cases target
  all_goals
    dsimp only [Target.dialect, goDialect, goEntry, goClient, goManifest, javaDialect, javaEntry,
      javaClient, javaManifest, pythonDialect, pythonEntry, pythonClient, pythonManifest,
      rustDialect, rustEntry, rustClient, rustManifest, typeScriptDialect, typeScriptEntry,
      typeScriptClient, typeScriptManifest]
    apply IsShort.of_spelled
    · repeat first | exact .nil | apply Spelled.slot | apply Spelled.text rfl
    · decide +kernel

/-- A file of a project is a filled template. -/
theorem exists_template_of_mem {target : Target} {operations : List Operation}
    {context : EmitContext} {file : String × String}
    (h : file ∈ (weaveProject target operations context).toList) :
    ∃ template ∈ [target.dialect.templates.entry, target.dialect.templates.client,
      target.dialect.templates.manifest],
      file.2 = (weaveFile target operations context template).text := by
  rcases mem_insertPair h with rfl | h
  · exact ⟨_, by simp, rfl⟩
  · rcases mem_insertPair h with rfl | h
    · exact ⟨_, by simp, rfl⟩
    · rcases mem_insertPair h with rfl | h
      · exact ⟨_, by simp, rfl⟩
      · cases h

/-- What comes into a slot of a file. -/
def intoFile (target : Target) (operations : List Operation) (context : EmitContext) :
    String → Woven :=
  boundTo
    (fileBindings target.dialect operations context
      ((methodsOf target.dialect [] operations).map fun method =>
        (method.weave target.dialect context).text))
    (fileParts target operations context)

/-- **How large a file is at most**, if what comes into each slot is no larger than some number of
bytes. -/
theorem size_le_of_slots {target : Target} {operations : List Operation} {context : EmitContext}
    {most : Nat} (slots : ∀ name ∈ ["title", "version", "service_name", "class_name", "base_url",
      "package", "operations", "methods", "aliases"],
      (intoFile target operations context name).text.utf8ByteSize ≤ most) :
    ∀ file ∈ (weaveProject target operations context).toList,
      file.2.utf8ByteSize ≤ 32000 + most * 24 := by
  intro file hf
  obtain ⟨template, ht, text⟩ := exists_template_of_mem hf
  obtain ⟨chosen, woven⟩ : ∃ chosen, weaveFile target operations context template =
      weave (intoFile target operations context) (template.row chosen) := ⟨_, rfl⟩
  have short := isShort_file target chosen template ht
  have each : ∀ name, .slot name ∈ template.row chosen →
      (intoFile target operations context name).text.utf8ByteSize ≤ most := fun name hn =>
    slots name (bound_file target template ht name (mem_slots_of_row hn))
  have size := size_weave_le each
  have all := Nat.mul_le_mul_left most short.slots
  have own := short.own
  rw [text, woven]
  omega

end Covenant.Client
