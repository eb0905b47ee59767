import Covenant.Proofs.Client.Stored
/-!
# Comparing a project with its folder

* `Stand w files`: each file reads as it was generated.
* `ensures_changes`: comparing finds nothing just if the files of the project stand, and it changes
  nothing.
* `ensures_storeAll_again`: files that stand stay while they are written once more, however far
  that gets.
-/

namespace Covenant.Client

open Covenant.Files Covenant.Files.Path

variable {w v : Workspace} {files : List (String × String)} {folder : String}

/-- Each file reads as it was generated. -/
def Stand (w : Workspace) (files : List (String × String)) : Prop :=
  ∀ file ∈ files, w.read file.1 = .ok file.2.toUTF8

/-! ## 1. Comparing -/

/-- Nothing differs just if the file can be where it belongs and reads as it was generated. -/
theorem ensures_changeAt (folder key text : String) (w : Workspace) :
    Ensures (changeAt (m := InWorkspace) folder key text) w
      (fun change after => after = w ∧ isPlain key = true ∧
        (change = none ↔ w.read (join folder key) = .ok text.toUTF8))
      (fun _ after => after = w ∧
        ¬(isPlain key = true ∧ w.read (join folder key) = .ok text.toUTF8)) := by
  simp only [changeAt, ensures_bind, ensures_result]
  by_cases plain : isPlain key = true
  · have here : pathIn folder key = .ok (join folder key) := if_pos plain
    rw [here]
    refine ⟨fun path e => ?_, fun e bad => by cases bad⟩
    cases e
    rw [ensures_run]
    refine (ensures_readText _ w).imp ?_ ?_
    · rintro stored _ ⟨rfl, reads⟩
      refine (ensures_pure _).mpr ⟨rfl, plain, ?_⟩
      by_cases same : stored = text
      · simpa [same] using reads
      · simp [same, reads, String.toByteArray_inj]
    · rintro fault _ ⟨rfl, unread⟩
      cases fault with
      | notFound =>
        exact (ensures_pure _).mpr ⟨rfl, plain, iff_of_false (Option.some_ne_none _) (unread text)⟩
      | alreadyThere | notFolder | isFolder | nameTooLong | notText | other =>
        exact (ensures_throw _).mpr ⟨rfl, fun stands => unread text stands.2⟩
  · have here : pathIn folder key = .error (.badPath key) := if_neg plain
    rw [here]
    exact ⟨fun path good => (by cases good), fun _ _ => ⟨trivial, fun stands => plain stands.1⟩⟩

/-- **Comparing finds nothing just if the files of the project stand**; it fails only if one of
them cannot be compared, and changes nothing. -/
theorem ensures_changes (folder : String) (pairs : List (String × String)) (w : Workspace) :
    Ensures (changesAmong (m := InWorkspace) folder pairs) w
      (fun found after => after = w ∧ (∀ pair ∈ pairs, isPlain pair.1 = true) ∧
        (found = [] ↔ Stand w (filesIn folder pairs)))
      (fun _ after => after = w ∧
        ¬((∀ pair ∈ pairs, isPlain pair.1 = true) ∧ Stand w (filesIn folder pairs))) := by
  induction pairs with
  | nil => exact (ensures_pure _).mpr ⟨rfl, by simp, by simp [filesIn, Stand]⟩
  | cons pair rest ih =>
    obtain ⟨key, text⟩ := pair
    have split : Stand w (filesIn folder ((key, text) :: rest)) ↔
        w.read (join folder key) = .ok text.toUTF8 ∧ Stand w (filesIn folder rest) :=
      List.forall_mem_cons
    simp only [changesAmong, ensures_bind, ensures_pure, split, List.forall_mem_cons]
    refine (ensures_changeAt folder key text w).imp ?_ ?_
    · rintro change _ ⟨rfl, plain, first⟩
      refine ih.imp ?_ ?_
      · rintro found _ ⟨rfl, all, others⟩
        refine ⟨rfl, ⟨plain, all⟩, ?_⟩
        rw [List.append_eq_nil_iff, Option.toList_eq_nil_iff, first, others]
      · rintro e _ ⟨rfl, differs⟩
        exact ⟨rfl, fun stands => differs ⟨stands.1.2, stands.2.2⟩⟩
    · rintro e _ ⟨rfl, differs⟩
      exact ⟨rfl, fun stands => differs ⟨stands.1.1, stands.2.1⟩⟩

/-! ## 2. Writing again -/

/-- Files that stand stay while a file is written that agrees with them. -/
theorem ensures_writeFile_again (stand : Stand w files) {file : String × String}
    (last : IsLast w files file) :
    Ensures (writeFile (m := InWorkspace) file.1 file.2.toUTF8) w
      (fun _ after => Stand after files) (fun _ after => Stand after files) := by
  refine (ensures_writeFile file.1 _ w).imp (fun _ v written => ?_) fun _ v later other ho => ?_
  · obtain ⟨later, reads⟩ := written
    intro other ho
    by_cases same : w.placeOf other.1 = w.placeOf file.1
    · have there := (read_eq_ok_iff.mp reads).2.2.2
      rw [later.placeOf, ← same, ← last other ho same] at there
      exact read_of_kept later.tree later.here (stand other ho) there
    · exact later.read same (stand other ho)
  · exact later.read id (stand other ho)

/-- **Files that stand stay while a project of them is written once more**, also if that fails. -/
theorem ensures_storeAll_again {pairs : List (String × String)}
    (among : ∀ file ∈ filesIn folder pairs, file ∈ files)
    (last : ∀ (v : Workspace), ∀ file ∈ files, IsLast v files file) (stand : Stand w files) :
    Ensures (storeAll (m := InWorkspace) folder pairs) w
      (fun _ after => Stand after files) (fun _ after => Stand after files) := by
  induction pairs generalizing w with
  | nil => exact (ensures_pure _).mpr stand
  | cons pair rest ih =>
    obtain ⟨key, text⟩ := pair
    obtain ⟨first, others⟩ := List.forall_mem_cons.mp among
    simp only [storeAll, ensures_bind, ensures_result, ensures_adapt, ensures_pure]
    refine ⟨fun path here => ?_, fun _ _ => stand⟩
    obtain ⟨_, rfl⟩ := pathIn_eq_ok_iff.mp here
    exact (ensures_writeFile_again stand (last w _ first)).imp
      (fun _ _ stand => ih others stand) fun _ _ => id

end Covenant.Client
