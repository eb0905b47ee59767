import Covenant.Proofs.Client.Alone
import Covenant.Proofs.Files.Reach
/-!
# Storing a project stays in its folder

* `Confined folder w v`: from `w` to `v` nothing was touched but what lies strictly below the
  folder, except that the folder and those that it lies in were made if they were missing.
* `confined_of_touchesFile`: writing a file under a plain key is confined to the folder.
* `store_confined`: so is storing a project, whether it succeeds or not. If it does, a file under no
  key is there just if it was there before, so that no temporary file is left.
-/

namespace Covenant.Client

open Covenant.Files Covenant.Files.Path Covenant.Text Workspace

variable {w v u : Workspace} {folder key : String}

/-! ## 1. Below a folder -/

/-- The place is below another one, and not this one itself. -/
def IsBelow (root place : Place) : Prop := root <+: place ∧ place ≠ root

theorem isBelow_append {root names : Place} (filled : names ≠ []) : IsBelow root (root ++ names) :=
  ⟨List.prefix_append root names, by simpa using filled⟩

/-- Names lead below the place at which they begin. -/
theorem isBelow_of_mem_passed {root place : Place} {names : List String}
    (h : place ∈ passed root (names.map .name)) : IsBelow root place := by
  induction names generalizing root with
  | nil => cases h
  | cons first rest ih =>
    have child : IsBelow root (root ++ [first]) := isBelow_append (List.cons_ne_nil _ _)
    rcases List.mem_cons.mp h with rfl | later
    · exact child
    · obtain ⟨within, other⟩ := ih later
      refine ⟨child.1.trans within, ?_⟩
      rintro rfl
      exact other (child.1.eq_of_length_le within.length_le)

/-- From one workspace to another, only places strictly below a folder have changed, except for
folders that were made on the way to it. -/
def Confined (folder : String) (w v : Workspace) : Prop :=
  Touches (IsBelow (w.placeOf folder)) (· ∈ w.passes folder) w.tree v.tree

theorem Confined.trans (h : Confined folder w v) (here : v.here = w.here)
    (g : Confined folder v u) : Confined folder w u := by
  unfold Confined at g
  rw [placeOf_congr here, passes_congr here] at g
  exact Touches.trans h g

/-! ## 2. Plain keys -/

/-- A file under a plain key has its parent in the folder, or this is the folder. -/
theorem components_parent_join (folder : String) (h : isPlain key = true) :
    components (parent (join folder key)) =
      components folder ++ (names key).dropLast.map .name := by
  have filled : (names key).map Component.name ≠ [] := by simpa using names_ne_nil h
  rw [components_parent, components_join h, components_of_isPlain h,
    List.dropLast_append_of_ne_nil filled, List.map_dropLast]

/-- **Writing a file under a plain key is confined to the folder.** -/
theorem confined_of_touchesFile (plain : isPlain key = true)
    (h : TouchesFile (join folder key) w v) : Confined folder w v := by
  have parts := components_parent_join folder plain
  have lead : w.placeOf (parent (join folder key)) = w.placeOf folder ++ (names key).dropLast := by
    rw [placeOf, parts, List.foldl_append, foldl_lead_names]
    rfl
  have way : w.passes (parent (join folder key)) =
      w.passes folder ++ passed (w.placeOf folder) ((names key).dropLast.map .name) := by
    rw [passes, parts, passed_append]
    rfl
  unfold TouchesFile at h
  rw [lead, way] at h
  unfold Confined
  refine h.mono (fun place within => ?_) fun place on_the_way => ?_
  · obtain ⟨name, rfl⟩ := within
    rw [List.append_assoc]
    exact isBelow_append (by simp)
  · rcases List.mem_append.mp on_the_way with before | below
    · exact .inr before
    · exact .inl (isBelow_of_mem_passed below)

/-! ## 3. Projects -/

theorem ensures_storeAll_confined (folder : String) (pairs : List (String × String))
    (w : Workspace) :
    Ensures (storeAll (m := InWorkspace) folder pairs) w (fun _ after => Confined folder w after)
      (fun _ after => Confined folder w after) := by
  induction pairs generalizing w with
  | nil => exact (ensures_pure _).mpr (.refl _ _ w.tree)
  | cons pair rest ih =>
    obtain ⟨key, text⟩ := pair
    simp only [storeAll, ensures_bind, ensures_result, ensures_adapt, ensures_pure]
    refine ⟨fun path here => ?_, fun _ _ => .refl _ _ w.tree⟩
    obtain ⟨plain, rfl⟩ := pathIn_eq_ok_iff.mp here
    refine ((ensures_writeFile _ _ w).and (ensures_writeFile_touches _ _ w)).imp
      (fun _ v wrote => ?_) fun _ _ failed => confined_of_touchesFile plain failed.2
    obtain ⟨⟨later, _⟩, touched⟩ := wrote
    have first := confined_of_touchesFile plain touched
    exact (ih v).imp (fun _ _ others => first.trans later.here others)
      fun _ _ others => first.trans later.here others

/-- **Storing a project stays in its folder.** Whether it succeeds or not, whatever was made,
changed or removed lies strictly below the folder, but for the folder itself and those that it lies
in, which were made where nothing stood. If it succeeds, each file that is under no key of the
project was there before and is as it was, and no other file is there. -/
theorem store_confined (folder : String) (files : FileSet) (w : Workspace) :
    Ensures (store (m := InWorkspace) folder files) w
      (fun _ after => Confined folder w after ∧
        ∀ place, ¬placesOf w (filesIn folder files.toList) place → ∀ content,
          after.tree.look place = some (.file content) ↔
            w.tree.look place = some (.file content))
      (fun _ after => Confined folder w after) := by
  have confined := ensures_storeAll_confined folder files.toList w
  refine ⟨fun paths after run => ⟨confined.success paths after run, fun place away content => ?_⟩,
    confined.failure⟩
  obtain ⟨_, _, wrote⟩ := (ensures_storeAll folder files.toList w).success paths after run
  exact ⟨(ensures_storeAll_fresh away).success paths after run content,
    wrote.later.tree.file place content away⟩

end Covenant.Client
