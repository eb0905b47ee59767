import Covenant.Proofs.Files.Names
import Covenant.Proofs.Files.Vacant
/-!
# What a write makes new

* `FileTree.Tidy` is what a tree of files looks like on a disk: the names in each folder rise, and a
  file can have each. Whatever is written or removed, a tidy tree stays tidy
  (`ensures_writeFile_tidy`).
* `ensures_writeFile_fresh`: after a file was written, a file at any other place was there before.
-/

namespace Covenant.Files

open Covenant.Text Covenant.Files.Path Workspace

/-! ## 1. Tidy trees -/

/-- The names in one folder: a file or a folder can have each, and they rise. -/
structure AreTidyNames (names : List String) : Prop where
  rise : NamesRise names
  named : ∀ name ∈ names, IsFileName name

namespace FileTree

variable {α : Type} {tree new child : FileTree α} {name : String} {place : Place}

/-- A tree as it can lie on a disk. -/
abbrev Tidy (tree : FileTree α) : Prop := tree.Every AreTidyNames

theorem Tidy.proper (h : tree.Tidy) : tree.Proper :=
  h.mono fun names tidy => ⟨nodup_of_namesRise names tidy.rise, tidy.named⟩

theorem Tidy.isFileName (h : tree.Tidy) (hc : tree.child? name = some child) :
    IsFileName name := by
  have there : tree.at? [name] = some child := by simp [at?, hc]
  exact h.proper.isFileName there name List.mem_cons_self

theorem tidy_withChild (h : tree.Tidy) (named : IsFileName name) (hc : child.Tidy) :
    (tree.withChild name child).Tidy := by
  cases h with
  | file content => exact .file content
  | @folder entries names below =>
    have rising : Rising (insertPair name child entries) :=
      rising_insertPair (namesRise_iff.mp names.rise)
    refine .folder ⟨namesRise_iff.mpr rising, fun other ho => ?_⟩ fun entry he => ?_
    · obtain ⟨entry, he, rfl⟩ := List.mem_map.mp ho
      rcases mem_insertPair he with rfl | he
      · exact named
      · exact names.named _ (List.mem_map_of_mem he)
    · rcases mem_insertPair he with rfl | he
      · exact hc
      · exact below entry he

theorem tidy_withoutChild (h : tree.Tidy) (name : String) : (tree.withoutChild name).Tidy := by
  cases h with
  | file content => exact .file content
  | @folder entries names below =>
    have fewer : (entries.filter (·.1 != name)).Sublist entries := List.filter_sublist
    refine .folder ⟨names.rise.sublist (fewer.map _), fun other ho => ?_⟩ fun entry he => ?_
    · exact names.named other ((fewer.map _).subset ho)
    · exact below entry (fewer.subset he)

/-- **A tidy tree stays tidy when another one is put under a name that a file can have.** -/
theorem tidy_put (h : tree.Tidy) (hn : new.Tidy) (named : IsFileName name) (folder : Place) :
    (tree.put new (folder ++ [name])).Tidy := by
  induction folder generalizing tree with
  | nil => exact tidy_withChild h named hn
  | cons first rest ih =>
    obtain ⟨next, more, split⟩ : ∃ next more, rest ++ [name] = next :: more := by
      cases rest <;> simp
    cases hc : tree.child? first with
    | none => rwa [List.cons_append, split, put, hc]
    | some child =>
      have inner := ih (h.child hc)
      rw [split] at inner
      rw [List.cons_append, split, put, hc]
      exact tidy_withChild h (h.isFileName hc) inner

/-- A tidy tree stays tidy when something is taken away. -/
theorem tidy_erase (h : tree.Tidy) (place : Place) : (tree.erase place).Tidy := by
  induction place generalizing tree with
  | nil => exact h
  | cons first rest ih =>
    cases rest with
    | nil => exact tidy_withoutChild h first
    | cons next more =>
      cases hc : tree.child? first with
      | none => rwa [erase, hc]
      | some child =>
        rw [erase, hc]
        exact tidy_withChild h (h.isFileName hc) (ih (h.child hc))

theorem tidy_empty : (empty : FileTree α).Tidy :=
  .folder ⟨List.Pairwise.nil, fun _ h => nomatch h⟩ fun _ h => nomatch h

end FileTree

/-! ## 2. Names in paths -/

variable {w v : Workspace} {path text : String} {content : ByteArray}

/-- A name in a path that is not too long is one that a file can have. -/
theorem isFileName_of_mem_components (checked : checkPath path = .ok ())
    (h : Component.name text ∈ components path) (short : text.utf8ByteSize ≤ maxName) :
    IsFileName text := by
  refine ⟨isPart_of_mem_components h, fun null => ?_, short⟩
  have inside := (mem_of_mem_splitWhere (mem_pieces_of_mem_components h).1 null).1
  exact (checkPath_eq_ok_iff.mp checked).2.1 inside

theorem isFileName_of_slot {place : Place} (h : w.slot path = .ok place) :
    ∃ folder name, place = folder ++ [name] ∧ IsFileName name := by
  obtain ⟨name, named⟩ := fileName?_of_slot h
  obtain ⟨parts, split⟩ := fileName?_eq_some_iff.mp named
  obtain ⟨checked, short, folder, _, _, rfl⟩ := (slot_eq_ok_iff split).mp h
  exact ⟨folder, name, rfl, isFileName_of_mem_components checked (by simp [split]) short⟩

/-! ## 3. Changes keep a tree tidy -/

/-- A file can be put where a path leads. -/
theorem tidy_put_file {place : Place} (h : v.tree.Tidy) (slot : w.slot path = .ok place)
    (content : ByteArray) : (v.put place (.file content)).tree.Tidy := by
  obtain ⟨folder, name, rfl, named⟩ := isFileName_of_slot slot
  exact FileTree.tidy_put h (.file content) named folder

theorem tidy_of_create (made : w.create path = .ok v) (h : w.tree.Tidy) : v.tree.Tidy := by
  unfold Workspace.create at made
  obtain ⟨place, slot, made⟩ := bind_eq_ok_iff.mp made
  simp only [ite_throw_eq_ok_iff] at made
  obtain ⟨_, _, made⟩ := made
  cases made
  exact tidy_put_file h slot .empty

theorem tidy_of_fill {result : Except FileFault Unit} {place : Place}
    (slot : w.slot path = .ok place) (filled : w.fill path content = (result, v))
    (h : w.tree.Tidy) : v.tree.Tidy := by
  obtain rfl := place_of_slot slot
  have put : ∀ (troubles : List (Option Trouble)) (part : ByteArray),
      (({ w with troubles } : Workspace).put (w.placeOf path) (.file part)).tree.Tidy :=
    fun _ => tidy_put_file h slot
  unfold Workspace.fill at filled
  split at filled
  · cases filled
    exact h
  · cases filled
    exact h
  · rename_i found
    obtain rfl := place_of_find found
    split at filled <;> (cases filled; exact put _ _)

theorem tidy_of_rename {source : String} (moved : w.rename source path = .ok v)
    (h : w.tree.Tidy) : v.tree.Tidy := by
  unfold Workspace.rename at moved
  obtain ⟨⟨old, node⟩, found, moved⟩ := bind_eq_ok_iff.mp moved
  simp only [ite_throw_eq_ok_iff] at moved
  obtain ⟨_, moved⟩ := moved
  obtain ⟨place, slot, moved⟩ := bind_eq_ok_iff.mp moved
  simp only [ite_throw_eq_ok_iff] at moved
  obtain ⟨_, _, moved⟩ := moved
  cases moved
  have there := (find_eq_ok_iff.mp found).2.2.1
  obtain ⟨folder, name, rfl, named⟩ := isFileName_of_slot slot
  exact FileTree.tidy_put (FileTree.tidy_erase h old) (h.at? there) named folder

theorem tidy_of_makeFolders {result : Except FileFault Unit}
    (made : w.makeFolders path = (result, v)) : w.tree.Tidy → v.tree.Tidy := by
  refine (@makeFolders_induct _ _ _ (fun before after => before.Tidy → after.Tidy) (fun _ => id)
    (fun first second => second ∘ first) ?_ _ made).2
  intro tree front text rest split checked short _ tidy
  have within : Component.name text ∈ Path.components path := by simp [split]
  exact FileTree.tidy_put tidy FileTree.tidy_empty
    (isFileName_of_mem_components checked within short) _

theorem ensures_makeParents_tidy (h : w.tree.Tidy) :
    Ensures (makeParents (m := InWorkspace) path) w (fun _ after => after.tree.Tidy)
      (fun _ _ => True) := by
  refine ensures_makeParents_run.imp (fun _ after made => ?_) fun _ _ _ => trivial
  rcases made with rfl | made
  · exact h
  · exact tidy_of_makeFolders made h

theorem ensures_writeBeside_tidy (h : w.tree.Tidy) :
    Ensures (writeBeside (m := InWorkspace) path text content) w
      (fun _ after => after.tree.Tidy) (fun _ _ => True) := by
  refine ensures_writeBeside_run.imp ?_ fun _ _ _ => trivial
  rintro _ _ ⟨_, _, _, _, _, made, filled⟩
  obtain ⟨_, _, _, slot, _⟩ := look_of_create made
  exact tidy_of_fill slot filled (tidy_of_create made h)

/-- **A tidy tree stays tidy when a file is written.** -/
theorem ensures_writeFile_tidy (path : String) (content : ByteArray) (h : w.tree.Tidy) :
    Ensures (writeFile (m := InWorkspace) path content) w (fun _ after => after.tree.Tidy)
      (fun _ _ => True) := by
  simp only [writeFile, ensures_bind, ensures_adapt]
  refine (ensures_makeParents_tidy h).imp (fun _ v parents => ?_) fun _ _ _ => trivial
  cases name : Path.fileName? path with
  | none => exact (ensures_throw _).mpr trivial
  | some text =>
    simp only [ensures_bind, ensures_adapt]
    refine (ensures_writeBeside.and (ensures_writeBeside_tidy parents)).imp
      (fun temporary u made => ?_) fun _ _ _ => trivial
    obtain ⟨⟨_, _, _, reads, _⟩, tidy⟩ := made
    exact (ensures_moveOver name reads).imp (fun _ _ moved => tidy_of_rename moved tidy)
      fun _ _ _ => trivial

/-! ## 4. Other files -/

/-- **After a file was written, a file at any other place was there before.** -/
theorem ensures_writeFile_fresh (content : ByteArray) {place : Place}
    (away : place ≠ w.placeOf path) :
    Ensures (writeFile (m := InWorkspace) path content) w
      (fun _ after => NoNewFile place w.tree after.tree) (fun _ _ => True) := by
  simp only [writeFile, ensures_bind, ensures_adapt]
  refine (ensures_makeParents.and (ensures_makeParents_vacant place)).imp
    (fun _ v parents => ?_) fun _ _ _ => trivial
  obtain ⟨later, vacant⟩ := parents
  cases name : Path.fileName? path with
  | none => exact (ensures_throw _).mpr trivial
  | some text =>
    simp only [ensures_bind, ensures_adapt]
    refine ensures_writeBeside.imp (fun temporary u made => ?_) fun _ _ _ => trivial
    obtain ⟨_, _, beside, reads, looks⟩ := made
    refine (ensures_moveOver name reads).imp (fun _ z moved => vacant.trans ?_)
      fun _ _ _ => trivial
    obtain ⟨_, _, _, looks_moved⟩ := look_of_rename moved reads
    have target : u.placeOf path = w.placeOf path :=
      (beside.placeOf path).trans (later.placeOf path)
    -- the temporary file is gone, and nothing else came beside the path
    intro stored there
    rw [looks_moved, target, if_neg away, beside.placeOf, looks] at there
    split at there
    · cases there
    · exact there

end Covenant.Files
