import Covenant.Proofs.Files.Path
import Covenant.Proofs.Files.Replace
/-!
# A write that fails makes no file at its path

* `NoNewFile place before after`: a file that stands at the place stood there before, with the same
  content. It is reflexive and transitive, like `Kept`.
* `placeOf_temporaryPath`: a temporary file stands under a name of its own, so it is never the file
  that is to be written (`placeOf_temporaryPath_ne`).
* `ensures_writeFile_vacant`: where a file is not written, none has come to its place.
-/

namespace Covenant.Files

open Covenant.Text Workspace

variable {w v : Workspace} {path text mark : String} {content : ByteArray} {place : Place}

/-! ## 1. Places without a new file -/

/-- A file at the place was there before. -/
def NoNewFile (place : Place) (before after : FileTree α) : Prop :=
  ∀ stored, after.look place = some (.file stored) → before.look place = some (.file stored)

namespace NoNewFile

variable {before between after : FileTree α}

theorem refl (place : Place) (tree : FileTree α) : NoNewFile place tree tree := fun _ there => there

theorem trans (h : NoNewFile place before between) (g : NoNewFile place between after) :
    NoNewFile place before after := fun stored there => h stored (g stored there)

theorem of_look_eq (h : after.look place = before.look place) : NoNewFile place before after :=
  fun _ there => h.symm.trans there

/-- Where nothing was written, the same file stands as before, or none. -/
theorem look_iff (h : NoNewFile place before after) (kept : Kept nowhere before after)
    (stored : α) :
    after.look place = some (.file stored) ↔ before.look place = some (.file stored) :=
  ⟨h stored, kept.file place stored id⟩

/-- A folder is no file. -/
theorem put_empty {tree : FileTree α} {folder : Place} {name : String}
    (free : tree.look (folder ++ [name]) = none) (place : Place) :
    NoNewFile place tree (tree.put .empty (folder ++ [name])) := by
  intro stored there
  by_cases here : tree.look folder = some .folder
  · have vacant : tree.look (folder ++ [name]) ≠ some .folder := by simp [free]
    rw [FileTree.look_put_leaf (fun _ => rfl) here vacant] at there
    split at there
    · cases there
    · exact there
  · rwa [FileTree.look_put_of_no_folder .empty name here] at there

theorem erase_file {tree : FileTree α} {target : Place} {content : α}
    (h : tree.look target = some (.file content)) (place : Place) :
    NoNewFile place tree (tree.erase target) := by
  intro stored there
  by_cases top : target = []
  · subst top
    exact there
  · rw [FileTree.look_erase_file top h] at there
    split at there
    · cases there
    · exact there

end NoNewFile

/-! ## 2. Temporary names -/

/-- A name of a path has no slash in it. -/
theorem slash_notMem_of_fileName? (h : Path.fileName? path = some text) : '/' ∉ text.toList := by
  obtain ⟨parts, split⟩ := fileName?_eq_some_iff.mp h
  have last : Component.name text ∈ Path.components path := by simp [split]
  exact (isPart_of_mem_components last).plain

/-- The name of a temporary file. -/
def temporaryName (text mark : String) : String := "." ++ text ++ ".tmp." ++ mark

theorem isPart_temporaryName (plain : '/' ∉ text.toList) (plain_mark : '/' ∉ mark.toList) :
    IsPart (temporaryName text mark) := by
  have long : 2 < (temporaryName text mark).toList.length := by
    simp [temporaryName]
    omega
  refine isPart_of_ne ?_ ?_ ?_ (by simp [temporaryName, plain, plain_mark]) <;>
    (intro e; simp [e] at long)

/-- **A temporary file stands in the folder of the path that it is for.** -/
theorem placeOf_temporaryPath (w : Workspace) (plain : '/' ∉ text.toList)
    (plain_mark : '/' ∉ mark.toList) :
    w.placeOf (temporaryPath path text mark) =
      w.placeOf (Path.parent path) ++ [temporaryName text mark] := by
  have part := isPart_temporaryName plain plain_mark
  obtain ⟨name, names⟩ := names_eq_singleton part.plain part.counts
  rw [temporaryPath, ← temporaryName, placeOf_join w name, names]

theorem placeOf_temporaryPath_ne (w : Workspace) (name : Path.fileName? path = some text)
    (plain_mark : '/' ∉ mark.toList) :
    w.placeOf (temporaryPath path text mark) ≠ w.placeOf path := by
  rw [placeOf_temporaryPath w (slash_notMem_of_fileName? name) plain_mark]
  obtain ⟨parts, split⟩ := fileName?_eq_some_iff.mp name
  rw [placeOf, placeOf, split, List.foldl_append]
  intro same
  have last : temporaryName text mark = text := by
    simpa using (List.append_inj' same rfl).2
  have longer := congrArg (fun name => name.toList.length) last
  simp [temporaryName] at longer
  omega

/-! ## 3. Failures -/

theorem noNewFile_makeFolders {result : Except FileFault Unit}
    (h : w.makeFolders path = (result, v)) (place : Place) : NoNewFile place w.tree v.tree :=
  (makeFolders_induct (NoNewFile.refl place) NoNewFile.trans
    (fun _ _ _ _ _ _ _ free => NoNewFile.put_empty free place) h).2

theorem ensures_makeParents_vacant (place : Place) :
    Ensures (makeParents (m := InWorkspace) path) w
      (fun _ after => NoNewFile place w.tree after.tree)
      (fun _ after => NoNewFile place w.tree after.tree) := by
  refine ensures_makeParents_run.imp (fun _ after made => ?_) fun _ _ made =>
    noNewFile_makeFolders made place
  rcases made with rfl | made
  · exact .refl place after.tree
  · exact noNewFile_makeFolders made place

theorem noNewFile_of_remove (h : w.remove path = .ok v) (place : Place) :
    NoNewFile place w.tree v.tree := by
  obtain ⟨stored, file, rfl⟩ := erased_of_remove h
  exact .erase_file file place

/-- **Where a file is not written, none has come to its place.** -/
theorem ensures_writeFile_vacant (path : String) (content : ByteArray) (w : Workspace) :
    Ensures (writeFile (m := InWorkspace) path content) w (fun _ _ => True)
      (fun _ after => NoNewFile (w.placeOf path) w.tree after.tree) := by
  simp only [writeFile, ensures_bind, ensures_adapt]
  refine (ensures_makeParents.and (ensures_makeParents_vacant (w.placeOf path))).imp
    (fun _ v parents => ?_) fun _ _ failed => failed.2
  obtain ⟨later, vacant⟩ := parents
  cases name : Path.fileName? path with
  | none => exact (ensures_throw _).mpr vacant
  | some text =>
    simp only [ensures_bind, ensures_adapt]
    refine ensures_writeBeside.imp (fun temporary u made => ?_)
      fun _ after failed => vacant.trans (.of_look_eq (failed.2 _))
    obtain ⟨⟨mark, plain, rfl⟩, _, _, reads, looks⟩ := made
    -- the temporary file stands at another place than the path
    have beside : NoNewFile (w.placeOf path) v.tree u.tree := by
      refine .of_look_eq ?_
      rw [looks, if_neg]
      rw [← later.placeOf path]
      exact (placeOf_temporaryPath_ne v name plain).symm
    refine (ensures_moveOver name reads).imp (fun _ _ _ => trivial) fun _ z stuck => ?_
    rcases stuck with rfl | removed
    · exact vacant.trans beside
    · exact (vacant.trans beside).trans (noNewFile_of_remove removed (w.placeOf path))

end Covenant.Files
