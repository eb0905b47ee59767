import Covenant.Proofs.Files.Reach
/-!
# What a failed write leaves behind

* `OnlyParents path w v`: nothing has changed but for missing folders on the way to the path.
* A fault other than `isFolder` is found before the temporary file is made, or the file is removed
  again, as when its content cannot be written; `isFolder` is found only when the file cannot be
  moved over a folder (`ensures_moveOver_fault`).
* `failed_write_clean_iff`: a failed write leaves nothing behind just if it did not fail for a folder
  at its path; otherwise it leaves its temporary file (`folder_write_leaves_temporary`).
-/

namespace Covenant.Files

open Covenant.Files.Path Covenant.Text Workspace

variable {w v : Workspace} {path source text mark : String} {content : ByteArray}

/-! ## 1. Steps that meet no folder -/

theorem checkPath_ne_isFolder (path : String) : checkPath path ≠ .error .isFolder := by
  unfold checkPath
  split_ifs <;> simp

theorem follow_ne_isFolder (tree : FileTree ByteArray) (place : Place) (parts : List Component) :
    follow tree place parts ≠ .error .isFolder := by
  fun_induction follow tree place parts <;> simp_all

theorem folderAt_ne_isFolder (tree : FileTree ByteArray) (place : Place)
    (parts : List Component) : folderAt tree place parts ≠ .error .isFolder := by
  refine bind_ne_error (follow_ne_isFolder tree place parts) fun folder => ?_
  split <;> exact fun e => nomatch e

theorem slot_ne_isFolder (w : Workspace) (path : String) : w.slot path ≠ .error .isFolder := by
  unfold Workspace.slot
  refine bind_ne_error (checkPath_ne_isFolder path) fun _ => ?_
  dsimp only
  split
  · refine bind_ne_error (folderAt_ne_isFolder _ _ _) fun folder => ?_
    split_ifs <;> exact fun e => nomatch e
  · exact fun e => nomatch e

/-- Making a file meets a folder just if its path means one. -/
theorem create_ne_isFolder (means : meansFolder path = false) :
    w.create path ≠ .error .isFolder := by
  unfold Workspace.create
  refine bind_ne_error (slot_ne_isFolder w path) fun place => ?_
  simp only [means, Bool.false_eq_true, if_false]
  split_ifs <;> exact fun e => nomatch e

theorem meansFolder_of_isPart (h : IsPart text) : meansFolder text = false := by
  have other : text ≠ "." ∧ text ≠ ".." := by
    refine ⟨?_, ?_⟩ <;> (rintro rfl; exact absurd h (by decide +kernel))
  simp [meansFolder, splitAtChar_eq_singleton h.plain, other]

/-- A temporary path does not mean a folder. -/
theorem meansFolder_temporaryPath (plain : '/' ∉ text.toList) (plain_mark : '/' ∉ mark.toList) :
    meansFolder (temporaryPath path text mark) = false := by
  have part := isPart_temporaryName plain plain_mark
  rw [temporaryPath, ← temporaryName]
  cases top : (parent path).isEmpty with
  | true =>
    rw [join, top, Bool.or_true, if_pos rfl]
    exact meansFolder_of_isPart part
  | false =>
    have joined := meansFolder_join top (List.cons_ne_nil _ []) (List.forall_mem_singleton.mpr part)
    simpa [joinStrings] using joined

theorem makeLast_ne_isFolder (tree : FileTree ByteArray) (place : Place) (parts : List Component)
    (last : Component) : (makeLast tree place parts last).1 ≠ .error .isFolder := by
  have made : makeFolder tree place parts last ≠ .error .isFolder := by
    refine bind_ne_error (folderAt_ne_isFolder tree place parts) fun folder => ?_
    cases last with
    | root | here | up => exact fun e => nomatch e
    | name text =>
      dsimp only
      split_ifs <;> exact fun e => nomatch e
  unfold makeLast
  split
  · exact fun e => nomatch e
  · rename_i fault stuck
    split
    · exact fun e => nomatch e
    · exact fun e => made (stuck.trans (congrArg Except.error (Except.error.inj e)))

theorem makeFrom_ne_isFolder (tree : FileTree ByteArray) (place : Place) (parts : List Component) :
    (makeFrom tree place parts).1 ≠ .error .isFolder := by
  induction parts with
  | nil => exact fun e => nomatch e
  | cons last before ih =>
    unfold makeFrom
    split
    · split
      · exact makeLast_ne_isFolder _ place before.reverse last
      · exact ih
    · exact makeLast_ne_isFolder tree place before.reverse last

/-- Folders are made without meeting a folder that is in the way. -/
theorem ensures_makeParents_fault :
    Ensures (makeParents (m := InWorkspace) path) w (fun _ _ => True)
      (fun fault _ => fault ≠ .isFolder) := by
  refine ensures_makeParents_run.imp (fun _ _ _ => trivial) fun fault after made => ?_
  unfold Workspace.makeFolders at made
  split at made
  · cases made
  · split at made
    · rename_i unchecked
      cases made
      exact fun e => checkPath_ne_isFolder _ (e ▸ unchecked)
    · exact fun e => makeFrom_ne_isFolder _ _ _ (e ▸ (Prod.mk.inj made).1)

/-- A temporary file is written, or the fault is another one. -/
theorem ensures_writeBeside_fault (plain : '/' ∉ text.toList) :
    Ensures (writeBeside (m := InWorkspace) path text content) w (fun _ _ => True)
      (fun fault _ => fault ≠ .file .isFolder) := by
  refine ensures_writeBeside_run.imp (fun _ _ _ => trivial) ?_
  rintro _ _ (⟨_, rfl, rfl | ⟨mark, reason, plain_mark, rfl, stuck⟩⟩ |
    ⟨_, _, _, _, _, _, _, _, rfl⟩)
  · simp
  · rintro ⟨⟩
    exact create_ne_isFolder (meansFolder_temporaryPath plain plain_mark) stuck
  · simp

/-! ## 2. Moving over a folder -/

theorem find_ne_isFolder (w : Workspace) (path : String) : w.find path ≠ .error .isFolder := by
  unfold Workspace.find
  refine bind_ne_error (checkPath_ne_isFolder path) fun _ =>
    bind_ne_error (follow_ne_isFolder _ _ _) fun place => ?_
  split
  · exact fun e => nomatch e
  · split_ifs <;> exact fun e => nomatch e

/-- What cannot be removed for being a folder is one. -/
theorem look_of_remove_isFolder (h : w.remove path = .error .isFolder) :
    w.tree.look (w.placeOf path) = some .folder := by
  unfold Workspace.remove at h
  cases found : w.find path with
  | error fault =>
    rw [found] at h
    obtain rfl : fault = .isFolder := Except.error.inj h
    exact absurd found (find_ne_isFolder w path)
  | ok pair =>
    obtain ⟨place, node⟩ := pair
    obtain rfl := place_of_find found
    have there := (find_eq_ok_iff.mp found).2.2.1
    cases node with
    | folder entries => exact FileTree.look_eq_folder_iff.mpr ⟨entries, there⟩
    | file old => simp [found, FileTree.isFolder, bind, Except.bind, pure, Except.pure] at h

/-- A file that cannot be moved for a folder meets it at the path. -/
theorem isThere_of_rename_isFolder (reads : w.read source = .ok content)
    (h : w.rename source path = .error .isFolder) : w.isThere path = true := by
  simp only [Workspace.rename, find_file_of_read reads, bind, Except.bind, FileTree.isFolder,
    Bool.false_eq_true, if_false] at h
  cases slot : w.slot path with
  | error fault =>
    rw [slot] at h
    obtain rfl : fault = .isFolder := Except.error.inj h
    exact absurd slot (slot_ne_isFolder w path)
  | ok place =>
    obtain rfl := place_of_slot slot
    rw [slot] at h
    rcases there : w.tree.at? (w.placeOf path) with _ | (old | entries)
    · cases means : meansFolder path <;> simp [there, means, pure, Except.pure, throw, throwThe,
        MonadExceptOf.throw] at h
    · cases means : meansFolder path <;> simp [there, means, FileTree.isFolder, pure, Except.pure,
        throw, throwThe, MonadExceptOf.throw] at h
    · have followed := follow_of_slot slot (by simp [FileTree.look_isSome, there])
      have found : w.find path = .ok (w.placeOf path, .folder entries) :=
        find_eq_ok_iff.mpr ⟨checkPath_of_slot slot, followed, there, fun _ => rfl⟩
      rw [Workspace.isThere, found]
      rfl

/-- **A file is not moved just over a folder, and then stays; otherwise it is removed.** -/
theorem ensures_moveOver_fault (name : fileName? path = some text)
    (reads : w.read source = .ok content) :
    Ensures (moveOver (m := InWorkspace) source path) w (fun _ _ => True)
      (fun fault after =>
        fault = .isFolder ∧ after = w ∧ w.tree.look (w.placeOf path) = some .folder ∨
        fault ≠ .isFolder ∧ w.remove source = .ok after) := by
  simp only [moveOver, ensures_tryCatch, ensures_bind, ensures_rename, ensures_isThere]
  refine ⟨fun _ _ => trivial, fun fault stuck => ?_⟩
  cases there : w.isThere path with
  | true =>
    have full := remove_of_rename_error name reads stuck there
    simp [full, look_of_remove_isFolder full]
  | false =>
    have other : fault ≠ .isFolder := by
      rintro rfl
      rw [isThere_of_rename_isFolder reads stuck] at there
      cases there
    exact (ensures_giveUp reads).mpr (.inr ⟨other, remove_of_read reads⟩)

/-! ## 3. What is left -/

/-- From one workspace to another nothing has changed, except that folders on the way to a path were
made where nothing stood. -/
def OnlyParents (path : String) (w v : Workspace) : Prop :=
  Touches nowhere (· ∈ w.passes (parent path)) w.tree v.tree

/-- A temporary file with this content was left beside a path, at a place at which nothing stood;
apart from it nothing has changed but for folders on the way to the path. -/
def LeavesTemporary (path : String) (content : ByteArray) (w v : Workspace) : Prop :=
  ∃ name mark : String, fileName? path = some name ∧
    let temporary := w.placeOf (parent path) ++ [temporaryName name mark]
    w.tree.look temporary = none ∧ v.tree.look temporary = some (.file content) ∧
      Touches (· = temporary) (· ∈ w.passes (parent path)) w.tree v.tree

theorem LeavesTemporary.not_onlyParents (h : LeavesTemporary path content w v) :
    ¬OnlyParents path w v := by
  obtain ⟨_, _, _, free, there, _⟩ := h
  intro parents
  rcases parents _ id with same | ⟨_, _, folder⟩
  · rw [free, there] at same
    cases same
  · rw [there] at folder
    cases folder

/-- Where nothing stands later, nothing stood before. -/
theorem Kept.look_eq_none {before after : FileTree α} {place : Place}
    (h : Kept nowhere before after) (free : after.look place = none) :
    before.look place = none := by
  rcases there : before.look place with _ | (stored | _)
  · rfl
  · exact nomatch free.symm.trans (h.file place stored id there)
  · exact nomatch free.symm.trans (h.folder place there)

/-- A write that fails for a folder leaves its temporary file, and any other nothing. -/
theorem ensures_writeFile_leftover (path : String) (content : ByteArray) (w : Workspace) :
    Ensures (writeFile (m := InWorkspace) path content) w (fun _ _ => True)
      (fun fault after => fault ≠ .file .isFolder ∧ OnlyParents path w after ∨
        fault = .file .isFolder ∧ after.tree.look (w.placeOf path) = some .folder ∧
          LeavesTemporary path content w after) := by
  simp only [writeFile, ensures_bind, ensures_adapt]
  refine ((ensures_makeParents.and ensures_makeParents_touches).and ensures_makeParents_fault).imp
    (fun _ v parents => ?_) fun fault after failed => .inl ⟨by simpa using failed.2, failed.1.2⟩
  obtain ⟨⟨later, made⟩, -⟩ := parents
  cases name : fileName? path with
  | none => exact (ensures_throw _).mpr (.inl ⟨by simp, made⟩)
  | some text =>
    have plain := slash_notMem_of_fileName? name
    simp only [ensures_bind, ensures_adapt]
    refine (ensures_writeBeside.and (ensures_writeBeside_fault plain)).imp
      (fun temporary u beside => ?_) fun fault after failed => .inl ⟨failed.2, ?_⟩
    · obtain ⟨⟨⟨mark, plain_mark, rfl⟩, free, still, reads, looks⟩, -⟩ := beside
      have temporary : v.placeOf (temporaryPath path text mark) =
          w.placeOf (parent path) ++ [temporaryName text mark] := by
        rw [placeOf_temporaryPath v plain plain_mark, later.placeOf]
      rw [temporary] at free looks
      refine (ensures_moveOver_fault name reads).imp (fun _ _ _ => trivial) fun fault z stuck => ?_
      rcases stuck with ⟨rfl, rfl, folder⟩ | ⟨other, removed⟩
      · rw [still.placeOf, later.placeOf] at folder
        refine .inr ⟨rfl, folder, text, mark, name, later.tree.look_eq_none free, ?_, ?_⟩
        · rw [looks, if_pos rfl]
        · refine (made.mono (fun _ => False.elim) fun _ => .inr).trans ?_
          refine .of_look fun place away => ?_
          rw [looks, if_neg away]
      · -- the temporary file was made and is gone again
        obtain ⟨stored, file, rfl⟩ := erased_of_remove removed
        refine .inl ⟨by simpa using other, made.trans (.of_look fun place _ => ?_)⟩
        rw [still.placeOf, temporary] at file ⊢
        rw [FileTree.look_erase_file (by simp) file, looks]
        split
        · rename_i same
          rw [same, free]
        · rfl
    · exact made.trans (.of_look fun place _ => failed.1.2 place)

/-- **A failed write leaves nothing behind just if it did not fail for a folder at its path.**
Whatever was there before is there and as it was. For any other fault nothing has come but missing
folders on the way to the path. For that one a folder stands at the path, and the temporary file is
left. -/
theorem failed_write_clean_iff (path : String) (content : ByteArray) (w : Workspace) :
    Ensures (writeFile (m := InWorkspace) path content) w (fun _ _ => True)
      (fun fault after => w.Later nowhere after ∧
        (OnlyParents path w after ↔ fault ≠ .file .isFolder) ∧
        (fault = .file .isFolder → after.tree.look (w.placeOf path) = some .folder ∧
          LeavesTemporary path content w after)) := by
  refine ((ensures_writeFile path content w).and (ensures_writeFile_leftover path content w)).imp
    (fun _ _ _ => trivial) fun fault after failed => ⟨failed.1, ?_⟩
  rcases failed.2 with ⟨other, clean⟩ | ⟨rfl, folder, left⟩
  · exact ⟨iff_of_true clean other, fun e => absurd e other⟩
  · exact ⟨iff_of_false left.not_onlyParents (not_not_intro rfl), fun _ => ⟨folder, left⟩⟩

/-- A content that finds no space leaves nothing. -/
example :
    let trouble : Trouble := ⟨1, "No space left on device (os error 28)"⟩
    let full := { Workspace.empty with troubles := [some trouble] }
    (writeFile (m := InWorkspace) "f" "xy".toUTF8).run.run full =
      (.error (.file (.other trouble.text)), { Workspace.empty with marks := 1 }) := rfl

/-- A workspace with an empty folder `g` in it. -/
def folderWorkspace : Workspace :=
  { Workspace.empty with tree := .folder [("work", .folder [("g", .empty)])] }

/-- **A file that is written over a folder leaves its temporary file.** -/
theorem folder_write_leaves_temporary :
    ∃ after, (writeFile (m := InWorkspace) "g" "x".toUTF8).run.run folderWorkspace =
        (.error (.file .isFolder), after) ∧
      after.tree.look ["work", ".g.tmp.1.0"] = some (.file "x".toUTF8) ∧
      ¬OnlyParents "g" folderWorkspace after := by
  have fails : ((writeFile (m := InWorkspace) "g" "x".toUTF8).run.run folderWorkspace).1 =
      .error (.file .isFolder) := rfl
  refine ⟨_, Prod.ext fails rfl, rfl, ?_⟩
  rcases (ensures_writeFile_leftover "g" _ folderWorkspace).failure _ _ (Prod.ext fails rfl) with
    ⟨other, _⟩ | ⟨_, _, left⟩
  · exact absurd rfl other
  · exact left.not_onlyParents

end Covenant.Files
