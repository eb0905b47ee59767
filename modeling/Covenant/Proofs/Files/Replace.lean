import Covenant.Files.Replace
import Covenant.Proofs.Files.Ensures
import Covenant.Proofs.Files.Follow
/-!
# A file is written as a whole

What the changes of a workspace do place by place, and what `writeFile` ensures.

* `Workspace.Later written w v`: in `v` commands run in the same folder as in `w`, and what stood in
  `w` still stands, except at the places written.
* `look_of_create`, `look_of_fill` and `look_of_rename` say what stands where after a change.
* `ensures_createBeside_run` and `ensures_writeBeside_run`: how making a temporary file goes, attempt
  by attempt, and how writing its content goes, which may meet a trouble.
* `ensures_writeFile`: after success the file can be read and holds the content, and nothing else
  that was there has changed; after failure nothing that was there has changed.
-/

namespace Covenant.Files

open Workspace

variable {w v : Workspace} {path source target text : String} {content : ByteArray}

/-! ## 1. Later workspaces -/

/-- Commands run in the same folder, and what stood still stands except at the places written. -/
structure Workspace.Later (written : Place → Prop) (w v : Workspace) : Prop where
  here : v.here = w.here
  tree : Kept written w.tree v.tree

namespace Workspace.Later

variable {written more : Place → Prop} {u : Workspace}

theorem refl (written : Place → Prop) (w : Workspace) : w.Later written w :=
  ⟨rfl, .refl written w.tree⟩

theorem trans (h : w.Later written v) (g : v.Later written u) : w.Later written u :=
  ⟨g.here.trans h.here, h.tree.trans g.tree⟩

theorem mono (h : w.Later written v) (wider : ∀ place, written place → more place) :
    w.Later more v :=
  ⟨h.here, h.tree.mono wider⟩

/-- Where nothing was written, wherever else something may be written later. -/
theorem untouched (h : w.Later nowhere v) (written : Place → Prop) : w.Later written v :=
  h.mono fun _ => False.elim

theorem placeOf (h : w.Later written v) (path : String) : v.placeOf path = w.placeOf path :=
  placeOf_congr h.here path

/-- A file away from the places written reads as before. -/
theorem read (h : w.Later written v) (away : ¬written (w.placeOf path))
    (hr : w.read path = .ok content) : v.read path = .ok content :=
  read_of_kept h.tree h.here hr (h.tree.file _ _ away (read_eq_ok_iff.mp hr).2.2.2)

end Workspace.Later

/-! ## 2. Single changes -/

/-- What may be written to may still be written to later. -/
theorem slot_of_later {written : Place → Prop} {place : Place} (h : w.Later written v)
    (hs : w.slot path = .ok place) : v.slot path = .ok place := by
  obtain ⟨text, name⟩ := fileName?_of_slot hs
  obtain ⟨parts, split⟩ := fileName?_eq_some_iff.mp name
  obtain ⟨checked, short, folder, hf, here, rfl⟩ := (slot_eq_ok_iff split).mp hs
  have still := h.tree.folder folder here
  refine (slot_eq_ok_iff split).mpr ⟨checked, short, folder, ?_, still, rfl⟩
  rw [h.here]
  exact follow_of_kept h.tree hf (by simp [still])

theorem checkPath_of_slot {place : Place} (h : w.slot path = .ok place) :
    checkPath path = .ok () := by
  obtain ⟨text, name⟩ := fileName?_of_slot h
  obtain ⟨parts, split⟩ := fileName?_eq_some_iff.mp name
  exact ((slot_eq_ok_iff split).mp h).1

/-- **What putting a file at a path changes**: what stands at its place, and nothing else. -/
theorem look_put_file {place : Place} (h : w.slot path = .ok place)
    (old : w.tree.look place ≠ some .folder) (content : ByteArray) (other : Place) :
    (w.put place (.file content)).tree.look other =
      if other = place then some (.file content) else w.tree.look other := by
  obtain ⟨folder, name, rfl, here⟩ := folder_of_slot h
  exact FileTree.look_put_leaf (fun _ => rfl) here old other

theorem later_put_file {place : Place} (h : w.slot path = .ok place)
    (old : w.tree.look place ≠ some .folder) (content : ByteArray) :
    w.Later (· = place) (w.put place (.file content)) := by
  refine ⟨rfl, fun other hf => ?_, fun other stored away hf => ?_⟩
  · have apart : other ≠ place := fun e => old (e ▸ hf)
    simp [look_put_file h old, apart, hf]
  · simp [look_put_file h old, away, hf]

/-- A file that was put at a path can be read there. -/
theorem read_put_file {place : Place} (h : w.slot path = .ok place)
    (old : w.tree.look place ≠ some .folder) (means : Path.meansFolder path = false) :
    (w.put place (.file content)).read path = .ok content := by
  have here : (w.put place (.file content)).tree.look place = some (.file content) := by
    simp [look_put_file h old]
  have slot := slot_of_later (later_put_file h old content) h
  have followed := follow_of_slot slot (by simp [here])
  refine read_eq_ok_iff.mpr ⟨checkPath_of_slot h, means, ?_, ?_⟩
  · rw [← place_of_slot slot]
    exact followed
  · rw [← place_of_slot slot]
    exact here

/-- **What making a file changes**: an empty file comes to a place at which nothing stood. -/
theorem look_of_create (h : w.create path = .ok v) :
    w.tree.look (w.placeOf path) = none ∧ v.here = w.here ∧ v.read path = .ok .empty ∧
      v.slot path = .ok (w.placeOf path) ∧ ∀ place, v.tree.look place =
        if place = w.placeOf path then some (.file .empty) else w.tree.look place := by
  unfold Workspace.create at h
  obtain ⟨place, hs, h⟩ := bind_eq_ok_iff.mp h
  obtain rfl := place_of_slot hs
  simp only [ite_throw_eq_ok_iff] at h
  obtain ⟨vacant, means, h⟩ := h
  cases h
  have free : w.tree.look (w.placeOf path) = none := by simpa [FileTree.look] using vacant
  have old : w.tree.look (w.placeOf path) ≠ some .folder := by simp [free]
  exact ⟨free, rfl, read_put_file hs old (by simpa using means),
    slot_of_later (later_put_file hs old .empty) hs, look_put_file hs old .empty⟩

/-- **What writing a content into a file changes**: the file holds the content, or a part of it if
there was a trouble. -/
theorem look_of_fill {old : ByteArray} {result : Except FileFault Unit} {place : Place}
    (slot : w.slot path = .ok place) (reads : w.read path = .ok old)
    (h : w.fill path content = (result, v)) :
    ∃ part, (result = .ok () ∧ part = content ∨ ∃ text, result = .error (.other text)) ∧
      v.here = w.here ∧ v.read path = .ok part ∧ v.slot path = .ok place ∧
      ∀ other, v.tree.look other =
        if other = place then some (.file part) else w.tree.look other := by
  obtain ⟨_, means, _, file⟩ := read_eq_ok_iff.mp reads
  obtain rfl := place_of_slot slot
  have no_folder : w.tree.look (w.placeOf path) ≠ some .folder := by simp [file]
  -- which troubles are to come does not matter for what stands where
  let u : Workspace := { w with troubles := w.troubles.tail }
  have slot_u : u.slot path = .ok (w.placeOf path) := slot
  have put : ∀ part, (u.put (w.placeOf path) (.file part)).here = w.here ∧
      (u.put (w.placeOf path) (.file part)).read path = .ok part ∧
      (u.put (w.placeOf path) (.file part)).slot path = .ok (w.placeOf path) ∧
      ∀ other, (u.put (w.placeOf path) (.file part)).tree.look other =
        if other = w.placeOf path then some (.file part) else w.tree.look other := fun part =>
    ⟨rfl, read_put_file slot_u no_folder means,
      slot_of_later (later_put_file slot_u no_folder part) slot_u,
      look_put_file slot_u no_folder part⟩
  simp only [Workspace.fill, find_file_of_read reads] at h
  split at h
  · cases h
    exact ⟨content, .inl ⟨rfl, rfl⟩, put content⟩
  · rename_i trouble _
    cases h
    exact ⟨_, .inr ⟨trouble.text, rfl⟩, put _⟩

/-- **What making a file and writing a content into it changes.** -/
theorem look_of_create_fill {u : Workspace} {result : Except FileFault Unit}
    (made : w.create path = .ok u) (filled : u.fill path content = (result, v)) :
    ∃ part, (result = .ok () ∧ part = content ∨ ∃ text, result = .error (.other text)) ∧
      w.tree.look (w.placeOf path) = none ∧ v.here = w.here ∧ v.read path = .ok part ∧
      v.slot path = .ok (w.placeOf path) ∧ ∀ place, v.tree.look place =
        if place = w.placeOf path then some (.file part) else w.tree.look place := by
  obtain ⟨free, here, reads, slot, looks⟩ := look_of_create made
  obtain ⟨part, ends, here_filled, reads_filled, slot_filled, looks_filled⟩ :=
    look_of_fill slot reads filled
  refine ⟨part, ends, free, here_filled.trans here, reads_filled, slot_filled, fun place => ?_⟩
  rw [looks_filled]
  split
  · rfl
  · rename_i away
    rw [looks, if_neg away]

/-- Removing takes a file away. -/
theorem erased_of_remove (h : w.remove path = .ok v) :
    ∃ stored, w.tree.look (w.placeOf path) = some (.file stored) ∧
      v = { w with tree := w.tree.erase (w.placeOf path) } := by
  unfold Workspace.remove at h
  obtain ⟨⟨place, node⟩, hf, h⟩ := bind_eq_ok_iff.mp h
  obtain rfl := place_of_find hf
  obtain ⟨_, _, there, _⟩ := find_eq_ok_iff.mp hf
  simp only [ite_throw_eq_ok_iff] at h
  obtain ⟨no_folder, h⟩ := h
  cases h
  obtain ⟨stored, rfl⟩ : ∃ stored, node = .file stored := by
    cases node <;> simp [FileTree.isFolder] at no_folder ⊢
  exact ⟨stored, FileTree.look_eq_file_iff.mpr there, rfl⟩

/-- A file that can be read can be removed. -/
theorem remove_of_read (h : w.read path = .ok content) :
    w.remove path = .ok { w with tree := w.tree.erase (w.placeOf path) } := by
  simp [Workspace.remove, find_file_of_read h, FileTree.isFolder, bind, Except.bind, pure,
    Except.pure]

/-- Removing a file leaves everything else. -/
theorem later_of_remove (h : w.remove path = .ok v) : w.Later (· = w.placeOf path) v := by
  obtain ⟨stored, file, rfl⟩ := erased_of_remove h
  exact ⟨rfl, .erase_file file⟩

/-- Moving takes a file away and puts it where a file may stand. -/
theorem moved_of_rename (h : w.rename source target = .ok v) (hr : w.read source = .ok content) :
    w.tree.look (w.placeOf source) = some (.file content) ∧
      w.slot target = .ok (w.placeOf target) ∧ Path.meansFolder target = false ∧
      w.tree.look (w.placeOf target) ≠ some .folder ∧
      v = { w with tree := w.tree.erase (w.placeOf source) }.put (w.placeOf target)
        (.file content) := by
  unfold Workspace.rename at h
  obtain ⟨⟨place, node⟩, hf, h⟩ := bind_eq_ok_iff.mp h
  obtain rfl := place_of_find hf
  obtain ⟨_, _, followed, file⟩ := read_eq_ok_iff.mp hr
  obtain ⟨_, _, there, _⟩ := find_eq_ok_iff.mp hf
  obtain rfl : .file content = node :=
    Option.some.inj ((FileTree.look_eq_file_iff.mp file).symm.trans there)
  simp only [ite_throw_eq_ok_iff] at h
  obtain ⟨_, h⟩ := h
  obtain ⟨new, hs, h⟩ := bind_eq_ok_iff.mp h
  obtain rfl := place_of_slot hs
  simp only [ite_throw_eq_ok_iff] at h
  obtain ⟨means, no_folder, h⟩ := h
  refine ⟨file, hs, by simpa using means, fun e => ?_, (Except.ok.inj h).symm⟩
  obtain ⟨entries, ht⟩ := FileTree.look_eq_folder_iff.mp e
  simp [ht, FileTree.isFolder] at no_folder

/-- Where a file may be written the top is a folder, so no file is the whole tree. -/
theorem ne_nil_of_slot {place file : Place} (hs : w.slot path = .ok place)
    (h : w.tree.look file = some (.file content)) : file ≠ [] := by
  rintro rfl
  obtain ⟨folder, text, _, here⟩ := folder_of_slot hs
  rw [FileTree.look_nil, (FileTree.isFolder_iff w.tree).mp (FileTree.isFolder_of_look here)] at h
  cases h

/-- **What moving a file changes.** -/
theorem look_of_rename (h : w.rename source target = .ok v) (hr : w.read source = .ok content) :
    w.tree.look (w.placeOf target) ≠ some .folder ∧ v.here = w.here ∧
      v.read target = .ok content ∧ ∀ place, v.tree.look place =
        if place = w.placeOf target then some (.file content)
        else if place = w.placeOf source then none else w.tree.look place := by
  obtain ⟨file, slot, means, old, rfl⟩ := moved_of_rename h hr
  -- the workspace without the file at the source
  let u : Workspace := { w with tree := w.tree.erase (w.placeOf source) }
  have gone : ∀ place, u.tree.look place =
      if place = w.placeOf source then none else w.tree.look place :=
    FileTree.look_erase_file (ne_nil_of_slot slot file) file
  have later : w.Later (· = w.placeOf source) u := ⟨rfl, .erase_file file⟩
  have slot_later := slot_of_later later slot
  have old_later : u.tree.look (w.placeOf target) ≠ some .folder := by
    rw [gone]
    split
    · simp
    · exact old
  refine ⟨old, rfl, read_put_file slot_later old_later means, fun place => ?_⟩
  rw [← gone place]
  exact look_put_file slot_later old_later content place

/-! ## 3. Making folders -/

/-- A folder is made where nothing stands in a folder. -/
theorem of_makeFolder_eq_ok {tree after : FileTree ByteArray} {place : Place}
    {parts : List Component} {last : Component}
    (h : makeFolder tree place parts last = .ok after) :
    ∃ text, last = .name text ∧ text.utf8ByteSize ≤ maxName ∧
      tree.look (parts.foldl Component.lead place ++ [text]) = none ∧
      after = tree.put .empty (parts.foldl Component.lead place ++ [text]) := by
  obtain ⟨folder, reached, h⟩ := bind_eq_ok_iff.mp h
  obtain rfl := eq_of_follow (folderAt_eq_ok_iff.mp reached).1
  cases last with
  | root | here | up => cases h
  | name text =>
    simp only [ite_throw_eq_ok_iff, Nat.not_lt] at h
    obtain ⟨short, vacant, h⟩ := h
    cases h
    exact ⟨text, rfl, short, by simpa [FileTree.look] using vacant, rfl⟩

section Folders

variable {R : FileTree ByteArray → FileTree ByteArray → Prop} {place : Place}

theorem makeLast_induct (refl : ∀ tree, R tree tree) {parts : List Component} {last : Component}
    (made : ∀ (tree : FileTree ByteArray) (text : String), last = .name text →
      text.utf8ByteSize ≤ maxName → tree.look (parts.foldl Component.lead place ++ [text]) = none →
      R tree (tree.put .empty (parts.foldl Component.lead place ++ [text])))
    (tree : FileTree ByteArray) : R tree (makeLast tree place parts last).2 := by
  unfold makeLast
  split
  · rename_i after there
    obtain ⟨text, name, short, free, rfl⟩ := of_makeFolder_eq_ok there
    exact made tree text name short free
  · split <;> exact refl tree

/-- Folders are made one after the other, each where nothing stands. -/
theorem makeFrom_induct (refl : ∀ tree, R tree tree) (trans : ∀ {a b c}, R a b → R b c → R a c)
    {parts : List Component}
    (made : ∀ (tree : FileTree ByteArray) (front : List Component) (text : String)
      (rest : List Component), parts.reverse = front ++ .name text :: rest →
      text.utf8ByteSize ≤ maxName → tree.look (front.foldl Component.lead place ++ [text]) = none →
      R tree (tree.put .empty (front.foldl Component.lead place ++ [text])))
    (tree : FileTree ByteArray) : R tree (makeFrom tree place parts).2 := by
  induction parts generalizing tree with
  | nil => exact refl tree
  | cons last before ih =>
    have here : ∀ tree, R tree (makeLast tree place before.reverse last).2 :=
      makeLast_induct refl fun tree text name => made tree before.reverse text [] (by simp [name])
    have earlier : R tree (makeFrom tree place before).2 :=
      ih (fun tree front text rest split =>
        made tree front text (rest ++ [last]) (by simp [split])) tree
    unfold makeFrom
    split
    · split
      · rename_i between before_made
        rw [before_made] at earlier
        exact trans earlier (here between)
      · exact earlier
    · exact here tree

/-- **What making the folders of a path changes**: what holds of a tree and the tree with a folder
made where nothing stands, and of such steps one after the other. -/
theorem makeFolders_induct (refl : ∀ tree, R tree tree)
    (trans : ∀ {a b c}, R a b → R b c → R a c)
    (made : ∀ (tree : FileTree ByteArray) (front : List Component) (text : String)
      (rest : List Component), Path.components path = front ++ .name text :: rest →
      checkPath path = .ok () → text.utf8ByteSize ≤ maxName →
      tree.look (front.foldl Component.lead w.here ++ [text]) = none →
      R tree (tree.put .empty (front.foldl Component.lead w.here ++ [text])))
    {result : Except FileFault Unit} (h : w.makeFolders path = (result, v)) :
    v.here = w.here ∧ R w.tree v.tree := by
  unfold Workspace.makeFolders at h
  split at h
  · cases h
    exact ⟨rfl, refl w.tree⟩
  · split at h
    · cases h
      exact ⟨rfl, refl w.tree⟩
    · rename_i checked
      cases h
      refine ⟨rfl, makeFrom_induct refl trans (fun tree front text rest split => ?_) w.tree⟩
      exact made tree front text rest (by simpa using split) checked

end Folders

/-- Making the folders of a path changes nothing that is there. -/
theorem later_makeFolders {result : Except FileFault Unit}
    (h : w.makeFolders path = (result, v)) : w.Later nowhere v := by
  obtain ⟨here, kept⟩ := makeFolders_induct (Kept.refl nowhere) Kept.trans
    (fun _ _ _ _ _ _ _ free => Kept.put_empty free) h
  exact ⟨here, kept⟩

/-! ## 4. Writing a file -/

/-- **How making the folders that a path lies in goes**: they are made, if it lies in any. -/
theorem ensures_makeParents_run :
    Ensures (makeParents (m := InWorkspace) path) w
      (fun _ after => after = w ∨ w.makeFolders (Path.parent path) = (.ok (), after))
      (fun fault after => w.makeFolders (Path.parent path) = (.error fault, after)) := by
  simp only [makeParents]
  split
  · exact (ensures_pure _).mpr (.inl rfl)
  · simp only [ensures_makeFolders]
    exact ⟨fun _ => .inr, fun _ _ => id⟩

theorem ensures_makeParents :
    Ensures (makeParents (m := InWorkspace) path) w (fun _ after => w.Later nowhere after)
      (fun _ after => w.Later nowhere after) := by
  refine ensures_makeParents_run.imp (fun _ after made => ?_) fun _ _ => later_makeFolders
  rcases made with rfl | made
  · exact .refl nowhere after
  · exact later_makeFolders made

/-- **How making a temporary file goes.** Nothing has changed but the number of marks when one is
made, or when another fault than a name in use ends the search. -/
theorem ensures_createBeside_run (names : Nat) :
    Ensures (createBeside (m := InWorkspace) path text names) w
      (fun temporary after => ∃ (marks : Nat) (mark : String), '/' ∉ mark.toList ∧
        temporary = temporaryPath path text mark ∧
        ({ w with marks } : Workspace).create temporary = .ok after)
      (fun fault after => ∃ marks, after = { w with marks } ∧
        (fault = .noTemporaryName ∨ ∃ (mark : String) (reason : FileFault), '/' ∉ mark.toList ∧
          fault = .file reason ∧
          after.create (temporaryPath path text mark) = .error reason)) := by
  induction names generalizing w with
  | zero => exact (ensures_throw _).mpr ⟨w.marks, rfl, .inl rfl⟩
  | succ names ih =>
    simp only [createBeside, ensures_bind]
    refine ensures_plain_mark fun mark plain => ?_
    simp only [ensures_run, ensures_create]
    refine ⟨fun after made => ?_, fun fault stuck => ?_⟩
    · exact (ensures_pure _).mpr ⟨w.marks + 1, mark, plain, rfl, made⟩
    · cases fault with
      | alreadyThere => exact ih
      | notFound | notFolder | isFolder | nameTooLong | notText | other =>
        exact (ensures_throw _).mpr ⟨w.marks + 1, rfl, .inr ⟨mark, _, plain, rfl, stuck⟩⟩

/-- Giving up takes the temporary file away. -/
theorem ensures_giveUp (reads : w.read source = .ok content) {fault : FileFault}
    {done : Unit → Workspace → Prop} {failed : FileFault → Workspace → Prop} :
    Ensures (giveUp (m := InWorkspace) source fault) w done failed ↔
      failed fault { w with tree := w.tree.erase (w.placeOf source) } := by
  simp [giveUp, remove_of_read reads]

/-- **How writing a temporary file goes.** It is made and its content written; or none is made, or
it is removed again after a trouble. -/
theorem ensures_writeBeside_run :
    Ensures (writeBeside (m := InWorkspace) path text content) w
      (fun temporary after => ∃ (marks : Nat) (mark : String) (v : Workspace), '/' ∉ mark.toList ∧
        temporary = temporaryPath path text mark ∧
        ({ w with marks } : Workspace).create temporary = .ok v ∧
        v.fill temporary content = (.ok (), after))
      (fun fault after =>
        (∃ marks, after = { w with marks } ∧
          (fault = .noTemporaryName ∨ ∃ (mark : String) (reason : FileFault), '/' ∉ mark.toList ∧
            fault = .file reason ∧
            after.create (temporaryPath path text mark) = .error reason)) ∨
        ∃ (marks : Nat) (temporary : String) (u v : Workspace) (reason : String),
          ({ w with marks } : Workspace).create temporary = .ok u ∧
          u.fill temporary content = (.error (.other reason), v) ∧
          v.remove temporary = .ok after ∧ fault = .file (.other reason)) := by
  simp only [writeBeside, fillTemporary, ensures_bind, ensures_adapt, ensures_tryCatch,
    ensures_fill, ensures_pure]
  refine (ensures_createBeside_run temporaryNames).imp ?_ fun _ _ => .inl
  rintro temporary u ⟨marks, mark, plain, rfl, made⟩
  refine ⟨fun after filled => ⟨marks, mark, u, plain, rfl, made, filled⟩, fun fault v stuck => ?_⟩
  obtain ⟨part, ⟨full, _⟩ | ⟨reason, failed⟩, _, _, reads, _⟩ := look_of_create_fill made stuck
  · cases full
  · cases failed
    rw [ensures_giveUp reads]
    exact .inr ⟨marks, _, u, v, reason, made, stuck, remove_of_read reads, rfl⟩

/-- A temporary file is made with its content where nothing stood, and nothing else changes; or
every place is as it was. -/
theorem ensures_writeBeside :
    Ensures (writeBeside (m := InWorkspace) path text content) w
      (fun temporary after =>
        (∃ mark : String, '/' ∉ mark.toList ∧ temporary = temporaryPath path text mark) ∧
        w.tree.look (w.placeOf temporary) = none ∧ w.Later nowhere after ∧
        after.read temporary = .ok content ∧ ∀ place, after.tree.look place =
          if place = w.placeOf temporary then some (.file content) else w.tree.look place)
      (fun _ after => w.Later nowhere after ∧
        ∀ place, after.tree.look place = w.tree.look place) := by
  refine ensures_writeBeside_run.imp ?_ ?_
  · rintro temporary after ⟨marks, mark, v, plain, rfl, made, filled⟩
    obtain ⟨_, ⟨_, rfl⟩ | ⟨_, failed⟩, free, here, reads, _, looks⟩ :=
      look_of_create_fill made filled
    · refine ⟨⟨mark, plain, rfl⟩, free, ⟨here, .of_look fun place entry there => ?_⟩, reads, looks⟩
      rw [looks, if_neg]
      · exact there
      · rintro rfl
        exact nomatch free.symm.trans there
    · cases failed
  · rintro _ after (⟨marks, rfl, _⟩ | ⟨marks, temporary, u, v, reason, made, filled, removed, rfl⟩)
    · exact ⟨⟨rfl, .refl nowhere w.tree⟩, fun _ => rfl⟩
    · obtain ⟨part, _, free, here, reads, slot, looks⟩ := look_of_create_fill made filled
      obtain ⟨stored, file, rfl⟩ := erased_of_remove removed
      have gone : ∀ place, (v.tree.erase (v.placeOf temporary)).look place = w.tree.look place := by
        intro place
        rw [FileTree.look_erase_file (ne_nil_of_slot slot file) file, ← place_of_slot slot, looks]
        split
        · rename_i same
          rw [same]
          exact free.symm
        · rfl
      exact ⟨⟨here, .of_look fun place entry there => (gone place).trans there⟩, gone⟩

/-- Where a file cannot be moved to a path with a file name, though something is there, a folder
is there. -/
theorem remove_of_rename_error {fault : FileFault} (name : Path.fileName? target = some text)
    (hr : w.read source = .ok content) (stuck : w.rename source target = .error fault)
    (there : w.isThere target = true) : w.remove target = .error .isFolder := by
  unfold Workspace.isThere at there
  cases hf : w.find target with
  | error e => simp [hf, Except.isOk, Except.toBool] at there
  | ok found =>
    obtain ⟨place, node⟩ := found
    have slot := slot_of_find hf name
    obtain ⟨_, _, ht, means⟩ := find_eq_ok_iff.mp hf
    cases node with
    | folder entries => simp [Workspace.remove, hf, FileTree.isFolder, bind, Except.bind, throw,
        throwThe, MonadExceptOf.throw]
    | file old =>
      -- a file could have been moved there
      have found_source := find_file_of_read hr
      have target_means : Path.meansFolder target = false := by
        simpa [FileTree.isFolder] using means
      simp [Workspace.rename, found_source, slot, ht, target_means, FileTree.isFolder, bind,
        Except.bind, pure, Except.pure] at stuck

/-- A file is moved, or else it stays or is removed. -/
theorem ensures_moveOver (name : Path.fileName? path = some text)
    (hr : w.read source = .ok content) :
    Ensures (moveOver (m := InWorkspace) source path) w
      (fun _ after => w.rename source path = .ok after)
      (fun _ after => after = w ∨ w.remove source = .ok after) := by
  simp only [moveOver, ensures_tryCatch, ensures_bind, ensures_rename, ensures_isThere]
  refine ⟨fun after => id, fun fault stuck => ?_⟩
  cases there : w.isThere path with
  | true =>
    have full := remove_of_rename_error name hr stuck there
    simp [full]
  | false =>
    simp only [Bool.false_eq_true, if_false, ensures_giveUp hr]
    exact .inr (remove_of_read hr)

/-- **What writing a file as a whole ensures**: after success the path reads as the content and
nothing else that was there has changed; after failure nothing that was there has changed. -/
theorem ensures_writeFile (path : String) (content : ByteArray) (w : Workspace) :
    Ensures (writeFile (m := InWorkspace) path content) w
      (fun _ after => w.Later (· = w.placeOf path) after ∧ after.read path = .ok content)
      (fun _ after => w.Later nowhere after) := by
  simp only [writeFile, ensures_bind, ensures_adapt]
  refine (ensures_makeParents (w := w)).imp (fun _ v parents => ?_) fun _ _ => id
  cases name : Path.fileName? path with
  | none => exact (ensures_throw _).mpr parents
  | some text =>
    simp only [ensures_bind, ensures_adapt]
    refine ensures_writeBeside.imp (fun temporary u made => ?_)
      fun _ _ failed => parents.trans failed.1
    obtain ⟨_, free, later, reads, looks⟩ := made
    have same : u.placeOf temporary = v.placeOf temporary := later.placeOf temporary
    have beside : ∀ place e, v.tree.look place = some e → place ≠ v.placeOf temporary := by
      rintro place e there rfl
      simp [free] at there
    refine (ensures_moveOver name reads).imp (fun _ z moved => ?_) fun _ z stuck => ?_
    · obtain ⟨no_folder, here, target_reads, looks_moved⟩ := look_of_rename moved reads
      have target : u.placeOf path = w.placeOf path :=
        (later.placeOf path).trans (parents.placeOf path)
      have rest : ∀ place e, v.tree.look place = some e → place ≠ w.placeOf path →
          z.tree.look place = some e := by
        intro place e there apart
        simp [looks_moved, looks, target, same, apart, beside place e there, there]
      refine ⟨(parents.untouched _).trans ⟨here.trans later.here, ?_, ?_⟩, target_reads⟩
      · intro place hp
        refine rest place _ hp fun e => no_folder ?_
        rw [target, ← e]
        exact later.tree.folder place hp
      · exact fun place stored away hp => rest place _ hp away
    · refine parents.trans ?_
      rcases stuck with rfl | removed
      · exact later
      · have kept := (later_of_remove removed).tree
        rw [same] at kept
        refine ⟨(later_of_remove removed).here.trans later.here, fun place hp => ?_,
          fun place stored _ hp => ?_⟩
        · exact kept.folder place (later.tree.folder place hp)
        · exact kept.file place stored (beside place _ hp) (later.tree.file place stored id hp)

end Covenant.Files
