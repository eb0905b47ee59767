import Covenant.Proofs.Files.Replace
/-!
# What a path holds

* `w.Holds path text?`: the path may be written to, and a file with this text stands at its place,
  or nothing does.
* `Holds.read` and `Holds.read_none`: what is read then.
* `Holds.write` and `Holds.remove`: the file can be written and removed, and what every path holds
  after it. What a path holds depends on its place alone.
-/

namespace Covenant.Files

open Workspace

variable {w v : Workspace} {path other text : String} {held found : Option String}

/-! ## 1. A file, or nothing -/

/-- **What a path holds**: a file with this text, or nothing, in a folder that is there. -/
structure Workspace.Holds (w : Workspace) (path : String) (text? : Option String) : Prop where
  slot : w.slot path = .ok (w.placeOf path)
  means : Path.meansFolder path = false
  look : w.tree.look (w.placeOf path) = text?.map (.file ·.toUTF8)

theorem Workspace.Holds.no_folder (h : w.Holds path held) :
    w.tree.look (w.placeOf path) ≠ some .folder := by
  rw [h.look]
  cases held <;> simp

/-- A path still holds something later: what stands at its place then. -/
theorem Workspace.Holds.later {written : Place → Prop} (h : w.Holds path held)
    (later : w.Later written v)
    (look : v.tree.look (w.placeOf path) = found.map (.file ·.toUTF8)) : v.Holds path found := by
  refine ⟨?_, h.means, ?_⟩
  · rw [later.placeOf]
    exact slot_of_later later h.slot
  · rw [later.placeOf, look]

/-! ## 2. Reading -/

section Follow

variable {tree : FileTree ByteArray} {place between : Place} {parts rest : List Component}

/-- A part of a path that can be passed is passed. -/
theorem follow_cons {part : Component} (here : tree.look place = some .folder)
    (passable : part.IsPassable tree place) :
    follow tree place (part :: rest) = follow tree (part.lead place) rest := by
  obtain ⟨entries, folder⟩ := FileTree.look_eq_folder_iff.mp here
  cases part with
  | root | here | up => simp [follow, folder, Component.lead]
  | name text =>
    obtain ⟨short, there⟩ := passable
    obtain ⟨node, child⟩ := Option.isSome_iff_exists.mp (FileTree.look_isSome tree _ ▸ there)
    simp [follow, folder, Component.lead, Nat.not_lt.mpr short, child]

theorem follow_append (h : follow tree place parts = .ok between) :
    follow tree place (parts ++ rest) = follow tree between rest := by
  induction parts generalizing place with
  | nil =>
    obtain rfl : place = between := Except.ok.inj h
    rfl
  | cons part parts ih =>
    obtain ⟨here, passable, onward⟩ := follow_cons_eq_ok_iff.mp h
    rw [List.cons_append, follow_cons here passable, ih onward]

end Follow

theorem Workspace.Holds.find (h : w.Holds path (some text)) :
    w.find path = .ok (w.placeOf path, .file text.toUTF8) := by
  have there : w.tree.look (w.placeOf path) = some (.file text.toUTF8) := h.look
  refine find_eq_ok_iff.mpr ⟨checkPath_of_slot h.slot, follow_of_slot h.slot (by simp [there]),
    FileTree.look_eq_file_iff.mp there, by simp [h.means]⟩

theorem Workspace.Holds.read (h : w.Holds path (some text)) :
    w.read path = .ok text.toUTF8 := by
  rw [Workspace.read, h.find]
  rfl

/-- Where nothing stands, nothing is found. -/
theorem Workspace.Holds.read_none (h : w.Holds path none) : w.read path = .error .notFound := by
  obtain ⟨text, name⟩ := fileName?_of_slot h.slot
  obtain ⟨parts, split⟩ := fileName?_eq_some_iff.mp name
  obtain ⟨checked, short, folder, followed, here, place⟩ := (slot_eq_ok_iff split).mp h.slot
  have free : w.tree.at? (folder ++ [text]) = none := by
    simpa [FileTree.look, place] using h.look
  obtain ⟨entries, node⟩ := FileTree.look_eq_folder_iff.mp here
  have missed : follow w.tree w.here (Path.components path) = .error .notFound := by
    rw [split, follow_append followed]
    simp [follow, node, Nat.not_lt.mpr short, free]
  simp [Workspace.read, Workspace.find, checked, missed, bind, Except.bind]

/-- A file that can be read under its name is held there. -/
theorem holds_of_read (name : Path.fileName? path = some other)
    (h : w.read path = .ok text.toUTF8) : w.Holds path (some text) := by
  obtain ⟨_, means, _, there⟩ := read_eq_ok_iff.mp h
  exact ⟨slot_of_find (find_file_of_read h) name, means, there⟩

/-! ## 3. Changing -/

/-- **A path that holds something can be written to**, and then each path of its place holds the
text. -/
theorem Workspace.Holds.write (h : w.Holds path held) (text : String) :
    ∃ v, w.write path text.toUTF8 = .ok v ∧
      ∀ other found, w.Holds other found →
        v.Holds other (if w.placeOf other = w.placeOf path then some text else found) := by
  have no_folder : ((w.tree.at? (w.placeOf path)).map FileTree.isFolder).getD false = false := by
    rcases there : w.tree.at? (w.placeOf path) with _ | (content | entries)
    · rfl
    · rfl
    · exact absurd (FileTree.look_eq_folder_iff.mpr ⟨entries, there⟩) h.no_folder
  refine ⟨w.put (w.placeOf path) (.file text.toUTF8), ?_, fun other found held => ?_⟩
  · simp [Workspace.write, h.slot, h.means, no_folder, bind, Except.bind, pure, Except.pure]
  · refine held.later (later_put_file h.slot h.no_folder _) ?_
    rw [look_put_file h.slot h.no_folder, held.look]
    split <;> rfl

/-- **A file that is held can be removed**, and then each path of its place holds nothing. -/
theorem Workspace.Holds.remove (h : w.Holds path (some text)) :
    ∃ v, w.remove path = .ok v ∧
      ∀ other found, w.Holds other found →
        v.Holds other (if w.placeOf other = w.placeOf path then none else found) := by
  have removed : w.remove path = .ok { w with tree := w.tree.erase (w.placeOf path) } := by
    simp [Workspace.remove, h.find, FileTree.isFolder, bind, Except.bind, pure, Except.pure]
  have below : w.placeOf path ≠ [] := by
    obtain ⟨folder, name, place, _⟩ := folder_of_slot h.slot
    simp [place]
  refine ⟨_, removed, fun other found held => ?_⟩
  refine held.later (later_of_remove removed) ?_
  rw [FileTree.look_erase_file below h.look, held.look]
  split <;> rfl

/-- A path that holds a file holds one after a file was written as a whole. -/
theorem Workspace.Holds.written {new : String} (h : w.Holds path (some text))
    (later : w.Later (· = w.placeOf other) v) (reads : v.read other = .ok new.toUTF8) :
    v.Holds path (if w.placeOf path = w.placeOf other then some new else some text) := by
  refine h.later later ?_
  split
  · rename_i same
    rw [same, ← later.placeOf]
    exact (read_eq_ok_iff.mp reads).2.2.2
  · rename_i away
    exact later.tree.file _ _ away h.look

end Covenant.Files
