import Covenant.Files.Workspace
import Covenant.Proofs.Files.Tree
import Covenant.Proofs.Result
/-!
# Where paths lead in a workspace

A path leads to one place whatever the tree is, if it leads anywhere: `Workspace.placeOf` goes by
the parts of the path alone.

* `follow_eq_ok_iff`: a path can be followed if everything on the way is a folder and something
  stands at every name.
* `find_eq_ok_iff`, `slot_eq_ok_iff` and `read_eq_ok_iff` say when a path is found, may be written
  to and can be read.
* `read_of_kept`: a file that could be read can be read in a later tree, so long as a file stands
  at its place there.
-/

namespace Covenant.Files

open Workspace

/-! ## 1. Places of paths -/

/-- The place to which one part of a path leads from a place. -/
def Component.lead (place : Place) : Component → Place
  | .root => []
  | .here => place
  | .up => place.dropLast
  | .name text => place ++ [text]

/-- The place to which a path leads from the folder in which commands run. -/
def Workspace.placeOf (w : Workspace) (path : String) : Place :=
  (Path.components path).foldl Component.lead w.here

theorem placeOf_congr {w v : Workspace} (h : v.here = w.here) (path : String) :
    v.placeOf path = w.placeOf path := by
  rw [Workspace.placeOf, Workspace.placeOf, h]

/-- A part of a path can be passed: a name is not too long, and something stands at it. -/
def Component.IsPassable (tree : FileTree ByteArray) (place : Place) : Component → Prop
  | .name text => text.utf8ByteSize ≤ maxName ∧ (tree.look (place ++ [text])).isSome
  | _ => True

variable {tree before after : FileTree ByteArray} {place target : Place}

/-- **When the parts of a path can be followed.** -/
theorem follow_cons_eq_ok_iff {part : Component} {rest : List Component} :
    follow tree place (part :: rest) = .ok target ↔
      tree.look place = some .folder ∧ part.IsPassable tree place ∧
        follow tree (part.lead place) rest = .ok target := by
  rcases ht : tree.at? place with _ | (content | entries)
  · simp [follow, FileTree.look, ht]
  · simp [follow, FileTree.look, ht, FileTree.entry]
  · have here : tree.look place = some .folder := FileTree.look_eq_folder_iff.mpr ⟨entries, ht⟩
    cases part with
    | root | here | up => simp [follow, ht, here, Component.IsPassable, Component.lead]
    | name text =>
      simp only [follow, ht, here, Component.IsPassable, Component.lead, FileTree.look_isSome,
        true_and]
      by_cases long : maxName < text.utf8ByteSize
      · simp [long, Nat.not_le.mpr long]
      · rcases hn : tree.at? (place ++ [text]) with _ | node
        · simp [long]
        · simp [long, Nat.not_lt.mp long]

theorem follow_append_eq_ok_iff {parts rest : List Component} :
    follow tree place (parts ++ rest) = .ok target ↔
      ∃ between, follow tree place parts = .ok between ∧ follow tree between rest = .ok target := by
  induction parts generalizing place with
  | nil => simp [follow]
  | cons part parts ih =>
    simp only [List.cons_append, follow_cons_eq_ok_iff, ih]
    constructor
    · rintro ⟨hf, hp, between, hb, hr⟩
      exact ⟨between, ⟨hf, hp, hb⟩, hr⟩
    · rintro ⟨between, ⟨hf, hp, hb⟩, hr⟩
      exact ⟨hf, hp, between, hb, hr⟩

/-- The place that is reached is the one to which the parts lead. -/
theorem eq_of_follow {parts : List Component} (h : follow tree place parts = .ok target) :
    target = parts.foldl Component.lead place := by
  induction parts generalizing place with
  | nil => exact (Except.ok.inj h).symm
  | cons part parts ih => exact ih (follow_cons_eq_ok_iff.mp h).2.2

/-- What can be followed can be followed in a later tree, if something stands at its end there. -/
theorem follow_of_kept {written : Place → Prop} (kept : Kept written before after)
    {parts : List Component} (h : follow before place parts = .ok target)
    (there : (after.look target).isSome) : follow after place parts = .ok target := by
  induction parts generalizing place with
  | nil => exact h
  | cons part parts ih =>
    obtain ⟨folder, passable, rest⟩ := follow_cons_eq_ok_iff.mp h
    refine follow_cons_eq_ok_iff.mpr ⟨kept.folder place folder, ?_, ih rest⟩
    cases part with
    | root | here | up => trivial
    | name text =>
      refine ⟨passable.1, ?_⟩
      cases parts with
      | nil =>
        obtain rfl : place ++ [text] = target := Except.ok.inj rest
        exact there
      | cons next more =>
        -- the way goes on from here, so this is a folder
        have on_the_way := kept.folder _ (follow_cons_eq_ok_iff.mp rest).1
        rw [Component.lead] at on_the_way
        simp [on_the_way]

/-- A folder is reached where the parts can be followed to one. -/
theorem folderAt_eq_ok_iff {parts : List Component} :
    folderAt tree place parts = .ok target ↔
      follow tree place parts = .ok target ∧ tree.look target = some .folder := by
  rw [folderAt, bind_eq_ok_iff]
  constructor
  · rintro ⟨folder, followed, reached⟩
    split at reached
    · rename_i entries there
      cases reached
      exact ⟨followed, FileTree.look_eq_folder_iff.mpr ⟨entries, there⟩⟩
    · cases reached
    · cases reached
  · rintro ⟨followed, here⟩
    obtain ⟨entries, there⟩ := FileTree.look_eq_folder_iff.mp here
    refine ⟨target, followed, ?_⟩
    rw [there]
    rfl

/-! ## 2. Finding, writing, reading -/

variable {w v : Workspace} {path : String}

theorem find_eq_ok_iff {node : FileTree ByteArray} :
    w.find path = .ok (place, node) ↔
      checkPath path = .ok () ∧ follow w.tree w.here (Path.components path) = .ok place ∧
        w.tree.at? place = some node ∧ (Path.meansFolder path = true → node.isFolder = true) := by
  unfold Workspace.find
  cases hc : checkPath path with
  | error fault => simp [bind, Except.bind]
  | ok =>
    cases hf : follow w.tree w.here (Path.components path) with
    | error fault => simp [bind, Except.bind]
    | ok found =>
      simp only [bind, Except.bind, Except.ok.injEq, true_and]
      rcases hn : w.tree.at? found with _ | other
      · simp only [throw, throwThe, MonadExceptOf.throw, reduceCtorEq, false_iff]
        rintro ⟨rfl, ht, _⟩
        simp [hn] at ht
      · by_cases guard : (Path.meansFolder path && !other.isFolder) = true
        · simp only [guard, if_true, throw, throwThe, MonadExceptOf.throw, reduceCtorEq, false_iff]
          rintro ⟨rfl, ht, means⟩
          obtain rfl := Option.some.inj (hn.symm.trans ht)
          simp_all
        · simp only [guard, Bool.false_eq_true, if_false, pure, Except.pure, Except.ok.injEq,
            Prod.mk.injEq]
          constructor
          · rintro ⟨rfl, rfl⟩
            refine ⟨rfl, hn, fun means => ?_⟩
            simpa [means] using guard
          · rintro ⟨rfl, ht, _⟩
            exact ⟨rfl, Option.some.inj (hn.symm.trans ht)⟩

theorem place_of_find {node : FileTree ByteArray} (h : w.find path = .ok (place, node)) :
    place = w.placeOf path :=
  eq_of_follow (find_eq_ok_iff.mp h).2.1

theorem fileName?_eq_some_iff {text : String} :
    Path.fileName? path = some text ↔
      ∃ parts, Path.components path = parts ++ [.name text] := by
  rw [← List.getLast?_eq_some_iff, Path.fileName?]
  rcases (Path.components path).getLast? with _ | part
  · simp
  · cases part <;> simp

/-- A path that may be written to ends in a name. -/
theorem fileName?_of_slot (h : w.slot path = .ok place) :
    ∃ text, Path.fileName? path = some text := by
  unfold Workspace.slot at h
  obtain ⟨_, _, h⟩ := bind_eq_ok_iff.mp h
  rw [Path.fileName?]
  rcases hl : (Path.components path).getLast? with _ | part
  · simp [hl, throw, throwThe, MonadExceptOf.throw] at h
  · cases part with
    | root | here | up => simp [hl, throw, throwThe, MonadExceptOf.throw] at h
    | name text => exact ⟨text, rfl⟩

/-- **When a path that ends in a name may be written to**: the parts before it lead to a folder. -/
theorem slot_eq_ok_iff {parts : List Component} {text : String}
    (split : Path.components path = parts ++ [.name text]) :
    w.slot path = .ok place ↔
      checkPath path = .ok () ∧ text.utf8ByteSize ≤ maxName ∧ ∃ folder,
        follow w.tree w.here parts = .ok folder ∧ w.tree.look folder = some .folder ∧
        place = folder ++ [text] := by
  simp only [Workspace.slot, bind_eq_ok_iff, split, List.getLast?_concat, List.dropLast_concat,
    folderAt_eq_ok_iff, ite_throw_eq_ok_iff, Nat.not_lt]
  constructor
  · rintro ⟨⟨⟩, checked, folder, ⟨hf, here⟩, short, last⟩
    exact ⟨checked, short, folder, hf, here, (Except.ok.inj last).symm⟩
  · rintro ⟨checked, short, folder, hf, here, rfl⟩
    exact ⟨(), checked, folder, ⟨hf, here⟩, short, rfl⟩

theorem place_of_slot (h : w.slot path = .ok place) : place = w.placeOf path := by
  obtain ⟨text, name⟩ := fileName?_of_slot h
  obtain ⟨parts, split⟩ := fileName?_eq_some_iff.mp name
  obtain ⟨_, _, folder, hf, _, rfl⟩ := (slot_eq_ok_iff split).mp h
  rw [Workspace.placeOf, split, List.foldl_append, ← eq_of_follow hf]
  rfl

/-- The place for something new lies in a folder. -/
theorem folder_of_slot (h : w.slot path = .ok place) :
    ∃ folder text, place = folder ++ [text] ∧ w.tree.look folder = some .folder := by
  obtain ⟨text, name⟩ := fileName?_of_slot h
  obtain ⟨parts, split⟩ := fileName?_eq_some_iff.mp name
  obtain ⟨_, _, folder, _, here, rfl⟩ := (slot_eq_ok_iff split).mp h
  exact ⟨folder, text, rfl, here⟩

/-- What may be written to and is there can be followed. -/
theorem follow_of_slot (h : w.slot path = .ok place) (there : (w.tree.look place).isSome) :
    follow w.tree w.here (Path.components path) = .ok place := by
  obtain ⟨text, name⟩ := fileName?_of_slot h
  obtain ⟨parts, split⟩ := fileName?_eq_some_iff.mp name
  obtain ⟨_, short, folder, hf, here, rfl⟩ := (slot_eq_ok_iff split).mp h
  rw [split]
  refine follow_append_eq_ok_iff.mpr ⟨folder, hf, follow_cons_eq_ok_iff.mpr ⟨here, ?_, rfl⟩⟩
  exact ⟨short, there⟩

/-- What is found under a name may be written to. -/
theorem slot_of_find {node : FileTree ByteArray} {text : String}
    (h : w.find path = .ok (place, node)) (name : Path.fileName? path = some text) :
    w.slot path = .ok place := by
  obtain ⟨parts, split⟩ := fileName?_eq_some_iff.mp name
  obtain ⟨checked, hf, _, _⟩ := find_eq_ok_iff.mp h
  rw [split] at hf
  obtain ⟨folder, hp, last⟩ := follow_append_eq_ok_iff.mp hf
  obtain ⟨here, passable, rest⟩ := follow_cons_eq_ok_iff.mp last
  exact (slot_eq_ok_iff split).mpr
    ⟨checked, passable.1, folder, hp, here, (Except.ok.inj rest).symm⟩

/-- **When a file can be read, and what is read.** -/
theorem read_eq_ok_iff {content : ByteArray} :
    w.read path = .ok content ↔
      checkPath path = .ok () ∧ Path.meansFolder path = false ∧
        follow w.tree w.here (Path.components path) = .ok (w.placeOf path) ∧
        w.tree.look (w.placeOf path) = some (.file content) := by
  unfold Workspace.read
  rw [bind_eq_ok_iff]
  constructor
  · rintro ⟨⟨place, node⟩, hf, hr⟩
    obtain rfl := place_of_find hf
    obtain ⟨checked, followed, there, means⟩ := find_eq_ok_iff.mp hf
    cases node with
    | folder entries => cases hr
    | file other =>
      obtain rfl : other = content := Except.ok.inj hr
      refine ⟨checked, ?_, followed, FileTree.look_eq_file_iff.mpr there⟩
      simpa [FileTree.isFolder] using means
  · rintro ⟨checked, means, followed, there⟩
    refine ⟨(w.placeOf path, .file content), ?_, rfl⟩
    exact find_eq_ok_iff.mpr
      ⟨checked, followed, FileTree.look_eq_file_iff.mp there, by simp [means]⟩

/-- A file that can be read is found. -/
theorem find_file_of_read {content : ByteArray} (h : w.read path = .ok content) :
    w.find path = .ok (w.placeOf path, .file content) := by
  obtain ⟨checked, means, followed, there⟩ := read_eq_ok_iff.mp h
  exact find_eq_ok_iff.mpr
    ⟨checked, followed, FileTree.look_eq_file_iff.mp there, by simp [means]⟩

/-- **What could be read can be read later**, if a file stands at its place then. -/
theorem read_of_kept {written : Place → Prop} (kept : Kept written w.tree v.tree)
    (here : v.here = w.here) {old content : ByteArray} (h : w.read path = .ok old)
    (there : v.tree.look (w.placeOf path) = some (.file content)) : v.read path = .ok content := by
  obtain ⟨checked, means, followed, _⟩ := read_eq_ok_iff.mp h
  rw [read_eq_ok_iff, here, placeOf_congr here]
  exact ⟨checked, means, follow_of_kept kept followed (by simp [there]), there⟩

end Covenant.Files
