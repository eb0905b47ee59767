import Covenant.Proofs.Files.Fresh
/-!
# What writing a file touches

* `Touches reach made before after`: beyond reach every place is as it was, apart from folders made
  where nothing stood. It is reflexive and transitive.
* `Workspace.passes`: the places that a path comes by. Folders are made at them and nowhere else
  (`touches_makeFolders`).
* `components_parent`: the parts of the parent of a path are the parts of the path without the last
  one, so that a file and its temporary file stand in the folder that the parent leads to.
* `ensures_writeFile_touches`: writing a file touches places in this folder only, whether it
  succeeds or not.
-/

namespace Covenant.Files

open Covenant.Text Covenant.Files.Path Workspace

variable {w v : Workspace} {path text source target : String} {content : ByteArray}

/-! ## 1. Touched places -/

/-- From one tree to another, each place beyond reach is as it was, or it is one of those made:
nothing stood there, and now a folder does. -/
def Touches (reach made : Place → Prop) (before after : FileTree α) : Prop :=
  ∀ place, ¬reach place → after.look place = before.look place ∨
    made place ∧ before.look place = none ∧ after.look place = some .folder

namespace Touches

variable {reach made more others : Place → Prop} {before between after : FileTree α}

theorem refl (reach made : Place → Prop) (tree : FileTree α) : Touches reach made tree tree :=
  fun _ _ => .inl rfl

theorem trans (h : Touches reach made before between) (g : Touches reach made between after) :
    Touches reach made before after := by
  intro place away
  rcases h place away with same | ⟨here, free, folder⟩
  · rw [← same]
    exact g place away
  · refine .inr ⟨here, free, ?_⟩
    rcases g place away with same | ⟨_, still_free, _⟩
    · rw [same, folder]
    · rw [folder] at still_free
      cases still_free

theorem mono (h : Touches reach made before after) (wider : ∀ place, reach place → more place)
    (further : ∀ place, made place → more place ∨ others place) :
    Touches more others before after := by
  intro place away
  rcases h place (fun within => away (wider place within)) with same | ⟨here, change⟩
  · exact .inl same
  · exact .inr ⟨(further place here).resolve_left away, change⟩

/-- Only places within reach have changed. -/
theorem of_look (h : ∀ place, ¬reach place → after.look place = before.look place) :
    Touches reach made before after :=
  fun place away => .inl (h place away)

/-- A folder made where nothing stood. -/
theorem put_empty {tree : FileTree α} {folder : Place} {name : String}
    (free : tree.look (folder ++ [name]) = none) :
    Touches nowhere (· = folder ++ [name]) tree (tree.put .empty (folder ++ [name])) := by
  intro place _
  by_cases here : tree.look folder = some .folder
  · have vacant : tree.look (folder ++ [name]) ≠ some .folder := by simp [free]
    rw [FileTree.look_put_leaf (fun _ => rfl) here vacant]
    split
    · rename_i same
      exact .inr ⟨same, same ▸ free, rfl⟩
    · exact .inl rfl
  · exact .inl (FileTree.look_put_of_no_folder .empty name here place)

end Touches

/-! ## 2. Folders on the way -/

/-- The places that parts of a path lead to from a place, one after the other. -/
def passed (place : Place) : List Component → List Place
  | [] => []
  | part :: rest => part.lead place :: passed (part.lead place) rest

/-- The places that a path comes by: the folders that it lies in, and its own. -/
def Workspace.passes (w : Workspace) (path : String) : List Place :=
  passed w.here (components path)

theorem passes_congr (h : v.here = w.here) (path : String) : v.passes path = w.passes path := by
  rw [passes, passes, h]

theorem passed_append (place : Place) (parts more : List Component) :
    passed place (parts ++ more) =
      passed place parts ++ passed (parts.foldl Component.lead place) more := by
  induction parts generalizing place with
  | nil => rfl
  | cons part rest ih => simp [passed, ih]

/-- **Folders are made where a path comes by**, and nothing else is changed. -/
theorem touches_makeFolders {result : Except FileFault Unit}
    (h : w.makeFolders path = (result, v)) :
    Touches nowhere (· ∈ w.passes path) w.tree v.tree := by
  refine (makeFolders_induct (Touches.refl _ _) Touches.trans ?_ h).2
  intro tree front text rest split _ _ free
  refine (Touches.put_empty free).mono (fun _ => id) ?_
  rintro _ rfl
  rw [passes, split, passed_append]
  exact .inr (List.mem_append_right _ List.mem_cons_self)

/-! ## 3. Parents -/

/-- The part may stand after the first one. -/
def Component.IsInner : Component → Prop
  | .up => True
  | .name text => IsPart text
  | _ => False

theorem Component.IsInner.component?_text {part : Component} (h : part.IsInner) :
    component? part.text.toList = some part := by
  cases part with
  | root | here => exact h.elim
  | up => decide
  | name text => exact IsPart.counts h

theorem Component.IsInner.plain {part : Component} (h : part.IsInner) :
    '/' ∉ part.text.toList := by
  cases part with
  | root | here => exact h.elim
  | up => decide
  | name text => exact IsPart.plain h

/-- Parts are read again from what they are written as. -/
theorem partsOf_texts {parts : List Component} (h : ∀ part ∈ parts, part.IsInner) :
    partsOf ((parts.map Component.text).map String.toList) = parts := by
  induction parts with
  | nil => rfl
  | cons part rest ih =>
    obtain ⟨here, later⟩ := List.forall_mem_cons.mp h
    simp [partsOf] at ih ⊢
    simp [here.component?_text, ih later]

/-- **What the parts of a path are**: a first part of its own kind if there is one, and others. -/
theorem exists_inner_components (path : String) : ∃ front inner,
    components path = front ++ inner ∧ (front = [] ∨ front = [.root] ∨ front = [.here]) ∧
      ∀ part ∈ inner, part.IsInner := by
  refine ⟨_, _, components_eq path, ?_, fun part hp => ?_⟩
  · unfold leading
    split <;> simp
  · obtain ⟨piece, _, counted⟩ := List.mem_filterMap.mp hp
    have inside : part ∈ components path := by
      rw [components_eq]
      exact List.mem_append_right _ hp
    cases part with
    | up => trivial
    | name text => exact isPart_of_mem_components inside
    | root | here =>
      unfold component? at counted
      repeat' split at counted
      all_goals cases counted

/-- Such parts are those of the path that is made of them. -/
theorem components_ofComponents {front inner : List Component}
    (first : front = [] ∨ front = [.root] ∨ front = [.here]) (h : ∀ part ∈ inner, part.IsInner) :
    components (ofComponents (front ++ inner)) = front ++ inner := by
  rcases inner with _ | ⟨part, rest⟩
  · rcases first with rfl | rfl | rfl <;> decide +kernel
  · have here := h part List.mem_cons_self
    have counted := here.component?_text
    have start : part.text.toList ≠ [] ∧ part.text.toList ≠ ['.'] := by
      refine ⟨fun e => ?_, fun e => ?_⟩ <;> simp [e, component?] at counted
    have plain : ∀ text ∈ (part :: rest).map Component.text, '/' ∉ text.toList :=
      List.forall_mem_map.mpr fun part hp => (h part hp).plain
    have filled : (part :: rest).map Component.text ≠ [] := by simp
    have pieces := splitAtChar_joinStrings filled plain
    have parts := partsOf_texts h
    rcases first with rfl | rfl | rfl
    · have own : ofComponents ([] ++ part :: rest) =
          joinStrings "/" ((part :: rest).map Component.text) := by
        cases part with
        | root => exact here.elim
        | _ => rfl
      rw [own, components_eq, pieces, parts, List.map_cons, List.map_cons, leading_cons,
        if_neg start.1, if_neg start.2]
    · -- the slash at the start leaves an empty piece before the others
      have text : (ofComponents ([.root] ++ part :: rest)).toList =
          [] ++ '/' :: (joinStrings "/" ((part :: rest).map Component.text)).toList := by
        simp [ofComponents]
      rw [components_eq, text, splitAtChar_append, pieces]
      exact congrArg (Component.root :: ·) parts
    · have own : ofComponents ([.here] ++ part :: rest) =
          joinStrings "/" ("." :: (part :: rest).map Component.text) := rfl
      have all : ∀ text ∈ "." :: (part :: rest).map Component.text, '/' ∉ text.toList :=
        List.forall_mem_cons.mpr ⟨by decide, plain⟩
      rw [own, components_eq, splitAtChar_joinStrings (List.cons_ne_nil _ _) all]
      exact congrArg (Component.here :: ·) parts

/-- **The parent of a path has its parts but the last one.** -/
theorem components_parent (path : String) :
    components (parent path) = (components path).dropLast := by
  obtain ⟨front, inner, parts, first, h⟩ := exists_inner_components path
  rw [parent, parts]
  rcases List.eq_nil_or_concat' inner with rfl | ⟨before, last, rfl⟩
  · have none : (front ++ []).dropLast = [] := by
      rcases first with rfl | rfl | rfl <;> rfl
    rw [none]
    rfl
  · rw [← List.append_assoc, List.dropLast_concat]
    exact components_ofComponents first fun part hp => h part (List.mem_append_left _ hp)

/-- A path with a file name leads to a name in the folder of its parent. -/
theorem placeOf_eq_parent (w : Workspace) (name : fileName? path = some text) :
    w.placeOf path = w.placeOf (parent path) ++ [text] := by
  obtain ⟨parts, split⟩ := fileName?_eq_some_iff.mp name
  rw [placeOf, placeOf, components_parent, split, List.dropLast_concat, List.foldl_append]
  rfl

/-! ## 4. Writing a file -/

/-- What writing a file may touch: the names in the folder of the path. Missing folders are made on
the way to it. -/
def TouchesFile (path : String) (w v : Workspace) : Prop :=
  Touches (fun place => ∃ name, place = w.placeOf (parent path) ++ [name])
    (· ∈ w.passes (parent path)) w.tree v.tree

theorem ensures_makeParents_touches :
    Ensures (makeParents (m := InWorkspace) path) w
      (fun _ after => Touches nowhere (· ∈ w.passes (parent path)) w.tree after.tree)
      (fun _ after => Touches nowhere (· ∈ w.passes (parent path)) w.tree after.tree) := by
  refine ensures_makeParents_run.imp (fun _ after made => ?_) fun _ _ => touches_makeFolders
  rcases made with rfl | made
  · exact .refl _ _ after.tree
  · exact touches_makeFolders made

/-- **Writing a file touches the folder of its path only**, also if it fails. -/
theorem ensures_writeFile_touches (path : String) (content : ByteArray) (w : Workspace) :
    Ensures (writeFile (m := InWorkspace) path content) w (fun _ after => TouchesFile path w after)
      (fun _ after => TouchesFile path w after) := by
  have on_the_way : ∀ {v : Workspace},
      Touches nowhere (· ∈ w.passes (parent path)) w.tree v.tree → TouchesFile path w v :=
    fun made => made.mono (fun _ => False.elim) fun _ => .inr
  simp only [writeFile, ensures_bind, ensures_adapt]
  refine (ensures_makeParents.and ensures_makeParents_touches).imp (fun _ v parents => ?_)
    fun _ _ failed => on_the_way failed.2
  obtain ⟨later, made⟩ := parents
  cases name : fileName? path with
  | none => exact (ensures_throw _).mpr (on_the_way made)
  | some text =>
    simp only [ensures_bind, ensures_adapt]
    refine ensures_writeBeside.imp (fun temporary u beside => ?_) fun _ after failed => ?_
    · obtain ⟨⟨mark, plain, rfl⟩, _, still, reads, looks⟩ := beside
      -- the file and its temporary file have names in one folder
      have temporary : v.placeOf (temporaryPath path text mark) =
          w.placeOf (parent path) ++ [temporaryName text mark] := by
        rw [placeOf_temporaryPath v (slash_notMem_of_fileName? name) plain, later.placeOf]
      have target : v.placeOf path = w.placeOf (parent path) ++ [text] := by
        rw [placeOf_eq_parent v name, later.placeOf]
      have created : TouchesFile path w u := by
        refine (on_the_way made).trans (.of_look fun place away => ?_)
        rw [looks, if_neg fun e => away ⟨_, e.trans temporary⟩]
      refine (ensures_moveOver name reads).imp (fun _ z moved => ?_) fun _ z stuck => ?_
      · obtain ⟨_, _, _, looks_moved⟩ := look_of_rename moved reads
        refine created.trans (.of_look fun place away => ?_)
        rw [looks_moved, still.placeOf, still.placeOf, if_neg fun e => away ⟨_, e.trans target⟩,
          if_neg fun e => away ⟨_, e.trans temporary⟩]
      · rcases stuck with rfl | removed
        · exact created
        · obtain ⟨stored, file, rfl⟩ := erased_of_remove removed
          refine created.trans (.of_look fun place away => ?_)
          rw [still.placeOf, temporary] at file ⊢
          rw [FileTree.look_erase_file (by simp) file, if_neg fun e => away ⟨_, e⟩]
    · exact (on_the_way made).trans (.of_look fun place _ => failed.2 place)

end Covenant.Files
