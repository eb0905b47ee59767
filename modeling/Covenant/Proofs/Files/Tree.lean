import Covenant.Files.FileTree
/-!
# What stands at the places of a tree

A tree is looked at place by place: `look` says whether a file stands there, and with which content,
or a folder.

* `look_put_leaf` and `look_erase_file`: putting something without entries into a folder changes
  what stands at its place and at no other one, and so does taking a file away.
* `Kept written before after`: folders stay folders, and a file keeps its content unless its place
  is one of those that were written. It is reflexive and transitive, so that what one change keeps
  is kept by any row of changes.
-/

namespace Covenant.Files

variable {α : Type}

/-! ## 1. Looking -/

/-- What stands at a place: a file with its content, or a folder with whatever is in it. -/
inductive Entry (α : Type) where
  | file (content : α)
  | folder

namespace FileTree

/-- The top of a tree. -/
def entry : FileTree α → Entry α
  | .file content => .file content
  | .folder _ => .folder

/-- What stands at a place. -/
def look (tree : FileTree α) (place : Place) : Option (Entry α) := (tree.at? place).map entry

@[simp] theorem look_nil (tree : FileTree α) : tree.look [] = some tree.entry := rfl

theorem look_cons (tree : FileTree α) (name : String) (rest : Place) :
    tree.look (name :: rest) = (tree.child? name).bind (·.look rest) := by
  simp only [look, at?]
  cases tree.child? name <;> rfl

theorem look_of_child? {tree child : FileTree α} {name : String} (h : tree.child? name = some child)
    (rest : Place) : tree.look (name :: rest) = child.look rest := by
  rw [look_cons, h]
  rfl

theorem look_isSome (tree : FileTree α) (place : Place) :
    (tree.look place).isSome = (tree.at? place).isSome := Option.isSome_map

theorem isFolder_iff (tree : FileTree α) : tree.isFolder = true ↔ tree.entry = .folder := by
  cases tree <;> simp [isFolder, entry]

theorem look_eq_file_iff {tree : FileTree α} {place : Place} {content : α} :
    tree.look place = some (.file content) ↔ tree.at? place = some (.file content) := by
  unfold look
  rcases tree.at? place with _ | (other | entries) <;> simp [entry]

theorem look_eq_folder_iff {tree : FileTree α} {place : Place} :
    tree.look place = some .folder ↔ ∃ entries, tree.at? place = some (.folder entries) := by
  unfold look
  rcases tree.at? place with _ | (content | entries) <;> simp [entry]

/-- Only below a folder does anything stand. -/
theorem look_init {tree : FileTree α} (folder : Place) {name : String} {rest : Place}
    (h : (tree.look (folder ++ name :: rest)).isSome) : tree.look folder = some .folder := by
  induction folder generalizing tree with
  | nil =>
    cases tree with
    | file content => simp [look_cons, child?] at h
    | folder entries => rfl
  | cons first more ih =>
    cases hc : tree.child? first with
    | none => simp [look_cons, hc] at h
    | some child =>
      rw [List.cons_append, look_of_child? hc] at h
      rw [look_of_child? hc]
      exact ih h

/-- A tree with a folder in it is a folder. -/
theorem isFolder_of_look {tree : FileTree α} {place : Place} (h : tree.look place = some .folder) :
    tree.isFolder := by
  cases place with
  | nil => exact (isFolder_iff tree).mpr (Option.some.inj h)
  | cons name rest =>
    cases hc : tree.child? name with
    | none => simp [look_cons, hc] at h
    | some child => exact isFolder_of_child? hc

/-! ## 2. Changing -/

@[simp] theorem entry_withChild (tree : FileTree α) (name : String) (child : FileTree α) :
    (tree.withChild name child).entry = tree.entry := by
  cases tree <;> rfl

@[simp] theorem entry_withoutChild (tree : FileTree α) (name : String) :
    (tree.withoutChild name).entry = tree.entry := by
  cases tree <;> rfl

theorem child?_withoutChild_self (tree : FileTree α) (name : String) :
    (tree.withoutChild name).child? name = none := by
  cases tree with
  | file => rfl
  | folder entries =>
    refine List.lookup_eq_none_iff.mpr fun pair hp => ?_
    have kept : pair.1 ≠ name := by simpa using (List.mem_filter.mp hp).2
    simpa using Ne.symm kept

theorem child?_withoutChild_of_ne (tree : FileTree α) {name other : String} (h : other ≠ name) :
    (tree.withoutChild name).child? other = tree.child? other := by
  cases tree with
  | file => rfl
  | folder entries =>
    simp only [withoutChild, child?]
    induction entries with
    | nil => rfl
    | cons pair rest ih =>
      obtain ⟨first, child⟩ := pair
      by_cases same : first = name
      · subst same
        simpa [List.lookup_cons, beq_false_of_ne h] using ih
      · by_cases here : other = first <;> simp [same, here, List.lookup_cons, ih]

/-- Nothing stands below a tree without entries. -/
theorem look_leaf (tree : FileTree α) (leaf : ∀ name, tree.child? name = none) (place : Place) :
    tree.look place = if place = [] then some tree.entry else none := by
  cases place with
  | nil => rfl
  | cons name rest => simp [look_cons, leaf]

/-- What stands below a folder with one of its entries exchanged. -/
theorem look_withChild_cons {tree : FileTree α} (top : tree.isFolder) (name : String)
    (child : FileTree α) (start : String) (others : Place) :
    (tree.withChild name child).look (start :: others) =
      if start = name then child.look others else tree.look (start :: others) := by
  by_cases same : start = name
  · rw [if_pos same, same, look_of_child? (child?_withChild_self top name child)]
  · rw [if_neg same, look_cons, child?_withChild_of_ne tree same, ← look_cons]

/-- What stands below a folder without one of its entries. -/
theorem look_withoutChild_cons (tree : FileTree α) (name start : String) (others : Place) :
    (tree.withoutChild name).look (start :: others) =
      if start = name then none else tree.look (start :: others) := by
  by_cases same : start = name
  · rw [if_pos same, same, look_cons, child?_withoutChild_self, Option.bind_none]
  · rw [if_neg same, look_cons, child?_withoutChild_of_ne tree same, ← look_cons]

/-- If one place of an entry changes, then so does this place of the folder, and no other one. -/
theorem look_withChild_of_look {tree child new : FileTree α} {name : String}
    (hc : tree.child? name = some child) {target : Place} {now : Option (Entry α)}
    (h : ∀ place, new.look place = if place = target then now else child.look place)
    (place : Place) : (tree.withChild name new).look place =
      if place = name :: target then now else tree.look place := by
  cases place with
  | nil => simp
  | cons start others =>
    rw [look_withChild_cons (isFolder_of_child? hc), h]
    by_cases same : start = name
    · simp [same, look_of_child? hc]
    · simp [same]

/-- What is put below an entry is put into this entry. -/
theorem put_below {tree child : FileTree α} {first : String} (hc : tree.child? first = some child)
    (new : FileTree α) (rest : Place) (name : String) :
    tree.put new (first :: (rest ++ [name])) =
      tree.withChild first (child.put new (rest ++ [name])) := by
  obtain ⟨next, more, split⟩ : ∃ next more, rest ++ [name] = next :: more := by
    cases rest <;> simp
  simp only [split, put, hc]

/-- **What putting something without entries into a folder changes**: what stands at its place, and
nothing else, unless a folder stood there. -/
theorem look_put_leaf {tree new : FileTree α} (leaf : ∀ name, new.child? name = none)
    {folder : Place} {name : String} (h : tree.look folder = some .folder)
    (old : tree.look (folder ++ [name]) ≠ some .folder) (place : Place) :
    (tree.put new (folder ++ [name])).look place =
      if place = folder ++ [name] then some new.entry else tree.look place := by
  induction folder generalizing tree place with
  | nil =>
    cases place with
    | nil => simp [put]
    | cons start others =>
      rw [List.nil_append, put, look_withChild_cons (isFolder_of_look h), look_leaf new leaf]
      by_cases same : start = name
      · subst same
        cases others with
        | nil => simp
        | cons next more =>
          -- what stood there before was no folder, so nothing stood below it either
          have below : tree.look (start :: next :: more) = none :=
            Option.eq_none_iff_forall_ne_some.mpr fun e he =>
              old (@look_init _ tree [start] next more (by simp [he]))
          simp [below]
      · simp [same]
  | cons first rest ih =>
    cases hc : tree.child? first with
    | none => simp [look_cons, hc] at h
    | some child =>
      rw [look_of_child? hc] at h
      rw [List.cons_append, look_of_child? hc] at old
      rw [List.cons_append, put_below hc]
      exact look_withChild_of_look hc (ih h old) place

/-- Nothing is put into what is no folder. -/
theorem look_put_of_no_folder {tree : FileTree α} (new : FileTree α) {folder : Place}
    (name : String) (h : tree.look folder ≠ some .folder) (place : Place) :
    (tree.put new (folder ++ [name])).look place = tree.look place := by
  induction folder generalizing tree place with
  | nil =>
    cases tree with
    | file content => rfl
    | folder entries => exact absurd rfl h
  | cons first rest ih =>
    cases hc : tree.child? first with
    | none =>
      obtain ⟨next, more, split⟩ : ∃ next more, rest ++ [name] = next :: more := by
        cases rest <;> simp
      rw [List.cons_append, split, put, hc]
    | some child =>
      rw [look_of_child? hc] at h
      rw [List.cons_append, put_below hc]
      cases place with
      | nil => simp
      | cons start others =>
        rw [look_withChild_cons (isFolder_of_child? hc), ih h, ite_eq_right_iff]
        exact fun same => (same ▸ look_of_child? hc others).symm

/-- **What taking a file away changes**: what stands at its place, and nothing else. -/
theorem look_erase_file {tree : FileTree α} {target : Place} {content : α} (below : target ≠ [])
    (h : tree.look target = some (.file content)) (place : Place) :
    (tree.erase target).look place = if place = target then none else tree.look place := by
  induction target generalizing tree place with
  | nil => exact absurd rfl below
  | cons name rest ih =>
    cases hc : tree.child? name with
    | none => simp [look_cons, hc] at h
    | some child =>
      rw [look_of_child? hc] at h
      cases rest with
      | nil =>
        obtain rfl : child = .file content := by
          cases child <;> simp [entry] at h ⊢
          exact h
        cases place with
        | nil => simp [erase]
        | cons start others =>
          rw [erase, look_withoutChild_cons]
          by_cases same : start = name
          · subst same
            cases others <;> simp [look_of_child? hc, look_leaf (.file content) fun _ => rfl]
          · simp [same]
      | cons next more =>
        simp only [erase, hc]
        exact look_withChild_of_look hc (ih (List.cons_ne_nil _ _) h) place

end FileTree

/-! ## 3. What is kept -/

/-- No place. -/
def nowhere : Place → Prop := fun _ => False

/-- Folders stay folders, and files stay as they are, except those at the places written. -/
structure Kept (written : Place → Prop) (before after : FileTree α) : Prop where
  folder : ∀ place, before.look place = some .folder → after.look place = some .folder
  file : ∀ place content, ¬written place → before.look place = some (.file content) →
    after.look place = some (.file content)

namespace Kept

variable {written more : Place → Prop} {before between after : FileTree α}

theorem refl (written : Place → Prop) (tree : FileTree α) : Kept written tree tree :=
  ⟨fun _ h => h, fun _ _ _ h => h⟩

theorem trans (h : Kept written before between) (g : Kept written between after) :
    Kept written before after :=
  ⟨fun place hp => g.folder place (h.folder place hp),
    fun place content away hp => g.file place content away (h.file place content away hp)⟩

theorem mono (h : Kept written before after) (wider : ∀ place, written place → more place) :
    Kept more before after :=
  ⟨h.folder, fun place content away => h.file place content fun hw => away (wider place hw)⟩

/-- Whatever stood is still there, as it was. -/
theorem of_look (same : ∀ place entry, before.look place = some entry →
    after.look place = some entry) : Kept nowhere before after :=
  ⟨fun place => same place _, fun place _ _ => same place _⟩

/-- A folder made where nothing stood. -/
theorem put_empty {tree : FileTree α} {folder : Place} {name : String}
    (free : tree.look (folder ++ [name]) = none) :
    Kept nowhere tree (tree.put .empty (folder ++ [name])) := by
  by_cases here : tree.look folder = some .folder
  · have leaf : ∀ name, (FileTree.empty : FileTree α).child? name = none := fun _ => rfl
    have vacant : tree.look (folder ++ [name]) ≠ some .folder := by simp [free]
    have looks := FileTree.look_put_leaf leaf here vacant
    refine ⟨fun place hp => ?_, fun place content _ hp => ?_⟩
    · rw [looks]
      split
      · rfl
      · exact hp
    · have apart : place ≠ folder ++ [name] := fun e => by simp [e, free] at hp
      simp [looks, apart, hp]
  · have looks := FileTree.look_put_of_no_folder .empty name here
    exact ⟨fun place hp => by rw [looks, hp], fun place content _ hp => by rw [looks, hp]⟩

/-- Taking a file away. -/
theorem erase_file {tree : FileTree α} {target : Place} {content : α}
    (h : tree.look target = some (.file content)) : Kept (· = target) tree (tree.erase target) := by
  by_cases top : target = []
  · subst top
    exact .refl _ tree
  · have looks := FileTree.look_erase_file top h
    refine ⟨fun place hp => ?_, fun place stored away hp => ?_⟩
    · have apart : place ≠ target := fun e => by simp [e, h] at hp
      simp [looks, apart, hp]
    · simp [looks, away, hp]

end Kept

end Covenant.Files
