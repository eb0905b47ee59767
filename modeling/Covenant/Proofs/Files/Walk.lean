import Covenant.Proofs.Files.Tree
import Covenant.Proofs.Text.Ordered
import Mathlib.Data.List.Basic
import Mathlib.Data.List.Lex
/-!
# The files of a tree in order

A tree is walked folder by folder. What a walk comes to is said by places alone.

* `Every P tree`: `P` holds of the names in each folder of the tree.
* `mem_files_iff`: where the names in each folder rise, the files of a tree are those that stand at
  its places, and `files_pairwise` says that they come in the order of their places.
* `at?_outline_iff`: what is left of a tree without the folders that are not entered.
* `mem_walk_iff` and `walk_pairwise` put these together for a sorted outline.
-/

namespace Covenant.Files

open Covenant.Text

variable {α β : Type}

/-! ## 1. Names in folders -/

/-- `P` holds of the names in each folder of a tree. -/
inductive FileTree.Every (P : List String → Prop) : FileTree α → Prop
  | file (content : α) : Every P (.file content)
  | folder {entries : List (String × FileTree α)} (names : P (entries.map Prod.fst))
      (below : ∀ entry ∈ entries, Every P entry.2) : Every P (.folder entries)

/-- Names rise. -/
def NamesRise (names : List String) : Prop := names.Pairwise (· < ·)

theorem namesRise_iff {pairs : List (String × α)} :
    NamesRise (pairs.map Prod.fst) ↔ Rising pairs := List.pairwise_map

namespace FileTree

variable {tree : FileTree α} {entries : List (String × FileTree α)} {P Q : List String → Prop}

theorem Every.mono (h : tree.Every P) (weaker : ∀ names, P names → Q names) : tree.Every Q := by
  induction h with
  | file content => exact .file content
  | folder names below ih => exact .folder (weaker _ names) ih

theorem nodup_of_namesRise (names : List String) (h : NamesRise names) : names.Nodup := by
  refine List.Pairwise.imp ?_ h
  rintro name other lt rfl
  exact String.lt_irrefl name lt

/-- What holds in a tree holds in what stands in it. -/
theorem Every.child {child : FileTree α} {name : String} (h : tree.Every P)
    (hc : tree.child? name = some child) : child.Every P := by
  cases h with
  | file content => cases hc
  | folder names below => exact below _ (mem_of_lookup hc)

theorem at?_append (tree : FileTree α) (place rest : Place) :
    tree.at? (place ++ rest) = (tree.at? place).bind (·.at? rest) := by
  induction place generalizing tree with
  | nil => rfl
  | cons name more ih =>
    simp only [List.cons_append, at?]
    cases tree.child? name with
    | none => rfl
    | some child => exact ih child

theorem Every.at? {node : FileTree α} {place : Place} (h : tree.Every P)
    (there : tree.at? place = some node) : node.Every P := by
  induction place generalizing tree with
  | nil =>
    obtain rfl : tree = node := Option.some.inj there
    exact h
  | cons name rest ih =>
    obtain ⟨child, hc, there⟩ := Option.bind_eq_some_iff.mp there
    exact ih (h.child hc) there

/-! ## 2. Files by place -/

theorem mem_filesIn_iff {place : Place} {file : Place × α} :
    file ∈ filesIn place entries ↔
      ∃ entry ∈ entries, file ∈ entry.2.files (place ++ [entry.1]) := by
  induction entries with
  | nil => simp [filesIn]
  | cons first rest ih => simp [filesIn, ih]

/-- **The files of a tree are what stands at its places**, if no folder has a name twice. -/
theorem mem_files_iff (h : tree.Every List.Nodup) {top place : Place} {content : α} :
    (place, content) ∈ tree.files top ↔
      ∃ rest, place = top ++ rest ∧ tree.at? rest = some (.file content) := by
  induction h generalizing top with
  | file stored =>
    simp only [files, List.mem_singleton, Prod.mk.injEq]
    constructor
    · rintro ⟨rfl, rfl⟩
      exact ⟨[], by simp, rfl⟩
    · rintro ⟨rest, rfl, there⟩
      cases rest with
      | nil =>
        cases there
        simp
      | cons name rest => cases there
  | @folder entries names below ih =>
    rw [files, mem_filesIn_iff]
    constructor
    · rintro ⟨⟨name, child⟩, he, hf⟩
      obtain ⟨rest, rfl, there⟩ := (ih _ he).mp hf
      refine ⟨name :: rest, by simp, ?_⟩
      rw [at?, child?, lookup_of_mem names he]
      exact there
    · rintro ⟨rest, rfl, there⟩
      cases rest with
      | nil => cases there
      | cons name rest =>
        obtain ⟨child, hc, there⟩ := Option.bind_eq_some_iff.mp there
        have he := mem_of_lookup hc
        exact ⟨(name, child), he, (ih _ he).mpr ⟨rest, by simp, there⟩⟩

/-- **The files of a tree come in the order of their places**, if the names in each folder rise. -/
theorem files_pairwise (h : tree.Every NamesRise) (top : Place) :
    (tree.files top).Pairwise fun first second => first.1 < second.1 := by
  have distinct : ∀ {node : FileTree α}, node.Every NamesRise → node.Every List.Nodup :=
    fun h => h.mono nodup_of_namesRise
  induction h generalizing top with
  | file content => exact List.pairwise_singleton _ _
  | @folder entries names below ih =>
    rw [files]
    have rising : Rising entries := namesRise_iff.mp names
    clear names
    induction entries with
    | nil => exact List.Pairwise.nil
    | cons first rest more =>
      obtain ⟨name, child⟩ := first
      obtain ⟨above, rising⟩ := List.pairwise_cons.mp rising
      obtain ⟨here, later⟩ := List.forall_mem_cons.mp below
      rw [filesIn]
      refine List.pairwise_append.mpr ⟨ih _ List.mem_cons_self _, ?_, ?_⟩
      · exact more later (fun entry he => ih entry (List.mem_cons_of_mem _ he)) rising
      · -- files of the first entry come before those of any later one by its name
        rintro ⟨place, content⟩ hp ⟨other, stored⟩ ho
        obtain ⟨left, rfl, _⟩ := (mem_files_iff (distinct here)).mp hp
        obtain ⟨⟨next, node⟩, he, ho⟩ := mem_filesIn_iff.mp ho
        obtain ⟨right, rfl, _⟩ := (mem_files_iff (distinct (later _ he))).mp ho
        have step : name :: left < next :: right := List.cons_lt_cons_iff.mpr (.inl (above _ he))
        have behind : top ++ name :: left < top ++ next :: right := List.append_left_lt step
        simpa using behind

/-! ## 3. Sorted trees -/

theorem lookup_sortedEntries (entries : List (String × FileTree α)) (name : String) :
    (sortedEntries entries).lookup name = (entries.lookup name).map sorted := by
  induction entries with
  | nil => rfl
  | cons first rest ih =>
    obtain ⟨other, child⟩ := first
    rw [sortedEntries, TextMap.lookup_insertPair, TextMap.lookup_cons_eq_ite, ih]
    split <;> rfl

/-- Sorting moves nothing to another place. -/
theorem at?_sorted (tree : FileTree α) (place : Place) :
    tree.sorted.at? place = (tree.at? place).map sorted := by
  induction place generalizing tree with
  | nil => rfl
  | cons name rest ih =>
    have child : tree.sorted.child? name = (tree.child? name).map sorted := by
      cases tree with
      | file content => rfl
      | folder entries => exact lookup_sortedEntries entries name
    rw [at?, at?, child]
    cases tree.child? name with
    | none => rfl
    | some node => exact ih node

mutual

/-- The names in each folder of a sorted tree rise. -/
theorem every_sorted : (tree : FileTree α) → tree.sorted.Every NamesRise
  | .file content => .file content
  | .folder entries =>
    have ⟨rising, below⟩ := rising_sortedEntries entries
    .folder (namesRise_iff.mpr rising) below

theorem rising_sortedEntries : (entries : List (String × FileTree α)) →
    Rising (sortedEntries entries) ∧ ∀ entry ∈ sortedEntries entries, entry.2.Every NamesRise
  | [] => ⟨List.Pairwise.nil, fun _ h => nomatch h⟩
  | (name, child) :: rest => by
    obtain ⟨rising, below⟩ := rising_sortedEntries rest
    refine ⟨rising_insertPair rising, fun entry he => ?_⟩
    rcases mem_insertPair he with rfl | he
    · exact every_sorted child
    · exact below entry he

end

/-! ## 4. Outlines -/

variable {enter : String → Bool} {f : α → β}

/-- An entry of an outline is an entry that is no folder or is entered. -/
theorem lookup_outlines (distinct : (entries.map Prod.fst).Nodup) (name : String) :
    (outlines enter f entries).lookup name = (entries.lookup name).bind fun child =>
      if child.isFolder && !enter name then none else some (child.outline enter f) := by
  induction entries with
  | nil => rfl
  | cons first rest ih =>
    obtain ⟨other, child⟩ := first
    obtain ⟨fresh, distinct⟩ := List.nodup_cons.mp distinct
    have ih := ih distinct
    rw [outlines, TextMap.lookup_cons_eq_ite]
    by_cases same : name = other
    · subst same
      have absent : rest.lookup name = none := by
        refine List.lookup_eq_none_iff.mpr fun entry he => ?_
        have there : entry.1 ∈ rest.map Prod.fst := List.mem_map_of_mem he
        simpa using fun e : name = entry.1 => fresh (e ▸ there)
      rw [absent, Option.bind_none] at ih
      rw [if_pos rfl, Option.bind_some]
      split
      · exact ih
      · rw [TextMap.lookup_cons_eq_ite, if_pos rfl]
    · rw [if_neg same]
      split
      · exact ih
      · rw [TextMap.lookup_cons_eq_ite, if_neg same]
        exact ih

/-- **A file is left in the outline of a tree just if each folder below the top on its way is
entered.** -/
theorem at?_outline_iff (h : tree.Every List.Nodup) {place : Place} {content : β} :
    (tree.outline enter f).at? place = some (.file content) ↔
      ∃ stored, tree.at? place = some (.file stored) ∧ f stored = content ∧
        ∀ name ∈ place.dropLast, enter name = true := by
  induction place generalizing tree with
  | nil => cases tree <;> simp [outline, at?]
  | cons name rest ih =>
    cases h with
    | file stored => simp [outline, at?, child?]
    | @folder entries names below =>
      simp only [outline, at?, child?, lookup_outlines names]
      cases hl : entries.lookup name with
      | none => simp
      | some child =>
        have inner := ih (below _ (mem_of_lookup hl))
        simp only [Option.bind_some]
        cases child with
        | file stored =>
          -- nothing stands below a file, so that the name is the last one
          cases rest with
          | nil => simpa [isFolder] using inner
          | cons next more => simp [isFolder, outline, at?, child?]
        | folder children =>
          cases rest with
          | nil => cases enter name <;> simp [isFolder, outline, at?]
          | cons next more =>
            rw [List.dropLast_cons_of_ne_nil (List.cons_ne_nil next more)]
            cases entered : enter name with
            | false => simp [isFolder, entered]
            | true => simpa [isFolder, entered] using inner

/-! ## 5. Walks -/

/-- **What a walk comes to**: the files below folders that are entered. -/
theorem mem_walk_iff (h : tree.Every List.Nodup) {place : Place} {content : β} :
    (place, content) ∈ (tree.outline enter f).sorted.files [] ↔
      ∃ stored, tree.at? place = some (.file stored) ∧ f stored = content ∧
        ∀ name ∈ place.dropLast, enter name = true := by
  rw [mem_files_iff ((every_sorted _).mono nodup_of_namesRise), ← at?_outline_iff h]
  have file_sorted : ∀ node : FileTree β, node.sorted = .file content ↔ node = .file content := by
    intro node
    cases node <;> simp [sorted]
  simp [at?_sorted, file_sorted]

/-- A walk goes in the order of places. -/
theorem walk_pairwise (tree : FileTree β) :
    (tree.sorted.files []).Pairwise fun first second => first.1 < second.1 :=
  files_pairwise (every_sorted tree) []

end FileTree

end Covenant.Files
