import Covenant.Proofs.Files.Path
import Covenant.Proofs.Files.Walk
/-!
# Files by their names below a folder

* `IsFileName` says which names a file or a folder can have, and `FileTree.Proper` that a tree has
  only such names and none of them twice in a folder.
* `components_joinStrings`: names with slashes between them are a plain path of these names.
* `read_below`: in a proper tree each file below a folder that is found can be read under the names
  that lead to it, so long as the path is not too long.
-/

namespace Covenant.Files

open Covenant.Text Covenant.Files.Path Workspace

/-! ## 1. Names -/

/-- A file or a folder can have the name. -/
@[mk_iff]
structure IsFileName (name : String) : Prop extends IsPart name where
  no_null : '\x00' ∉ name.toList
  short : name.utf8ByteSize ≤ maxName

instance (name : String) : Decidable (IsFileName name) := decidable_of_iff' _ (isFileName_iff name)

/-- The names in one folder: a file or a folder can have each, and none comes twice. -/
def AreFileNames (names : List String) : Prop := names.Nodup ∧ ∀ name ∈ names, IsFileName name

instance (names : List String) : Decidable (AreFileNames names) :=
  inferInstanceAs (Decidable (_ ∧ _))

/-- A tree with names that files and folders can have. -/
abbrev FileTree.Proper (tree : FileTree α) : Prop := tree.Every AreFileNames

theorem FileTree.Proper.distinct {tree : FileTree α} (h : tree.Proper) : tree.Every List.Nodup :=
  h.mono fun _ names => names.1

/-- Every name on the way to something in a proper tree is one that a file can have. -/
theorem FileTree.Proper.isFileName {tree node : FileTree α} {place : Place} (h : tree.Proper)
    (there : tree.at? place = some node) : ∀ name ∈ place, IsFileName name := by
  induction place generalizing tree with
  | nil => exact fun _ h => nomatch h
  | cons first rest ih =>
    obtain ⟨child, hc, there⟩ := Option.bind_eq_some_iff.mp there
    refine List.forall_mem_cons.mpr ⟨?_, ih (h.child hc) there⟩
    cases h with
    | file content => cases hc
    | folder names below =>
      have listed := List.mem_map_of_mem (f := Prod.fst) (mem_of_lookup hc)
      exact names.2 _ listed

section Joined

variable {place : List String} {folder path : String}

theorem joinStrings_toList (place : List String) :
    (joinStrings "/" place).toList = ['/'].intercalate (place.map String.toList) :=
  String.toList_intercalate

theorem splitAtChar_joinStrings (filled : place ≠ [])
    (plain : ∀ name ∈ place, '/' ∉ name.toList) :
    splitAtChar '/' (joinStrings "/" place).toList = place.map String.toList := by
  rw [joinStrings_toList, splitAtChar, splitWhere_eq]
  refine List.splitOn_intercalate '/' (fun piece hp => ?_) (by simpa using filled)
  obtain ⟨name, hn, rfl⟩ := List.mem_map.mp hp
  exact plain name hn

/-- **Names with slashes between them are a path of these names.** -/
theorem components_joinStrings (filled : place ≠ []) (named : ∀ name ∈ place, IsPart name) :
    components (joinStrings "/" place) = place.map .name := by
  rw [components_eq, splitAtChar_joinStrings filled fun name hn => (named name hn).plain]
  have parts : ∀ {names : List String}, (∀ name ∈ names, IsPart name) →
      partsOf (names.map String.toList) = names.map .name := by
    intro names
    induction names with
    | nil => exact fun _ => rfl
    | cons first rest ih =>
      intro named
      obtain ⟨here, later⟩ := List.forall_mem_cons.mp named
      have counted := here.counts
      simp only [partsOf, List.map_cons, List.filterMap_cons, counted] at ih ⊢
      rw [ih later]
  obtain ⟨first, rest, rfl⟩ := List.exists_cons_of_ne_nil filled
  have counted := (named first List.mem_cons_self).counts
  have start : first.toList ≠ [] ∧ first.toList ≠ ['.'] := by
    refine ⟨fun e => ?_, fun e => ?_⟩ <;> simp [e, component?] at counted
  rw [parts named, List.map_cons, leading_cons, if_neg start.1, if_neg start.2, List.nil_append]

theorem names_joinStrings (filled : place ≠ []) (named : ∀ name ∈ place, IsPart name) :
    names (joinStrings "/" place) = place := by
  rw [names, components_joinStrings filled named, List.filterMap_map]
  exact List.filterMap_some

theorem isPlain_joinStrings (filled : place ≠ []) (named : ∀ name ∈ place, IsPart name) :
    isPlain (joinStrings "/" place) = true := by
  have parts := components_joinStrings filled named
  have some_text : (joinStrings "/" place).isEmpty = false := by
    rw [Bool.eq_false_iff]
    intro empty
    rw [String.isEmpty_iff.mp empty] at parts
    exact filled (List.map_eq_nil_iff.mp parts.symm)
  simp [isPlain, parts, some_text]

/-- What a plain path comes to inside of a folder, character by character. -/
theorem toList_join (h : isPlain path = true) (filled : folder.isEmpty = false) :
    ∃ before, before <+: folder.toList ∧
      (join folder path).toList = before ++ '/' :: path.toList := by
  rw [join, head_of_isPlain h, Bool.false_or, if_neg (by simp [filled])]
  split
  · rename_i slash
    obtain ⟨before, hb⟩ := List.getLast?_eq_some_iff.mp (eq_of_beq slash)
    exact ⟨before, ⟨['/'], hb.symm⟩, by simp [hb]⟩
  · exact ⟨folder.toList, List.prefix_refl _, by simp⟩

/-- The file name of a path of names is the last of them. -/
theorem fileName?_of_components {text : String} {before : List Component}
    (filled : place ≠ []) (parts : components text = before ++ place.map .name) :
    fileName? text = place.getLast? := by
  obtain ⟨others, last, rfl⟩ := List.eq_nil_or_concat' place |>.resolve_left filled
  rw [fileName?, parts]
  simp [← List.append_assoc]

/-- A path that ends in names does not mean a folder. -/
theorem meansFolder_join (some_folder : folder.isEmpty = false) (filled : place ≠ [])
    (named : ∀ name ∈ place, IsPart name) :
    meansFolder (join folder (joinStrings "/" place)) = false := by
  obtain ⟨before, _, text⟩ := toList_join (isPlain_joinStrings filled named) some_folder
  have pieces := splitAtChar_joinStrings filled fun name hn => (named name hn).plain
  obtain ⟨others, last, rfl⟩ := List.eq_nil_or_concat' place |>.resolve_left filled
  have counted := (named last (by simp)).counts
  obtain ⟨first, rest, split⟩ := List.exists_cons_of_ne_nil (splitAtChar_ne_nil '/' before)
  have turned :
      (splitAtChar '/' (join folder (joinStrings "/" (others ++ [last]))).toList).reverse =
        last.toList :: ((others.map String.toList).reverse ++ rest.reverse ++ [first]) := by
    rw [text, splitAtChar_append, pieces, split]
    simp
  have name : last.toList.isEmpty = false ∧ last.toList ≠ ['.'] ∧ last.toList ≠ ['.', '.'] := by
    unfold component? at counted
    split at counted
    · cases counted
    · split at counted
      · cases counted
      · simp_all
  rw [meansFolder, turned]
  cases behind : (others.map String.toList).reverse ++ rest.reverse ++ [first] with
  | nil => simp at behind
  | cons next more => simp [name]

end Joined

/-! ## 2. Reading -/

variable {w : Workspace} {root : String} {place : Place} {node target : FileTree ByteArray}

theorem checkPath_eq {path : String} (filled : path.isEmpty = false)
    (no_null : '\x00' ∉ path.toList) :
    checkPath path = if path.utf8ByteSize ≤ maxPath then .ok () else .error .nameTooLong := by
  rw [checkPath, if_neg (by simp [filled]), if_neg (by simpa using no_null)]
  by_cases long : maxPath < path.utf8ByteSize
  · rw [if_pos long, if_neg (Nat.not_le.mpr long)]
  · rw [if_neg long, if_pos (Nat.not_lt.mp long)]

theorem checkPath_eq_ok_iff {path : String} :
    checkPath path = .ok () ↔ path.isEmpty = false ∧ '\x00' ∉ path.toList ∧
      path.utf8ByteSize ≤ maxPath := by
  unfold checkPath
  by_cases filled : path.isEmpty = true
  · simp [filled]
  · by_cases null : path.toList.contains '\x00' = true
    · simp_all
    · by_cases long : maxPath < path.utf8ByteSize
      · simp_all
      · simp_all

/-- From where something stands, the names that lead to something below it can be followed. -/
theorem follow_names {tree : FileTree ByteArray} {names : List String}
    (here : tree.at? place = some node) (there : node.at? names = some target)
    (named : ∀ name ∈ names, IsFileName name) :
    follow tree place (names.map .name) = .ok (place ++ names) := by
  induction names generalizing place node with
  | nil => simp [follow]
  | cons name rest ih =>
    obtain ⟨child, hc, below⟩ := Option.bind_eq_some_iff.mp there
    obtain ⟨first, later⟩ := List.forall_mem_cons.mp named
    have next : tree.at? (place ++ [name]) = some child := by
      simp [FileTree.at?_append, here, FileTree.at?, hc]
    have folder : tree.look place = some .folder := by
      rw [FileTree.look, here, Option.map_some,
        (FileTree.isFolder_iff node).mp (FileTree.isFolder_of_child? hc)]
    refine follow_cons_eq_ok_iff.mpr ⟨folder, ⟨first.short, ?_⟩, ?_⟩
    · simp [FileTree.look_isSome, next]
    · simpa [Component.lead] using ih next below later

/-- **A file below a folder that is found is read under the names that lead to it**, unless the
path is too long. -/
theorem read_below {names : List String} {content : ByteArray}
    (found : w.find root = .ok (place, node)) (proper : node.Proper) (filled : names ≠ [])
    (there : node.at? names = some (.file content)) :
    w.read (join root (joinStrings "/" names)) =
      if (join root (joinStrings "/" names)).utf8ByteSize ≤ maxPath then .ok content
      else .error .nameTooLong := by
  have named := proper.isFileName there
  have parts : ∀ name ∈ names, IsPart name := fun name hn => (named name hn).toIsPart
  have plain := isPlain_joinStrings filled parts
  obtain ⟨checked, followed, here, _⟩ := find_eq_ok_iff.mp found
  obtain ⟨some_root, root_null, _⟩ := checkPath_eq_ok_iff.mp checked
  obtain ⟨before, front, text⟩ := toList_join plain some_root
  have some_path : (join root (joinStrings "/" names)).isEmpty = false := by
    rw [← Bool.not_eq_true, String.isEmpty_iff, ← String.toList_eq_nil_iff, text]
    simp
  have no_null : '\x00' ∉ (join root (joinStrings "/" names)).toList := by
    rw [text, joinStrings_toList]
    intro null
    rcases List.mem_append.mp null with null | null
    · exact root_null (front.subset null)
    · rcases List.mem_cons.mp null with e | null
      · exact absurd e (by decide)
      · obtain ⟨_, inside, null⟩ := (mem_intercalate null).resolve_left (by decide)
        obtain ⟨name, hn, rfl⟩ := List.mem_map.mp inside
        exact (named name hn).no_null null
  have checks := checkPath_eq some_path no_null
  split
  · rename_i short
    rw [if_pos short] at checks
    refine read_eq_ok_iff.mpr ⟨checks, meansFolder_join some_root filled parts, ?_, ?_⟩
    · rw [placeOf_join w plain, ← place_of_find found, names_joinStrings filled parts,
        components_join plain, components_joinStrings filled parts]
      exact follow_append_eq_ok_iff.mpr ⟨place, followed, follow_names here there named⟩
    · rw [placeOf_join w plain, ← place_of_find found, names_joinStrings filled parts]
      exact FileTree.look_eq_file_iff.mpr (by simp [FileTree.at?_append, here, there])
  · rename_i long
    rw [if_neg long] at checks
    simp [Workspace.read, Workspace.find, checks, bind, Except.bind]

end Covenant.Files
