import Covenant.Proofs.Files.Follow
import Covenant.Proofs.Text.Split
/-!
# Parts of joined paths

* `components_join`: the parts of a plain path inside of another one come after the parts of this
  one, so that it leads from the place of the folder to the names below it (`placeOf_join`).
* `fileName?_slash`: the file name of a path is what comes after its last slash.
* `IsPart name`: the name is one part of a path, as is each name that occurs in one
  (`isPart_of_mem_components`).
-/

namespace Covenant.Files

open Covenant.Text Covenant.Files.Path

/-! ## 1. Leading parts -/

theorem leading_cons (first : List Char) (rest : List (List Char)) :
    leading (first :: rest) =
      if first = [] then (if rest = [] then [] else [.root])
      else if first = ['.'] then [.here] else [] := by
  unfold leading
  split
  · rename_i same
    obtain ⟨rfl, rfl⟩ := List.cons.inj same
    simp
  · rename_i same
    obtain ⟨rfl, rfl⟩ := List.cons.inj same
    simp
  · rename_i no_root no_here
    by_cases empty : first = []
    · subst empty
      cases rest with
      | nil => simp
      | cons second rest => exact absurd rfl (no_root second rest)
    · have other : first ≠ ['.'] := fun e => no_here rest (by rw [e])
      simp [empty, other]

/-- What comes after a first piece changes what stands at the start only by being there. -/
theorem leading_append {pieces more others : List (List Char)} (filled : pieces ≠ [])
    (hm : more ≠ []) (ho : others ≠ []) :
    leading (pieces ++ more) = leading (pieces ++ others) := by
  obtain ⟨first, rest, rfl⟩ := List.exists_cons_of_ne_nil filled
  simp [leading_cons, hm, ho]

/-- Nothing changes at the start if there was more than an empty piece. -/
theorem leading_append_self {pieces : List (List Char)} (filled : pieces ≠ [])
    (some : pieces ≠ [[]]) (more : List (List Char)) :
    leading (pieces ++ more) = leading pieces := by
  obtain ⟨first, rest, rfl⟩ := List.exists_cons_of_ne_nil filled
  by_cases empty : first = []
  · subst empty
    have later : rest ≠ [] := fun e => some (by rw [e])
    simp [leading_cons, later]
  · simp [leading_cons, empty]

theorem not_name_of_mem_leading {pieces : List (List Char)} {text : String} :
    Component.name text ∉ leading pieces := by
  unfold leading
  split <;> simp

/-! ## 2. Plain paths -/

/-- The part for each piece that counts. -/
def partsOf (pieces : List (List Char)) : List Component := pieces.filterMap component?

theorem components_eq (path : String) : components path =
    leading (splitAtChar '/' path.toList) ++ partsOf (splitAtChar '/' path.toList) := rfl

/-- The names among the parts of a path. -/
def names (path : String) : List String :=
  (components path).filterMap fun
    | .name text => some text
    | _ => none

/-- The parts of a plain path are names. -/
theorem components_of_isPlain {path : String} (h : isPlain path = true) :
    components path = (names path).map .name := by
  have all : ∀ part ∈ components path, ∃ text, part = .name text := by
    intro part hp
    have := List.all_eq_true.mp (Bool.and_eq_true_iff.mp h).2 part hp
    cases part with
    | name text => exact ⟨text, rfl⟩
    | root | here | up => cases this
  unfold names
  generalize components path = parts at all
  induction parts with
  | nil => rfl
  | cons part rest ih =>
    obtain ⟨text, rfl⟩ := all part List.mem_cons_self
    simpa using ih fun other ho => all other (List.mem_cons_of_mem _ ho)

theorem partsOf_of_isPlain {path : String} (h : isPlain path = true) :
    partsOf (splitAtChar '/' path.toList) = components path := by
  have start : leading (splitAtChar '/' path.toList) = [] := by
    refine List.eq_nil_iff_forall_not_mem.mpr fun part hp => ?_
    have there : part ∈ components path := List.mem_append_left _ hp
    rw [components_of_isPlain h] at there
    obtain ⟨text, _, rfl⟩ := List.mem_map.mp there
    exact not_name_of_mem_leading hp
  rw [components_eq, start, List.nil_append]

/-- A plain path does not begin with a slash. -/
theorem head_of_isPlain {path : String} (h : isPlain path = true) :
    (path.toList.head? == some '/') = false := by
  rcases hs : path.toList with _ | ⟨c, rest⟩
  · rfl
  · by_cases hc : c = '/'
    · have root : Component.root ∈ components path := by
        have split := splitAtChar_append '/' [] rest
        obtain ⟨first, more, hr⟩ := List.exists_cons_of_ne_nil (splitAtChar_ne_nil '/' rest)
        rw [components_eq, hs, hc]
        rw [List.nil_append] at split
        rw [split, hr]
        exact List.mem_append_left _ List.mem_cons_self
      rw [components_of_isPlain h] at root
      simp at root
    · simp [hc]

/-- **The parts of a plain path inside of another one.** -/
theorem components_join {folder path : String} (h : isPlain path = true) :
    components (join folder path) = components folder ++ components path := by
  have filled_path := splitAtChar_ne_nil '/' path.toList
  unfold join
  rw [head_of_isPlain h, Bool.false_or]
  by_cases empty : folder.isEmpty = true
  · obtain rfl : folder = "" := String.isEmpty_iff.mp empty
    rfl
  · rw [if_neg empty]
    have filled : folder.toList ≠ [] := fun e => empty (by simpa using e)
    by_cases slash : (folder.toList.getLast? == some '/') = true
    · -- the slash between them is the last one of the folder
      rw [if_pos slash]
      obtain ⟨before, hb⟩ : ∃ before, folder.toList = before ++ ['/'] :=
        List.getLast?_eq_some_iff.mp (by simpa using slash)
      have text : (folder ++ path).toList = before ++ '/' :: path.toList := by simp [hb]
      have alone : splitAtChar '/' folder.toList = splitAtChar '/' before ++ [[]] := by
        rw [hb]
        exact splitAtChar_append '/' before []
      rw [components_eq, text, splitAtChar_append, components_eq folder, alone,
        leading_append (splitAtChar_ne_nil '/' before) filled_path (List.cons_ne_nil [] []),
        ← partsOf_of_isPlain h, partsOf, partsOf, partsOf, List.filterMap_append,
        List.filterMap_append, List.append_assoc, List.append_assoc]
      rfl
    · rw [if_neg slash]
      have text : (folder ++ "/" ++ path).toList = folder.toList ++ '/' :: path.toList := by simp
      have more : splitAtChar '/' folder.toList ≠ [[]] := fun e => filled (eq_nil_of_splitAtChar e)
      rw [components_eq, text, splitAtChar_append,
        leading_append_self (splitAtChar_ne_nil '/' folder.toList) more, components_eq folder,
        ← partsOf_of_isPlain h, partsOf, partsOf, partsOf, List.filterMap_append, List.append_assoc]

/-- Names lead from a place to the place with these names after it. -/
theorem foldl_lead_names (place : Place) (names : List String) :
    (names.map Component.name).foldl Component.lead place = place ++ names := by
  induction names generalizing place with
  | nil => simp
  | cons first rest ih => simp [Component.lead, ih]

/-- **A plain path inside of another one leads to its names.** -/
theorem placeOf_join (w : Workspace) {folder path : String} (h : isPlain path = true) :
    w.placeOf (join folder path) = w.placeOf folder ++ names path := by
  rw [Workspace.placeOf, components_join h, List.foldl_append, components_of_isPlain h,
    foldl_lead_names]
  rfl

/-! ## 3. Single names -/

/-- The name is one part of a path. -/
@[mk_iff]
structure IsPart (name : String) : Prop where
  counts : component? name.toList = some (.name name)
  plain : '/' ∉ name.toList

instance (name : String) : Decidable (IsPart name) := decidable_of_iff' _ (isPart_iff name)

/-- A piece that counts as a name is the name. -/
theorem toList_of_component? {piece : List Char} {text : String}
    (h : component? piece = some (.name text)) : text.toList = piece := by
  unfold component? at h
  split at h
  · cases h
  · split at h
    · cases h
    · cases h
      exact String.toList_ofList

/-- A name in a path is a piece of it. -/
theorem mem_pieces_of_mem_components {path text : String}
    (h : Component.name text ∈ components path) :
    text.toList ∈ splitAtChar '/' path.toList ∧ component? text.toList = some (.name text) := by
  rw [components_eq] at h
  rcases List.mem_append.mp h with leading | counted
  · exact absurd leading not_name_of_mem_leading
  · obtain ⟨piece, hp, named⟩ := List.mem_filterMap.mp counted
    have same := toList_of_component? named
    exact ⟨same ▸ hp, same ▸ named⟩

theorem isPart_of_mem_components {path text : String} (h : Component.name text ∈ components path) :
    IsPart text where
  counts := (mem_pieces_of_mem_components h).2
  plain slash :=
    absurd (not_of_mem_splitWhere (mem_pieces_of_mem_components h).1 slash) (by decide)

theorem component?_of_ne {piece : List Char} (filled : piece ≠ []) (here : piece ≠ ['.'])
    (up : piece ≠ ['.', '.']) : component? piece = some (.name (.ofList piece)) := by
  unfold component?
  simp [filled, here, up]

theorem isPart_of_ne {name : String} (filled : name ≠ "") (here : name ≠ ".") (up : name ≠ "..")
    (plain : '/' ∉ name.toList) : IsPart name := by
  refine ⟨?_, plain⟩
  rw [component?_of_ne, String.ofList_toList]
  · exact fun e => filled (String.toList_inj.mp e)
  · exact fun e => here (String.toList_inj.mp e)
  · exact fun e => up (String.toList_inj.mp e)

/-- A path has parts, unless it is empty. -/
theorem components_ne_nil {path : String} (h : path.isEmpty = false) : components path ≠ [] := by
  obtain ⟨first, rest, split⟩ := List.exists_cons_of_ne_nil (splitAtChar_ne_nil '/' path.toList)
  rw [components_eq, split, leading_cons]
  by_cases empty : first = []
  · have more : rest ≠ [] := by
      rintro rfl
      have none := eq_nil_of_splitAtChar (split.trans (by rw [empty]))
      simp [String.toList_eq_nil_iff.mp none] at h
    simp [empty, more]
  · by_cases point : first = ['.']
    · simp [point]
    · simp only [if_neg empty, if_neg point, partsOf, List.nil_append, List.filterMap_cons]
      by_cases up : first = ['.', '.']
      · simp [up, component?]
      · simp [component?_of_ne empty point up]

theorem names_ne_nil {path : String} (h : isPlain path = true) : names path ≠ [] := by
  have filled : path.isEmpty = false := by simpa using (Bool.and_eq_true_iff.mp h).1
  have some_part := components_ne_nil filled
  rw [components_of_isPlain h] at some_part
  simpa using some_part

/-- A name without a slash is a plain path. -/
theorem names_eq_singleton {name : String} (plain : '/' ∉ name.toList)
    (named : component? name.toList = some (.name name)) :
    isPlain name = true ∧ names name = [name] := by
  have parts : components name = [.name name] := by
    have filled : name.toList ≠ [] := fun e => by simp [e, component?] at named
    have here : name.toList ≠ ['.'] := fun e => by simp [e, component?] at named
    rw [components_eq, splitAtChar_eq_singleton plain, leading_cons]
    simp [filled, here, partsOf, named]
  refine ⟨?_, by simp [names, parts]⟩
  have filled : name.isEmpty = false := by
    rw [Bool.eq_false_iff]
    intro e
    rw [String.isEmpty_iff.mp e] at parts
    cases parts
  simp [isPlain, parts, filled]

/-- The file name is what comes after the last slash. -/
theorem fileName?_slash (folder : String) {file : String} (plain : '/' ∉ file.toList)
    (named : component? file.toList = some (.name file)) :
    fileName? (folder ++ "/" ++ file) = some file := by
  refine fileName?_eq_some_iff.mpr ?_
  have text : (folder ++ "/" ++ file).toList = folder.toList ++ '/' :: file.toList := by simp
  rw [components_eq, text, splitAtChar_append, splitAtChar_eq_singleton plain]
  exact ⟨leading (splitAtChar '/' folder.toList ++ [file.toList]) ++
    partsOf (splitAtChar '/' folder.toList), by simp [partsOf, named]⟩

end Covenant.Files
