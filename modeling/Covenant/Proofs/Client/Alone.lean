import Covenant.Proofs.Client.Stored
import Covenant.Proofs.Files.Fresh
/-!
# A project alone in its folder

* `ensures_storeAll_fresh` and `ensures_storeAll_tidy`: storing a project makes no file but those of
  the project, and it leaves a tidy tree tidy.
* `HoldsOnly`: a folder is found, and the files below it are exactly these.
* `ensures_storeAll_alone`: where no file was before, a project is alone after it was stored.
-/

namespace Covenant.Client

open Covenant.Files Covenant.Files.Path Covenant.Text Workspace

variable {w v : Workspace} {root : String} {pairs : List (String × String)} {place : Place}

/-! ## 1. What storing makes new -/

theorem ensures_storeAll_tidy (root : String) (pairs : List (String × String))
    (h : w.tree.Tidy) :
    Ensures (storeAll (m := InWorkspace) root pairs) w (fun _ after => after.tree.Tidy)
      (fun _ _ => True) := by
  induction pairs generalizing w with
  | nil => exact (ensures_pure _).mpr h
  | cons pair rest ih =>
    simp only [storeAll, ensures_bind, ensures_result, ensures_adapt, ensures_pure]
    refine ⟨fun path _ => ?_, fun _ _ => trivial⟩
    exact (ensures_writeFile_tidy path _ h).imp (fun _ _ tidy => ih tidy) fun _ _ _ => trivial

/-- **After a project was stored, a file at any other place was there before.** -/
theorem ensures_storeAll_fresh (away : ¬placesOf w (filesIn root pairs) place) :
    Ensures (storeAll (m := InWorkspace) root pairs) w
      (fun _ after => NoNewFile place w.tree after.tree) (fun _ _ => True) := by
  induction pairs generalizing w with
  | nil => exact (ensures_pure _).mpr (.refl place w.tree)
  | cons pair rest ih =>
    obtain ⟨key, text⟩ := pair
    simp only [storeAll, ensures_bind, ensures_result, ensures_adapt, ensures_pure]
    refine ⟨fun path here => ?_, fun _ _ => trivial⟩
    obtain ⟨_, rfl⟩ := pathIn_eq_ok_iff.mp here
    have apart : place ≠ w.placeOf (join root key) := fun e =>
      away ⟨(join root key, text), List.mem_cons_self, e.symm⟩
    refine ((ensures_writeFile (join root key) text.toUTF8 w).and
      (ensures_writeFile_fresh text.toUTF8 apart)).imp (fun _ v wrote => ?_) fun _ _ _ => trivial
    obtain ⟨⟨later, _⟩, fresh⟩ := wrote
    refine (ih ?_).imp (fun _ _ others => fresh.trans others) fun _ _ _ => trivial
    rw [placesOf_later later]
    rintro ⟨file, hf, at_place⟩
    exact away ⟨file, List.mem_cons_of_mem _ hf, at_place⟩

/-! ## 2. Folders with nothing else in them -/

/-- No file is at a path or below it. -/
structure IsVacant (w : Workspace) (root : String) : Prop where
  filled : root.isEmpty = false
  vacant : ∀ rest stored, w.tree.look (w.placeOf root ++ rest) ≠ some (.file stored)

/-- A folder is found, and the files below it are exactly those with these keys. -/
structure HoldsOnly (w : Workspace) (root : String) (pairs : List (String × String))
    (node : FileTree ByteArray) : Prop where
  found : w.find root = .ok (w.placeOf root, node)
  folder : node.isFolder = true
  proper : node.Proper
  files : ∀ place content, node.at? place = some (.file content) ↔
    ∃ pair ∈ pairs, names pair.1 = place ∧ pair.2.toUTF8 = content
  short : ∀ pair ∈ pairs, (join root pair.1).utf8ByteSize ≤ maxPath

/-- The path of a folder is no longer than a path in it. -/
theorem checkPath_of_join {key : String} (filled : root.isEmpty = false)
    (plain : isPlain key = true)
    (h : checkPath (join root key) = .ok ()) : checkPath root = .ok () := by
  obtain ⟨_, no_null, short⟩ := checkPath_eq_ok_iff.mp h
  have front : ∃ rest, join root key = root ++ rest := by
    unfold join
    rw [head_of_isPlain plain, filled]
    split
    · contradiction
    · split
      · exact ⟨key, rfl⟩
      · exact ⟨"/" ++ key, String.append_assoc⟩
  obtain ⟨rest, text⟩ := front
  rw [text] at no_null short
  rw [String.utf8ByteSize_append] at short
  refine checkPath_eq_ok_iff.mpr ⟨filled, fun null => no_null ?_, by omega⟩
  rw [String.toList_append]
  exact List.mem_append_left _ null

/-- What can be read in a folder shows that the folder is found. -/
theorem find_of_read {key : String} {content : ByteArray} (filled : root.isEmpty = false)
    (plain : isPlain key = true) (some_name : names key ≠ [])
    (reads : w.read (join root key) = .ok content) :
    ∃ node, w.find root = .ok (w.placeOf root, node) ∧ node.isFolder = true := by
  obtain ⟨checked, _, followed, _⟩ := read_eq_ok_iff.mp reads
  rw [components_join plain] at followed
  obtain ⟨between, to_root, below⟩ := follow_append_eq_ok_iff.mp followed
  obtain rfl : between = w.placeOf root := eq_of_follow to_root
  obtain ⟨name, rest, split⟩ := List.exists_cons_of_ne_nil some_name
  rw [components_of_isPlain plain, split] at below
  obtain ⟨entries, there⟩ := FileTree.look_eq_folder_iff.mp (follow_cons_eq_ok_iff.mp below).1
  refine ⟨.folder entries, find_eq_ok_iff.mpr ⟨?_, to_root, there, fun _ => rfl⟩, rfl⟩
  exact checkPath_of_join filled plain checked

/-- The files of a project that was stored can be read. -/
theorem reads_of_wrote (keyed : AreKeyed pairs) (plain : ∀ pair ∈ pairs, isPlain pair.1 = true)
    (wrote : Wrote (filesIn root pairs) w v) :
    ∀ pair ∈ pairs, v.read (join root pair.1) = .ok pair.2.toUTF8 := by
  intro pair hp
  refine wrote.reads (join root pair.1, pair.2) (List.mem_map_of_mem hp) fun other ho same => ?_
  obtain ⟨pair', hp', rfl⟩ := List.mem_map.mp ho
  rw [placeOf_join w (plain pair' hp'), placeOf_join w (plain pair hp)] at same
  rw [keyed.eq_of_names hp' hp (List.append_cancel_left same)]

/-- **Where no file was, the files that stand are those of the project**, if none has come to any
other place. -/
theorem look_of_wrote (keyed : AreKeyed pairs) (plain : ∀ pair ∈ pairs, isPlain pair.1 = true)
    (vacant : IsVacant w root) (wrote : Wrote (filesIn root pairs) w v)
    (fresh : ∀ place, ¬placesOf w (filesIn root pairs) place → NoNewFile place w.tree v.tree)
    (place : Place) (content : ByteArray) :
    v.tree.look (v.placeOf root ++ place) = some (.file content) ↔
      ∃ pair ∈ pairs, names pair.1 = place ∧ pair.2.toUTF8 = content := by
  have stored : ∀ pair ∈ pairs,
      v.tree.look (v.placeOf root ++ names pair.1) = some (.file pair.2.toUTF8) := by
    intro pair hp
    rw [← placeOf_join v (plain pair hp)]
    exact (read_eq_ok_iff.mp (reads_of_wrote keyed plain wrote pair hp)).2.2.2
  constructor
  · intro stands
    by_cases own : placesOf w (filesIn root pairs) (v.placeOf root ++ place)
    · obtain ⟨file, hm, at_place⟩ := own
      obtain ⟨pair, hp, rfl⟩ := List.mem_map.mp hm
      rw [← wrote.later.placeOf, placeOf_join v (plain pair hp)] at at_place
      have same := List.append_cancel_left at_place
      have found := (stored pair hp).symm.trans (same ▸ stands)
      simp only [Option.some.injEq, Entry.file.injEq] at found
      exact ⟨pair, hp, same, found⟩
    · -- a file of no key was there before, but none was
      have before := fresh _ own content stands
      rw [wrote.later.placeOf] at before
      exact absurd before (vacant.vacant place content)
  · rintro ⟨pair, hp, rfl, rfl⟩
    exact stored pair hp

/-- **A project that was stored where no file was is alone in its folder.** -/
theorem ensures_storeAll_alone (tidy : w.tree.Tidy) (vacant : IsVacant w root)
    (filled : pairs ≠ []) (keyed : AreKeyed pairs) :
    Ensures (storeAll (m := InWorkspace) root pairs) w
      (fun _ v => ∃ node, HoldsOnly v root pairs node) (fun _ _ => True) := by
  refine ⟨fun paths v run => ?_, fun _ _ _ => trivial⟩
  obtain ⟨_, plain, wrote⟩ := (ensures_storeAll root pairs w).success paths v run
  have tidy_after := (ensures_storeAll_tidy root pairs tidy).success paths v run
  have reads := reads_of_wrote keyed plain wrote
  have stands := look_of_wrote keyed plain vacant wrote fun _ away =>
    (ensures_storeAll_fresh away).success paths v run
  obtain ⟨first, hf⟩ := List.exists_mem_of_ne_nil pairs filled
  obtain ⟨node, found, folder⟩ :=
    find_of_read vacant.filled (plain first hf) (keyed.joined hf).1 (reads first hf)
  obtain ⟨_, _, there, _⟩ := find_eq_ok_iff.mp found
  refine ⟨node, found, folder, tidy_after.proper.at? there, fun place content => ?_,
    fun pair hp => ?_⟩
  · rw [← stands, FileTree.look_eq_file_iff, FileTree.at?_append, there, Option.bind_some]
  · exact (checkPath_eq_ok_iff.mp (read_eq_ok_iff.mp (reads pair hp)).1).2.2

end Covenant.Client
