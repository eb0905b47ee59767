import Covenant.Proofs.Client.Confined
import Covenant.Proofs.Files.Held
/-!
# Drift after a project was stored

Two keys name one file if they have the same names between slashes (`a//b.txt` and `a/b.txt`); then
the key that was written last decides what the file holds.

* `Edit`: a file of a project is written or removed. `standing state edits` is what each key names
  after some edits, and `AllHold` says that a folder holds it.
* `allHold_run` and `allHold_edited`: what one edit does to the folder, and so what all of them do.
  `ensures_storeAll_holds`: storing a project is a row of such edits.
* `reports_differences`: comparing reports exactly the differences of what stands, in the order of
  the keys.
* `drift_after_store`: so it does after a project was stored and some of its files were edited.
  Nothing is found before an edit just if no file has two keys with different texts, and then
  exactly the edited files are found later.
-/

namespace Covenant.Client

open Covenant.Files Covenant.Files.Path Covenant.Text Workspace

/-! ## 1. Edits -/

/-- A file of a project is removed, or it is given a text. -/
inductive Edit where
  | remove (key : String)
  | write (key text : String)
deriving Repr, DecidableEq

namespace Edit

/-- The key of the file. -/
def key : Edit → String
  | remove key => key
  | write key _ => key

/-- What the file holds after the edit. -/
def text? : Edit → Option String
  | remove _ => none
  | write _ text => some text

/-- The edit is of the file that a key names. -/
def Hits (edit : Edit) (key : String) : Prop := names key = names edit.key

instance (edit : Edit) (key : String) : Decidable (edit.Hits key) :=
  inferInstanceAs (Decidable (_ = _))

/-- The edit of a file in a folder. -/
def run (folder : String) (w : Workspace) : Edit → Except FileFault Workspace
  | remove key => w.remove (join folder key)
  | write key text => w.write (join folder key) text.toUTF8

/-- What each key names after the edit. -/
def apply (state : String → Option String) (edit : Edit) (key : String) : Option String :=
  if edit.Hits key then edit.text? else state key

variable {edit : Edit} {state : String → Option String} {other : String}

theorem apply_hit (h : edit.Hits other) : edit.apply state other = edit.text? := if_pos h

theorem apply_miss (h : ¬edit.Hits other) : edit.apply state other = state other := if_neg h

end Edit

/-- Some edits of files in a folder, one after the other. -/
def edited (folder : String) (w : Workspace) (edits : List Edit) : Except FileFault Workspace :=
  edits.foldlM (Edit.run folder) w

/-- What each key names after some edits. -/
def standing (state : String → Option String) (edits : List Edit) : String → Option String :=
  edits.foldl Edit.apply state

variable {w : Workspace} {folder key : String} {files pairs done : List (String × String)}
  {edits : List Edit} {state : String → Option String}

/-- If all edits of a file agree, it holds what they say, and without an edit it is as before. -/
theorem standing_of_agree (text? : Option String)
    (agree : ∀ edit ∈ edits, edit.Hits key → edit.text? = text?) :
    standing state edits key = if ∃ edit ∈ edits, edit.Hits key then text? else state key := by
  induction edits generalizing state with
  | nil => simp [standing]
  | cons edit rest ih =>
    obtain ⟨first, later⟩ := List.forall_mem_cons.mp agree
    rw [standing, List.foldl_cons, ← standing, ih later]
    by_cases hits : edit.Hits key
    · simp [Edit.apply_hit hits, hits, first hits]
    · simp [Edit.apply_miss hits, hits]

/-- Two keys of one file name the same. -/
theorem standing_congr {other : String} (same : names key = names other)
    (start : state key = state other) : standing state edits key = standing state edits other := by
  induction edits generalizing state with
  | nil => exact start
  | cons edit rest ih =>
    refine ih ?_
    by_cases hits : edit.Hits key
    · rw [Edit.apply_hit hits, Edit.apply_hit (same.symm.trans hits)]
    · rw [Edit.apply_miss hits, Edit.apply_miss fun other => hits (same.trans other), start]

/-! ## 2. What a folder holds -/

/-- The keys of some files hold in a folder what a state says. -/
def AllHold (folder : String) (w : Workspace) (files : List (String × String))
    (state : String → Option String) : Prop :=
  ∀ file ∈ files, isPlain file.1 = true ∧ w.Holds (join folder file.1) (state file.1)

theorem placeOf_join_inj {other : String} (h : isPlain key = true) (g : isPlain other = true) :
    w.placeOf (join folder key) = w.placeOf (join folder other) ↔ names key = names other := by
  rw [placeOf_join w h, placeOf_join w g, List.append_cancel_left_eq]

/-- **One edit**: a file that is there can be edited, and then its keys name what it holds. -/
theorem allHold_run {edit : Edit} (h : AllHold folder w files state)
    (keyed : edit.key ∈ files.map Prod.fst) (there : (state edit.key).isSome) :
    ∃ v, edit.run folder w = .ok v ∧ AllHold folder v files (edit.apply state) := by
  obtain ⟨file, hf, key⟩ := List.mem_map.mp keyed
  obtain ⟨plain, held⟩ := h file hf
  rw [key] at plain held
  have run : ∃ v, edit.run folder w = .ok v ∧ ∀ other found, w.Holds other found →
      v.Holds other
        (if w.placeOf other = w.placeOf (join folder edit.key) then edit.text? else found) := by
    cases edit with
    | remove key =>
      obtain ⟨text, stands⟩ := Option.isSome_iff_exists.mp there
      exact (stands ▸ held).remove
    | write key text => exact held.write text
  obtain ⟨v, ran, after⟩ := run
  refine ⟨v, ran, fun other ho => ⟨(h other ho).1, ?_⟩⟩
  have holds := after _ _ (h other ho).2
  rwa [if_congr (placeOf_join_inj (h other ho).1 plain) rfl rfl] at holds

/-- Edits of some of the files of a project, one edit for each. -/
structure AreEdits (files : List (String × String)) (edits : List Edit) : Prop where
  keyed : ∀ edit ∈ edits, edit.key ∈ files.map Prod.fst
  apart : (edits.map (names ·.key)).Nodup

/-- **All edits**: files that are there can be edited, each once. -/
theorem allHold_edited (h : AllHold folder w files state) (are : AreEdits files edits)
    (there : ∀ edit ∈ edits, (state edit.key).isSome) :
    ∃ v, edited folder w edits = .ok v ∧ AllHold folder v files (standing state edits) := by
  induction edits generalizing w state with
  | nil => exact ⟨w, rfl, h⟩
  | cons edit rest ih =>
    obtain ⟨keyed, others⟩ := List.forall_mem_cons.mp are.keyed
    obtain ⟨away, apart⟩ := List.nodup_cons.mp are.apart
    obtain ⟨here, later⟩ := List.forall_mem_cons.mp there
    obtain ⟨u, ran, holds⟩ := allHold_run h keyed here
    obtain ⟨v, all, after⟩ := ih holds ⟨others, apart⟩ fun other ho => by
      rw [Edit.apply_miss fun same => away (List.mem_map.mpr ⟨other, ho, same⟩)]
      exact later other ho
    refine ⟨v, ?_, after⟩
    rw [edited, List.foldlM_cons, ran]
    exact all

/-! ## 3. Storing -/

/-- The edits by which files are written. -/
def writes (files : List (String × String)) : List Edit :=
  files.map fun file => .write file.1 file.2

/-- What each key names when some files were written in this order. -/
def stored (files : List (String × String)) : String → Option String :=
  standing (fun _ => none) (writes files)

theorem holds_of_plain {text : String} (plain : isPlain key = true)
    (reads : w.read (join folder key) = .ok text.toUTF8) :
    w.Holds (join folder key) (some text) := by
  obtain ⟨last, name⟩ : ∃ last, fileName? (join folder key) = some last := by
    have parts : components (join folder key) = components folder ++ (names key).map .name := by
      rw [components_join plain, components_of_isPlain plain]
    rw [fileName?_of_components (names_ne_nil plain) parts]
    exact ⟨_, List.getLast?_eq_some_getLast (names_ne_nil plain)⟩
  exact holds_of_read name reads

/-- **One file written**: each key of its file names its text, and the others what they named. -/
theorem allHold_written {v : Workspace} {text : String} (h : AllHold folder w done state)
    (there : ∀ file ∈ done, (state file.1).isSome) (plain : isPlain key = true)
    (later : w.Later (· = w.placeOf (join folder key)) v)
    (reads : v.read (join folder key) = .ok text.toUTF8) :
    AllHold folder v (done ++ [(key, text)]) ((Edit.write key text).apply state) ∧
      ∀ file ∈ done ++ [(key, text)], ((Edit.write key text).apply state file.1).isSome := by
  have own : (Edit.write key text).apply state key = some text := Edit.apply_hit rfl
  refine ⟨fun file hf => ?_, fun file hf => ?_⟩
  · rcases List.mem_append.mp hf with before | last
    · obtain ⟨file_plain, held⟩ := h file before
      obtain ⟨old, stands⟩ := Option.isSome_iff_exists.mp (there file before)
      have holds := (stands ▸ held).written later reads
      rw [if_congr (placeOf_join_inj file_plain plain) rfl rfl, ← stands] at holds
      exact ⟨file_plain, holds⟩
    · obtain rfl := List.mem_singleton.mp last
      exact ⟨plain, own ▸ holds_of_plain plain reads⟩
  · by_cases hits : (Edit.write key text).Hits file.1
    · rw [Edit.apply_hit hits]
      rfl
    · rw [Edit.apply_miss hits]
      rcases List.mem_append.mp hf with before | last
      · exact there file before
      · obtain rfl := List.mem_singleton.mp last
        exact absurd rfl hits

/-- **After a project was stored, each key names what was last written to its file.** -/
theorem ensures_storeAll_holds (h : AllHold folder w done state)
    (there : ∀ file ∈ done, (state file.1).isSome) :
    Ensures (storeAll (m := InWorkspace) folder pairs) w
      (fun _ after => AllHold folder after (done ++ pairs) (standing state (writes pairs)) ∧
        ∀ file ∈ done ++ pairs, (standing state (writes pairs) file.1).isSome)
      (fun _ _ => True) := by
  induction pairs generalizing w done state with
  | nil => exact (ensures_pure _).mpr (by simpa only [List.append_nil] using ⟨h, there⟩)
  | cons pair rest ih =>
    obtain ⟨key, text⟩ := pair
    simp only [storeAll, ensures_bind, ensures_result, ensures_adapt, ensures_pure]
    refine ⟨fun path here => ?_, fun _ _ => trivial⟩
    obtain ⟨plain, rfl⟩ := pathIn_eq_ok_iff.mp here
    refine (ensures_writeFile _ _ w).imp (fun _ v wrote => ?_) fun _ _ _ => trivial
    obtain ⟨holds, still⟩ := allHold_written h there plain wrote.1 wrote.2
    refine (ih holds still).imp (fun _ after all => ?_) fun _ _ _ => trivial
    rwa [List.append_assoc] at all

/-! ## 4. Comparing -/

/-- How a file differs by what its key names, if it does. -/
def Change.of? (key text : String) : Option String → Option Change
  | none => some (.missing key)
  | some found => if found = text then none else some (.changed key)

/-- The differences of files from what their keys name, in the order of the keys. -/
def differences (files : List (String × String)) (state : String → Option String) : List Change :=
  files.filterMap fun file => Change.of? file.1 file.2 (state file.1)

theorem ensures_readText_held {path : String} {held : Option String} (h : w.Holds path held) :
    Ensures (readText (m := InWorkspace) path) w (fun text after => after = w ∧ held = some text)
      (fun e after => after = w ∧ held = none ∧ e = .notFound) := by
  simp only [readText, ensures_bind, ensures_read]
  cases held with
  | none =>
    rw [h.read_none]
    refine ⟨fun _ good => (by cases good), fun e bad => ?_⟩
    cases bad
    exact ⟨trivial, rfl, rfl⟩
  | some text =>
    rw [h.read]
    refine ⟨fun content good => ?_, fun _ bad => by cases bad⟩
    cases good
    rw [fromUTF8?_eq_some_iff.mpr rfl]
    exact (ensures_pure _).mpr ⟨rfl, rfl⟩

theorem ensures_changeAt_held {text : String} {held : Option String} (plain : isPlain key = true)
    (h : w.Holds (join folder key) held) :
    Ensures (changeAt (m := InWorkspace) folder key text) w
      (fun change after => after = w ∧ change = Change.of? key text held) (fun _ _ => False) := by
  simp only [changeAt, ensures_bind, ensures_result, pathIn_eq_ok_iff.mpr ⟨plain, rfl⟩]
  refine ⟨fun path same => ?_, fun _ bad => by cases bad⟩
  cases same
  rw [ensures_run]
  refine (ensures_readText_held h).imp ?_ ?_
  · rintro found _ ⟨rfl, rfl⟩
    simp [Change.of?]
  · rintro fault _ ⟨rfl, rfl, rfl⟩
    exact (ensures_pure _).mpr ⟨rfl, rfl⟩

/-- **Comparing lists the differences of what stands.** -/
theorem ensures_changes_held (h : AllHold folder w files state) :
    Ensures (changesAmong (m := InWorkspace) folder files) w
      (fun found after => after = w ∧ found = differences files state) (fun _ _ => False) := by
  induction files with
  | nil => exact (ensures_pure _).mpr ⟨rfl, rfl⟩
  | cons file rest ih =>
    obtain ⟨⟨plain, held⟩, others⟩ := List.forall_mem_cons.mp h
    simp only [changesAmong, ensures_bind, ensures_pure]
    refine (ensures_changeAt_held plain held).imp ?_ fun _ _ => id
    rintro change _ ⟨rfl, rfl⟩
    refine (ih others).imp ?_ fun _ _ => id
    rintro found _ ⟨rfl, rfl⟩
    refine ⟨rfl, ?_⟩
    rw [differences, differences, List.filterMap_cons]
    cases Change.of? file.1 file.2 (state file.1) <;> rfl

/-- What comparing a folder with a project reports: it succeeds if there are no changes, and else
it fails with all of them. The folder stays as it is. -/
def Reports (folder : String) (files : FileSet) (w : Workspace) (found : List Change) : Prop :=
  Ensures (check (m := InWorkspace) folder files) w (fun _ after => after = w ∧ found = [])
    (fun e after => after = w ∧ found ≠ [] ∧ e = .drift (changesText folder found))

theorem reports_differences {files : FileSet} (h : AllHold folder w files.toList state) :
    Reports folder files w (differences files.toList state) := by
  simp only [Reports, check, changes, ensures_bind]
  refine (ensures_changes_held h).imp ?_ fun _ _ => False.elim
  rintro found _ ⟨rfl, rfl⟩
  split
  · rename_i none
    exact (ensures_pure _).mpr ⟨rfl, none⟩
  · rename_i some
    exact (ensures_throw _).mpr ⟨rfl, some, rfl⟩

theorem succeeds_of_reports {files : FileSet} {found : List Change}
    (h : Reports folder files w found) :
    Succeeds (check (m := InWorkspace) folder files) w ↔ found = [] := by
  constructor
  · rintro ⟨_, after, run⟩
    exact (h.success _ after run).2
  · intro none
    rw [succeeds_iff]
    intro fails
    obtain ⟨e, after, run⟩ : ∃ e after,
        (check (m := InWorkspace) folder files).run.run w = (.error e, after) := by
      rcases run : (check (m := InWorkspace) folder files).run.run w with ⟨e | a, after⟩
      · exact ⟨e, after, rfl⟩
      · exact (fails.success a after run).elim
    exact (h.failure e after run).2.1 none

/-! ## 5. Stored projects -/

/-- No file has two keys with different texts. -/
def Agree (files : FileSet) : Prop :=
  ∀ file ∈ files.toList, ∀ other ∈ files.toList, names file.1 = names other.1 → file.2 = other.2

instance (files : FileSet) : Decidable (Agree files) :=
  inferInstanceAs (Decidable (∀ file ∈ files.toList, _))

/-- The differences that edits of a stored project make. -/
def drift (files : FileSet) (edits : List Edit) : List Change :=
  differences files.toList (standing (stored files.toList) edits)

/-- The edited files: those removed as missing and those with another text as changed, in the order
of the keys. -/
def listed (files : FileSet) (edits : List Edit) : List Change :=
  files.toList.filterMap fun file =>
    (edits.find? (·.Hits file.1)).bind fun edit => Change.of? file.1 file.2 edit.text?

theorem differences_eq_nil_iff :
    differences files state = [] ↔ ∀ file ∈ files, state file.1 = some file.2 := by
  rw [differences, List.filterMap_eq_nil_iff]
  refine forall₂_congr fun file _ => ?_
  rcases state file.1 with _ | found
  · simp [Change.of?]
  · simp [Change.of?]

/-- If the keys of a file agree, each of them names its own text. -/
theorem stored_of_agree {files : FileSet} (agree : Agree files) {file : String × String}
    (hf : file ∈ files.toList) : stored files.toList file.1 = some file.2 := by
  rw [stored, standing_of_agree (some file.2), if_pos]
  · exact ⟨.write file.1 file.2, List.mem_map_of_mem hf, rfl⟩
  · intro edit he hits
    obtain ⟨other, ho, rfl⟩ := List.mem_map.mp he
    exact congrArg some (agree other ho file hf hits.symm)

theorem differences_stored_eq_nil_iff {files : FileSet} :
    differences files.toList (stored files.toList) = [] ↔ Agree files := by
  rw [differences_eq_nil_iff]
  refine ⟨fun stand file hf other ho same => ?_, fun agree file hf => stored_of_agree agree hf⟩
  -- the two keys name one text, and each its own
  have one : stored files.toList file.1 = stored files.toList other.1 := standing_congr same rfl
  rw [stand file hf, stand other ho] at one
  exact Option.some.inj one

/-- If each file is edited once, its edit says what it holds. -/
theorem standing_find? (apart : (edits.map (names ·.key)).Nodup) :
    standing state edits key =
      match edits.find? (·.Hits key) with
      | some edit => edit.text?
      | none => state key := by
  cases found : edits.find? (·.Hits key) with
  | none =>
    have missed : ∀ edit ∈ edits, ¬edit.Hits key := by simpa using List.find?_eq_none.mp found
    rw [standing_of_agree none fun edit he hits => absurd hits (missed edit he), if_neg]
    exact fun ⟨edit, he, hits⟩ => missed edit he hits
  | some edit =>
    have he := List.mem_of_find?_eq_some found
    have hits : edit.Hits key := by simpa using List.find?_some found
    rw [standing_of_agree edit.text? fun other ho again => ?_, if_pos ⟨edit, he, hits⟩]
    -- two edits of one file are the same
    rw [List.inj_on_of_nodup_map apart ho he (again.symm.trans hits)]

theorem drift_eq_listed {files : FileSet} (agree : Agree files)
    (are : AreEdits files.toList edits) : drift files edits = listed files edits := by
  refine List.filterMap_congr fun file hf => ?_
  rw [standing_find? are.apart]
  cases edits.find? (·.Hits file.1) with
  | some edit => rfl
  | none => simp [stored_of_agree agree hf, Change.of?]

/-- **Drift after a project was stored.** Any of the files may be removed or written since, and
comparing reports exactly the differences of what stands then from the project. Nothing is found
right after storing just if no file has two keys with different texts, and then exactly the edited
files are listed later. -/
theorem drift_after_store (folder : String) (files : FileSet) (w : Workspace) :
    Ensures (store (m := InWorkspace) folder files) w
      (fun _ v =>
        (∀ edits, AreEdits files.toList edits → ∃ u, edited folder v edits = .ok u ∧
          Reports folder files u (drift files edits)) ∧
        (Succeeds (check (m := InWorkspace) folder files) v ↔ Agree files) ∧
        (Agree files → ∀ edits, AreEdits files.toList edits →
          drift files edits = listed files edits))
      (fun _ _ => True) := by
  have nothing : AllHold folder w [] fun _ => none := fun file hf => nomatch hf
  refine (ensures_storeAll_holds nothing fun file hf => nomatch hf).imp (fun _ v after => ?_)
    fun _ _ _ => trivial
  obtain ⟨holds, there⟩ := after
  refine ⟨fun edits are => ?_, ?_, fun agree edits => drift_eq_listed agree⟩
  · have edited_there : ∀ edit ∈ edits, (stored files.toList edit.key).isSome := fun edit he => by
      obtain ⟨file, hf, key⟩ := List.mem_map.mp (are.keyed edit he)
      exact key ▸ there file hf
    obtain ⟨u, ran, after⟩ := allHold_edited holds are edited_there
    exact ⟨u, ran, reports_differences after⟩
  · rw [succeeds_of_reports (reports_differences holds)]
    exact differences_stored_eq_nil_iff

/-- A project with two keys of one file. -/
def slashFiles : FileSet := .ofList [("a//b.txt", "one"), ("a/b.txt", "two")]

/-- It is stored without an error, and comparing reports a drift right after it. -/
theorem slashFiles_drift :
    let ended := (store (m := InWorkspace) "out" slashFiles).run.run Workspace.empty
    ¬Agree slashFiles ∧ ended.1 = .ok ["out/a//b.txt", "out/a/b.txt"] ∧
      ((check (m := InWorkspace) "out" slashFiles).run.run ended.2).1 =
        .error (.drift "changed a//b.txt under out. Run apiforge generate.") := by
  decide +kernel

end Covenant.Client
