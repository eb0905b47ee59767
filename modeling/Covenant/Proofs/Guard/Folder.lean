import Covenant.Guard.Folder
import Covenant.Proofs.Files.Ensures
import Covenant.Proofs.Files.Names
import Covenant.Proofs.Guard.Report
/-!
# What a scan of a folder looks at

* `IsOpened root tree place content`: the file at a place below the root is one that a scan has to
  look at.
* `mem_scannedPlaces_iff` and `scannedPlaces_pairwise`: a scan goes to exactly these files, in the
  order of their places.
* `ensures_scanPlaces`: each of them is read and scanned under its path from the root, unless a path
  is too long.
* `folder_scan_complete_iff`: the scan of a folder is the scan of all these files. The scan of a
  single file never is: its path from the root is empty, so that no language is known for it.
-/

namespace Covenant.Guard

open Covenant.Files Covenant.Files.Path Covenant.Text

variable {rules : List Rule} {w : Workspace} {root : String} {place : Place} {content : ByteArray}
  {node : FileTree ByteArray}

/-! ## 1. Files that are to be looked at -/

/-- A file below a root that a scan has to look at: it is in a known language, it is not too large,
and no folder below the root that it lies in is left out. -/
structure IsOpened (root : String) (tree : FileTree ByteArray) (place : Place)
    (content : ByteArray) : Prop where
  there : tree.at? place = some (.file content)
  known : (Language.ofPath? (pathAt root place)).isSome
  small : content.size ≤ maxFileBytes
  entered : ∀ name ∈ place.dropLast, name ∉ skippedFolders

/-- No path of a file that is to be looked at is too long. -/
def PathsFit (root : String) (tree : FileTree ByteArray) : Prop :=
  ∀ place content, IsOpened root tree place content →
    (pathAt root place).utf8ByteSize ≤ Workspace.maxPath

/-- The report on texts at places below a root: each is scanned under its path from the root, and
each counts. -/
def reportOn (rules : List Rule) (files : List (Place × String)) : Report :=
  ⟨files.length, files.flatMap fun file =>
    (scanFile rules (joinStrings "/" file.1) file.2).violations⟩

/-- What a survey of the folder that is scanned finds. -/
def surveyed (tree : FileTree ByteArray) : FileTree Nat :=
  tree.outline (fun name => !skippedFolders.contains name) ByteArray.size

/-- **A scan goes to the files that are to be looked at.** -/
theorem mem_scannedPlaces_iff (proper : node.Proper) :
    place ∈ scannedPlaces root (surveyed node) ↔ ∃ content, IsOpened root node place content := by
  simp only [scannedPlaces, surveyed, List.mem_map, List.mem_filter, Prod.exists]
  constructor
  · rintro ⟨_, size, ⟨walked, kept⟩, rfl⟩
    obtain ⟨content, there, rfl, entered⟩ := (FileTree.mem_walk_iff proper.distinct).mp walked
    obtain ⟨known, small⟩ := Bool.and_eq_true_iff.mp kept
    exact ⟨content, there, known, of_decide_eq_true small, by simpa using entered⟩
  · rintro ⟨content, there, known, small, entered⟩
    refine ⟨place, content.size, ⟨(FileTree.mem_walk_iff proper.distinct).mpr ?_, ?_⟩, rfl⟩
    · exact ⟨content, there, rfl, by simpa using entered⟩
    · simp [known, small]

/-- A scan goes in the order of places. -/
theorem scannedPlaces_pairwise (root : String) (tree : FileTree Nat) :
    (scannedPlaces root tree).Pairwise (· < ·) :=
  List.pairwise_map.mpr ((FileTree.walk_pairwise tree).filter _)

/-! ## 2. Scanning -/

/-- The text in the file at a place, if it is one. -/
def textAt? (tree : FileTree ByteArray) (place : Place) : Option String :=
  match tree.at? place with
  | some (.file content) => String.fromUTF8? content
  | _ => none

theorem textAt?_eq_some_iff {text : String} :
    textAt? node place = some text ↔ node.at? place = some (.file text.toUTF8) := by
  unfold textAt?
  rcases node.at? place with _ | (content | entries) <;> simp [fromUTF8?_eq_some_iff]

/-- The report on the file at a place. -/
def reportAt (rules : List Rule) (tree : FileTree ByteArray) (place : Place) : Report :=
  match textAt? tree place with
  | some text => scanFile rules (joinStrings "/" place) text
  | none => .empty

/-- What is read at the path of a file below a folder or file that is found. -/
theorem read_pathAt {top : Place} (found : w.find root = .ok (top, node)) (proper : node.Proper)
    (there : node.at? place = some (.file content)) :
    w.read (pathAt root place) = if (pathAt root place).utf8ByteSize ≤ Workspace.maxPath
      then .ok content else .error .nameTooLong := by
  cases place with
  | nil =>
    obtain rfl : node = .file content := Option.some.inj there
    obtain ⟨checked, _⟩ := find_eq_ok_iff.mp found
    obtain ⟨_, _, short⟩ := checkPath_eq_ok_iff.mp checked
    rw [pathAt, if_pos short, Workspace.read, found]
    rfl
  | cons name rest => exact read_below found proper (List.cons_ne_nil name rest) there

/-- The language of a file is that of its path from the root. -/
theorem ofPath?_pathAt (root : String) (filled : place ≠ []) (named : ∀ name ∈ place, IsPart name) :
    Language.ofPath? (pathAt root place) = Language.ofPath? (joinStrings "/" place) := by
  have whole : pathAt root place = join root (joinStrings "/" place) := by
    obtain ⟨first, rest, rfl⟩ := List.exists_cons_of_ne_nil filled
    rfl
  have parts := components_joinStrings filled named
  have within : components (join root (joinStrings "/" place)) = components root ++ _ :=
    (components_join (isPlain_joinStrings filled named)).trans (congrArg _ parts)
  have alone := fileName?_of_components filled (parts.trans (List.nil_append _).symm)
  simp only [Language.ofPath?, Path.extension?, whole, alone,
    fileName?_of_components filled within]

@[simp] theorem ensures_survey {enter : String → Bool} {path : String}
    {done : FileTree Nat → Workspace → Prop} {failed : FileFault → Workspace → Prop} :
    Ensures (Host.survey (m := InWorkspace) enter path) w done failed ↔
      (∀ tree, w.survey enter path = .ok tree → done tree w) ∧
        (∀ e, w.survey enter path = .error e → failed e w) := ensures_look

/-- Scanning a file that is to be looked at fails just if its path is too long. -/
theorem ensures_scanPlace {top : Place} (found : w.find root = .ok (top, node))
    (proper : node.Proper) (there : node.at? place = some (.file content)) :
    Ensures (scanPlace (m := InWorkspace) rules root place) w
      (fun report after => after = w ∧
        (pathAt root place).utf8ByteSize ≤ Workspace.maxPath ∧ report = reportAt rules node place)
      (fun reason after => after = w ∧
        ¬(pathAt root place).utf8ByteSize ≤ Workspace.maxPath ∧ ∃ detail, reason = .io detail) := by
  have reads := read_pathAt found proper there
  have text : textAt? node place = String.fromUTF8? content := by rw [textAt?, there]
  simp only [scanPlace, ensures_bind, ensures_adapt, ensures_read, reads, reportAt, text]
  by_cases short : (pathAt root place).utf8ByteSize ≤ Workspace.maxPath
  · rw [if_pos short]
    refine ⟨fun stored e => ?_, fun e bad => by cases bad⟩
    obtain rfl := Except.ok.inj e
    cases String.fromUTF8? content <;> exact (ensures_pure _).mpr ⟨rfl, short, rfl⟩
  · rw [if_neg short]
    exact ⟨fun stored good => (by cases good), fun e _ => ⟨trivial, short, _, rfl⟩⟩

/-- **Scanning files below a root**: each is scanned, unless the path of one is too long. -/
theorem ensures_scanPlaces {top : Place} (found : w.find root = .ok (top, node))
    (proper : node.Proper) {places : List Place}
    (there : ∀ place ∈ places, ∃ content, node.at? place = some (.file content)) :
    Ensures (scanPlaces (m := InWorkspace) rules root places) w
      (fun report after => after = w ∧
        (∀ place ∈ places, (pathAt root place).utf8ByteSize ≤ Workspace.maxPath) ∧
        report = (places.map (reportAt rules node)).foldr Report.append .empty)
      (fun reason after => after = w ∧
        ¬(∀ place ∈ places, (pathAt root place).utf8ByteSize ≤ Workspace.maxPath) ∧
        ∃ detail, reason = .io detail) := by
  induction places with
  | nil => exact (ensures_pure _).mpr ⟨rfl, by simp, rfl⟩
  | cons first rest ih =>
    obtain ⟨⟨content, here⟩, later⟩ := List.forall_mem_cons.mp there
    simp only [scanPlaces, ensures_bind, ensures_pure, List.forall_mem_cons]
    refine (ensures_scanPlace found proper here).imp ?_ ?_
    · rintro report _ ⟨rfl, short, rfl⟩
      refine (ih later).imp ?_ ?_
      · rintro others _ ⟨rfl, all, rfl⟩
        exact ⟨rfl, ⟨short, all⟩, rfl⟩
      · rintro reason _ ⟨rfl, long, detail⟩
        exact ⟨rfl, fun all => long all.2, detail⟩
    · rintro reason _ ⟨rfl, long, detail⟩
      exact ⟨rfl, fun all => long all.1, detail⟩

/-! ## 3. Reports -/

/-- The texts at places. -/
def textsAt (tree : FileTree ByteArray) (places : List Place) : List (Place × String) :=
  places.filterMap fun place => (textAt? tree place).map (place, ·)

theorem mem_textsAt_iff {places : List Place} {text : String} :
    (place, text) ∈ textsAt node places ↔
      place ∈ places ∧ node.at? place = some (.file text.toUTF8) := by
  simp only [textsAt, List.mem_filterMap, Option.map_eq_some_iff, Prod.mk.injEq,
    textAt?_eq_some_iff]
  constructor
  · rintro ⟨other, ho, found, there, rfl, rfl⟩
    exact ⟨ho, there⟩
  · rintro ⟨hp, there⟩
    exact ⟨place, hp, text, there, rfl, rfl⟩

/-- **The texts that are scanned are those that are to be looked at.** -/
theorem mem_scannedTexts_iff (proper : node.Proper) {text : String} :
    (place, text) ∈ textsAt node (scannedPlaces root (surveyed node)) ↔
      IsOpened root node place text.toUTF8 := by
  rw [mem_textsAt_iff, mem_scannedPlaces_iff proper]
  constructor
  · rintro ⟨⟨content, opened⟩, there⟩
    have same := opened.there.symm.trans there
    simp only [Option.some.injEq, FileTree.file.injEq] at same
    exact same ▸ opened
  · exact fun opened => ⟨⟨_, opened⟩, opened.there⟩

theorem textsAt_pairwise {places : List Place} (h : places.Pairwise (· < ·)) :
    (textsAt node places).Pairwise fun first second => first.1 < second.1 := by
  refine h.filterMap _ fun place other lt first hf second hs => ?_
  obtain ⟨_, _, rfl⟩ := Option.map_eq_some_iff.mp hf
  obtain ⟨_, _, rfl⟩ := Option.map_eq_some_iff.mp hs
  exact lt

/-- The reports on files in known languages, put together. -/
theorem foldr_reportAt {places : List Place}
    (known : ∀ place ∈ places, (Language.ofPath? (joinStrings "/" place)).isSome) :
    (places.map (reportAt rules node)).foldr Report.append .empty =
      reportOn rules (textsAt node places) := by
  induction places with
  | nil => rfl
  | cons first rest ih =>
    obtain ⟨here, later⟩ := List.forall_mem_cons.mp known
    rw [List.map_cons, List.foldr_cons, ih later, reportAt]
    cases text : textAt? node first with
    | none => simp [Report.append, Report.empty, reportOn, textsAt, text]
    | some text =>
      simp only
      rw [scanFile_of_known here]
      simp [Report.append, reportOn, textsAt, text, Nat.add_comm]

/-- Nothing is reported on a single file. -/
theorem foldr_reportAt_top {places : List Place} (top : ∀ place ∈ places, place = []) :
    (places.map (reportAt rules node)).foldr Report.append .empty = .empty := by
  induction places with
  | nil => rfl
  | cons first rest ih =>
    obtain ⟨rfl, later⟩ := List.forall_mem_cons.mp top
    have nothing : reportAt rules node [] = .empty := by
      have unknown : Language.ofPath? (joinStrings "/" []) = none := by decide +kernel
      rw [reportAt]
      cases textAt? node [] <;> simp [scanFile, unknown]
    rw [List.map_cons, List.foldr_cons, ih later, nothing]
    rfl

/-- **What a scan of a folder or a file ensures.** -/
theorem ensures_scanFolder {top : Place} (found : w.find root = .ok (top, node))
    (proper : node.Proper) :
    Ensures (scanFolder (m := InWorkspace) rules root) w
      (fun report after => after = w ∧ PathsFit root node ∧ report =
        if node.isFolder then reportOn rules (textsAt node (scannedPlaces root (surveyed node)))
        else .empty)
      (fun reason after => after = w ∧ ¬PathsFit root node ∧ ∃ detail, reason = .io detail) := by
  have survey :
      w.survey (fun name => !skippedFolders.contains name) root = .ok (surveyed node) := by
    rw [Workspace.survey, found]
    rfl
  have opened : ∀ place ∈ scannedPlaces root (surveyed node),
      ∃ content, IsOpened root node place content := fun place => (mem_scannedPlaces_iff proper).mp
  have fits : (∀ place ∈ scannedPlaces root (surveyed node),
      (pathAt root place).utf8ByteSize ≤ Workspace.maxPath) ↔ PathsFit root node :=
    ⟨fun all place content h => all place ((mem_scannedPlaces_iff proper).mpr ⟨content, h⟩),
      fun all place hp => (opened place hp).elim fun content h => all place content h⟩
  simp only [scanFolder, ensures_bind, ensures_adapt, ensures_survey, survey]
  refine ⟨fun tree e => ?_, fun e bad => by cases bad⟩
  obtain rfl := Except.ok.inj e
  refine (ensures_scanPlaces found proper fun place hp => ?_).imp ?_ ?_
  · obtain ⟨content, h⟩ := opened place hp
    exact ⟨content, h.there⟩
  · rintro report _ ⟨rfl, short, rfl⟩
    refine ⟨rfl, fits.mp short, ?_⟩
    cases node with
    | file content =>
      refine foldr_reportAt_top fun place hp => ?_
      obtain ⟨_, h⟩ := opened place hp
      cases place with
      | nil => rfl
      | cons name rest => cases h.there
    | folder entries =>
      refine foldr_reportAt fun place hp => ?_
      obtain ⟨_, h⟩ := opened place hp
      have filled : place ≠ [] := by
        rintro rfl
        cases h.there
      rw [← ofPath?_pathAt root filled fun name hn => (proper.isFileName h.there name hn).toIsPart]
      exact h.known
  · rintro reason _ ⟨rfl, long, detail⟩
    exact ⟨rfl, fun all => long (fits.mpr all), detail⟩

/-- **When a scan reports on every file that is to be looked at.** The texts below a root that are
to be looked at come in the order of their places, which is the order of a walk through sorted
folders. The report on a folder is the report on all of them, each once and under its path from the
root; it is an error just if a path is too long. The report on a single file is empty, so that it
misses the file if there is anything to look at. -/
theorem folder_scan_complete_iff {top : Place} (rules : List Rule)
    (found : w.find root = .ok (top, node)) (proper : node.Proper) :
    ∃ scanned : List (Place × String),
      (∀ place text, (place, text) ∈ scanned ↔ IsOpened root node place text.toUTF8) ∧
      scanned.Pairwise (fun first second => first.1 < second.1) ∧
      Ensures (scanFolder (m := InWorkspace) rules root) w
        (fun report after => after = w ∧ PathsFit root node ∧
          (report = reportOn rules scanned ↔ node.isFolder = true ∨ scanned = []) ∧
          (node.isFolder = false → report = .empty))
        (fun reason after => after = w ∧ ¬PathsFit root node ∧ ∃ detail, reason = .io detail) := by
  refine ⟨textsAt node (scannedPlaces root (surveyed node)), fun _ _ => mem_scannedTexts_iff proper,
    textsAt_pairwise (scannedPlaces_pairwise root _), ?_⟩
  refine (ensures_scanFolder found proper).imp ?_ fun _ _ failed => failed
  rintro report _ ⟨rfl, fits, rfl⟩
  refine ⟨rfl, fits, ?_, fun file => by simp [file]⟩
  cases folder : node.isFolder with
  | true => simp
  | false =>
    simp only [Bool.false_eq_true, if_false, false_or]
    constructor
    · intro same
      have count := congrArg Report.scanned same
      exact List.eq_nil_of_length_eq_zero count.symm
    · intro none
      rw [none]
      rfl

/-- A folder with a file in a folder. -/
def callTree : FileTree ByteArray :=
  .folder [("src", .folder [("app.ts", .file "fetch(1)".toUTF8)])]

/-- A workspace in which commands run in this folder. -/
def callWorkspace : Workspace := { Workspace.empty with tree := .folder [("work", callTree)] }

theorem callWorkspace_reported :
    callWorkspace.find "." = .ok (["work"], callTree) ∧ callTree.Proper ∧
    ∃ scanned : List (Place × String), (["src", "app.ts"], "fetch(1)") ∈ scanned ∧
      Ensures (scanFolder (m := InWorkspace) defaultRules ".") callWorkspace
        (fun report after => after = callWorkspace ∧ report = reportOn defaultRules scanned)
        (fun _ _ => False) := by
  have proper : callTree.Proper := by
    have named : AreFileNames ["src"] ∧ AreFileNames ["app.ts"] := by decide +kernel
    refine .folder named.1 fun entry he => ?_
    obtain rfl := List.mem_singleton.mp he
    refine .folder named.2 fun entry he => ?_
    obtain rfl := List.mem_singleton.mp he
    exact .file _
  have found : callWorkspace.find "." = .ok (["work"], callTree) := rfl
  have fits : PathsFit "." callTree := fun place content opened => by
    have walked := (mem_scannedPlaces_iff proper).mpr ⟨content, opened⟩
    have places : scannedPlaces "." (surveyed callTree) = [["src", "app.ts"]] := by decide +kernel
    rw [places] at walked
    obtain rfl := List.mem_singleton.mp walked
    decide +kernel
  obtain ⟨scanned, mem, _, ends⟩ := folder_scan_complete_iff defaultRules found proper
  refine ⟨found, proper, scanned, ?_, ends.imp ?_ fun _ _ failed => failed.2.1 fits⟩
  · exact (mem _ _).mpr ⟨rfl, by decide +kernel, by decide +kernel, by decide +kernel⟩
  · exact fun report after done => ⟨done.1, done.2.2.1.mpr (.inl rfl)⟩

/-- A workspace in which commands run in the folder of the file. -/
def callFileWorkspace : Workspace := { callWorkspace with here := ["work", "src"] }

/-- A single file is to be looked at, and is not reported on. -/
theorem single_file_unreported :
    callFileWorkspace.find "app.ts" = .ok (["work", "src", "app.ts"], .file "fetch(1)".toUTF8) ∧
      IsOpened "app.ts" (.file "fetch(1)".toUTF8) [] "fetch(1)".toUTF8 ∧
      Ensures (scanFolder (m := InWorkspace) defaultRules "app.ts") callFileWorkspace
        (fun report _ => report.scanned = 0) (fun _ _ => False) := by
  have found : callFileWorkspace.find "app.ts" =
      .ok (["work", "src", "app.ts"], .file "fetch(1)".toUTF8) := rfl
  refine ⟨found, ⟨rfl, by decide +kernel, by decide +kernel, by decide +kernel⟩, ?_⟩
  refine (ensures_scanFolder found (.file _)).imp ?_ ?_
  · rintro report _ ⟨rfl, _, rfl⟩
    rfl
  · rintro reason after ⟨_, long, _⟩
    refine long fun place content opened => ?_
    cases place with
    | nil => decide +kernel
    | cons name rest => cases opened.there

end Covenant.Guard
