import Covenant.Proofs.Client.Alone
import Covenant.Proofs.Client.Context
import Covenant.Proofs.Client.Listing
import Covenant.Proofs.Client.Size
import Covenant.Proofs.Guard.Folder
/-!
# Scanning a generated project

A project can be scanned as it was generated or in the folder where it was stored.

* `scan_of_holdsOnly`: the scan of a folder reports on the files in it, but for those in a folder
  that is left out.
* `isLeftOut_iff`: such files of a project are the source files of a Java package with a part that
  names a folder to be left out.
* `stored_scan_agrees`: for all other projects both reports agree.
-/

namespace Covenant.Guard

open Covenant.Client Covenant.Contract Covenant.Files Covenant.Files.Path Covenant.Text

variable {rules : List Rule} {w v : Workspace} {root : String} {pairs : List (String × String)}
  {node : FileTree ByteArray}

/-! ## 1. Scanning a folder with nothing else in it -/

/-- A folder on the way to the file is left out of a scan. -/
def IsLeftOut (key : String) : Prop := ∃ name ∈ (names key).dropLast, name ∈ skippedFolders

instance (key : String) : Decidable (IsLeftOut key) :=
  inferInstanceAs (Decidable (∃ name ∈ _, _))

/-- The files that a scan of their folder looks at. -/
abbrev looked (pairs : List (String × String)) : List (String × String) :=
  (pairs.filter fun pair => ¬IsLeftOut pair.1).filter fun pair => IsKnown pair.1

/-- Files in known languages count one each. -/
theorem reportOn_eq_reportIn {scanned : List (Place × String)}
    (known : ∀ file ∈ scanned, IsKnown (joinStrings "/" file.1)) :
    reportOn rules scanned =
      reportIn rules (scanned.map fun file => (joinStrings "/" file.1, file.2)) := by
  simp only [reportIn, concat_eq, reportOn, List.map_map, List.flatMap_map]
  congr 1
  have ones : ∀ file ∈ scanned, (scanFile rules (joinStrings "/" file.1) file.2).scanned = 1 :=
    fun file hf => by rw [scanFile_of_known (known file hf)]
  have count : scanned.map (fun file =>
      (scanFile rules (joinStrings "/" file.1) file.2).scanned) = scanned.map fun _ => 1 :=
    List.map_congr_left ones
  simpa [Function.comp_def] using (congrArg List.sum count).symm

section HoldsOnly

variable (keyed : AreKeyed pairs)
include keyed

theorem pathAt_names (root : String) {pair : String × String} (hp : pair ∈ pairs) :
    pathAt root (names pair.1) = join root pair.1 := by
  obtain ⟨filled, _, joined⟩ := keyed.joined hp
  obtain ⟨first, rest, split⟩ := List.exists_cons_of_ne_nil filled
  rw [split] at joined ⊢
  exact congrArg (join root) joined

/-- The language of a file is known by its key. -/
theorem ofPath?_names (root : String) {pair : String × String} (hp : pair ∈ pairs) :
    Language.ofPath? (pathAt root (names pair.1)) = Language.ofPath? pair.1 := by
  obtain ⟨filled, parts, joined⟩ := keyed.joined hp
  rw [ofPath?_pathAt root filled parts, joined]

variable (only : HoldsOnly v root pairs node)
include only

theorem pathsFit_of_holdsOnly : PathsFit root node := by
  intro place content opened
  obtain ⟨pair, hp, rfl, _⟩ := (only.files place content).mp opened.there
  rw [pathAt_names keyed root hp]
  exact only.short pair hp

variable (small : ∀ pair ∈ pairs, pair.2.toUTF8.size ≤ maxFileBytes)
include small

/-- **The files to be looked at are those of the project**, but for those left out. -/
theorem isOpened_iff_looked {place : Place} {text : String} :
    IsOpened root node place text.toUTF8 ↔
      ∃ pair ∈ looked pairs, names pair.1 = place ∧ pair.2 = text := by
  simp only [looked, List.mem_filter, decide_eq_true_eq]
  constructor
  · intro opened
    obtain ⟨pair, hp, rfl, same⟩ := (only.files place _).mp opened.there
    have known := opened.known
    rw [ofPath?_names keyed root hp] at known
    refine ⟨pair, ⟨⟨hp, ?_⟩, known⟩, rfl, String.toByteArray_inj.mp same⟩
    exact fun ⟨name, hn, left_out⟩ => opened.entered name hn left_out
  · rintro ⟨pair, ⟨⟨hp, entered⟩, known⟩, rfl, rfl⟩
    refine ⟨(only.files _ _).mpr ⟨pair, hp, rfl, rfl⟩, ?_, small pair hp, ?_⟩
    · rw [ofPath?_names keyed root hp]
      exact known
    · exact fun name hn left_out => entered ⟨name, hn, left_out⟩

/-- The texts that are scanned are the files that are looked at, by the names of their keys. -/
theorem textsAt_perm_looked :
    ((textsAt node (scannedPlaces root (surveyed node))).map fun file =>
      (joinStrings "/" file.1, file.2)).Perm (looked pairs) := by
  have mem : ∀ file, file ∈ textsAt node (scannedPlaces root (surveyed node)) ↔
      file ∈ (looked pairs).map fun pair => (names pair.1, pair.2) := by
    rintro ⟨place, text⟩
    rw [mem_scannedTexts_iff only.proper, isOpened_iff_looked keyed only small]
    simp
  have within : ∀ pair ∈ looked pairs, pair ∈ pairs := fun pair hp =>
    List.mem_of_mem_filter (List.mem_of_mem_filter hp)
  have once : (textsAt node (scannedPlaces root (surveyed node))).Nodup := by
    refine (textsAt_pairwise (scannedPlaces_pairwise root _)).imp ?_
    rintro file _ lt rfl
    exact List.lt_irrefl _ lt
  have distinct : ((looked pairs).map fun pair => (names pair.1, pair.2)).Nodup := by
    have apart : (looked pairs).Nodup := ((List.Nodup.of_map _ keyed.distinct).filter _).filter _
    refine apart.map_on fun pair hp other ho same => ?_
    exact keyed.eq_of_names (within pair hp) (within other ho) (Prod.mk.inj same).1
  refine (((List.perm_ext_iff_of_nodup once distinct).mpr mem).map _).trans (.of_eq ?_)
  rw [List.map_map]
  refine (List.map_congr_left fun pair hp => ?_).trans (List.map_id _)
  exact Prod.ext (keyed.joined (within pair hp)).2.2 rfl

/-- **The scan of a folder reports on the files in it**, but for those in a folder that is left
out. -/
theorem scan_of_holdsOnly (rules : List Rule) :
    Ensures (scanFolder (m := InWorkspace) rules root) v
      (fun report after => after = v ∧
        IsReportOn rules (pairs.filter fun pair => ¬IsLeftOut pair.1) report)
      (fun _ _ => False) := by
  refine (ensures_scanFolder only.found only.proper).imp ?_ fun reason after failed =>
    failed.2.1 (pathsFit_of_holdsOnly keyed only)
  rintro report _ ⟨rfl, _, rfl⟩
  rw [if_pos only.folder]
  have files := textsAt_perm_looked keyed only small
  have known : ∀ file ∈ textsAt node (scannedPlaces root (surveyed node)),
      IsKnown (joinStrings "/" file.1) := fun file hf => by
    have kept := files.subset (List.mem_map_of_mem hf)
    simpa using (List.mem_filter.mp kept).2
  rw [reportOn_eq_reportIn known]
  exact ⟨rfl, .of_known files⟩

end HoldsOnly

/-! ## 2. Scanning a project -/

/-- **Only folders of a Java package are left out.** -/
theorem leftOut_iff (target : Target) {parts : List String} {className : String} {place : Place}
    (h : place ∈ target.places parts className) :
    (∃ name ∈ place.dropLast, name ∈ skippedFolders) ↔
      target = .java ∧ place ≠ ["pom.xml"] ∧ ∃ part ∈ parts, part ∈ skippedFolders := by
  cases target with
  | go | python | rust | typescript =>
    simp only [reduceCtorEq, false_and, iff_false]
    revert place
    change ∀ place ∈ ([_, _, _] : List Place), ¬∃ name ∈ place.dropLast, name ∈ skippedFolders
    decide
  | java =>
    have entered : ∀ name ∈ ["src", "main", "java"], name ∉ skippedFolders := by decide
    have inside : ∀ file, ((∃ name ∈ (["src", "main", "java"] ++ parts ++ [file]).dropLast,
        name ∈ skippedFolders) ↔ ∃ part ∈ parts, part ∈ skippedFolders) := by
      intro file
      rw [List.dropLast_concat]
      constructor
      · rintro ⟨name, hn, left_out⟩
        rcases List.mem_append.mp hn with above | part
        · exact absurd left_out (entered name above)
        · exact ⟨name, part, left_out⟩
      · exact fun ⟨part, hp, left_out⟩ => ⟨part, List.mem_append_right _ hp, left_out⟩
    simp only [Target.places, List.mem_cons, List.not_mem_nil, or_false] at h
    have some_file : ∀ file, ["src", "main", "java"] ++ parts ++ [file] ≠ ["pom.xml"] := by simp
    rcases h with rfl | rfl | rfl
    · simp only [inside, some_file, ne_eq, not_false_eq_true, true_and]
    · simp only [inside, some_file, ne_eq, not_false_eq_true, true_and]
    · simp

/-- **What a scan of a stored project leaves out**: the files of a Java package with a part that
names a folder to be left out. -/
theorem isLeftOut_iff {document : Document} {context : EmitContext} (made : context.Of document)
    {operations : List Operation} {target : Target} {files : FileSet}
    (h : target.dialect.emit operations context = .ok files) {file : String × String}
    (hf : file ∈ files.toList) :
    IsLeftOut file.1 ↔ target = .java ∧ file.1 ≠ "pom.xml" ∧
      ∃ part ∈ packageParts context.packageName, part ∈ skippedFolders := by
  obtain ⟨parts, filled, words, package⟩ := made.wellFormed.package
  have chars : ∀ part ∈ parts, Naming.OfWordChars part := fun part hp => (words part hp).2
  have key := key_of_emit h hf
  rw [keys_eq_places target filled chars package] at key
  obtain ⟨place, ho, named⟩ := List.mem_map.mp key
  obtain ⟨some_name, parts_of_path⟩ := isPart_of_mem_places words made.wellFormed.ofWordChars ho
  have names_place : names file.1 = place := by
    rw [← named, names_joinStrings some_name parts_of_path]
  have manifest : file.1 = "pom.xml" ↔ place = ["pom.xml"] := by
    rw [← names_place]
    constructor
    · intro e
      rw [e]
      decide
    · intro e
      rw [← named, ← names_place, e]
      rfl
  rw [IsLeftOut, names_place, leftOut_iff target ho, Ne, ← manifest, package,
    packageParts_joinStrings filled chars]

/-- **Scanning a project where it was stored and scanning it as it was generated.** Both report on
the same files, each in its own order, but for the source files of a Java package with a part that
names a folder to be left out: these are not scanned where the project was stored. -/
theorem stored_scan_agrees {document : Document} {context : EmitContext}
    (made : context.Of document) {operations : List Operation} {language : String}
    {target : Target} (meant : Target.resolve? language = some target) {files : FileSet}
    (emitted : emit operations language context = .ok files) (rules : List Rule)
    (tidy : w.tree.Tidy) (vacant : IsVacant w root)
    (small : ∀ file ∈ files.toList, file.2.toUTF8.size ≤ maxFileBytes) :
    Ensures (store (m := InWorkspace) root files) w
      (fun _ stored => Ensures (scanFolder (m := InWorkspace) rules root) stored
        (fun report after => after = stored ∧
          IsReportOn rules (files.toList.filter fun file => ¬IsLeftOut file.1) report ∧
          (¬(target = .java ∧ ∃ part ∈ packageParts context.packageName, part ∈ skippedFolders) →
            report.scanned = (scanFiles rules files).scanned ∧
            report.violations.Perm (scanFiles rules files).violations))
        (fun _ _ => False))
      (fun _ _ => True) ∧
    ∀ file ∈ files.toList, IsLeftOut file.1 ↔ target = .java ∧ file.1 ≠ "pom.xml" ∧
      ∃ part ∈ packageParts context.packageName, part ∈ skippedFolders := by
  have of_dialect : target.dialect.emit operations context = .ok files := by
    simp only [emit, meant] at emitted
    exact mapError_eq_ok_iff.mp emitted
  have keyed := areKeyed_of_emit made of_dialect
  have left_out : ∀ file ∈ files.toList, IsLeftOut file.1 ↔ target = .java ∧ file.1 ≠ "pom.xml" ∧
      ∃ part ∈ packageParts context.packageName, part ∈ skippedFolders :=
    fun file hf => isLeftOut_iff made of_dialect hf
  have filled : files.toList ≠ [] := by
    obtain ⟨text, hm⟩ := exists_of_emit of_dialect (.head _)
    exact List.ne_nil_of_mem hm
  refine ⟨(ensures_storeAll_alone tidy vacant filled keyed).imp ?_ fun _ _ _ => trivial, left_out⟩
  rintro _ stored ⟨node, only⟩
  refine (scan_of_holdsOnly keyed only small rules).imp ?_ fun _ _ => id
  rintro report _ ⟨rfl, reported⟩
  refine ⟨rfl, reported, fun none => ?_⟩
  have all : (files.toList.filter fun file => ¬IsLeftOut file.1) = files.toList := by
    refine List.filter_eq_self.mpr fun file hf => ?_
    have entered : ¬IsLeftOut file.1 := fun out =>
      none (((left_out file hf).mp out).imp_right And.right)
    simpa using entered
  rw [all] at reported
  exact reported.agree (isReportOn_scanFiles rules files)

/-- A document of this title with one operation. -/
def titled (title : String) : Document :=
  { petsDocument "listPets" with info := ⟨title, "1", none⟩ }

/-- Its project in Java. -/
def javaProject (title : String) : FileSet :=
  weaveProject .java ((titled title).extract none) (.ofDocument (titled title))

theorem emit_titled (title : String) :
    emit ((titled title).extract none) "java" (.ofDocument (titled title)) =
      .ok (javaProject title) := by
  have meant : Target.resolve? "java" = some .java := resolve?_id .java
  simp only [emit, meant, emit_eq_weave]
  rfl

/-- Nothing is in an empty workspace. -/
theorem isVacant_empty : IsVacant Workspace.empty "gen" := by
  refine ⟨rfl, fun rest stored there => ?_⟩
  have place : Workspace.empty.placeOf "gen" = ["work", "gen"] := by decide
  rw [place] at there
  cases there

theorem tidy_workspace_empty : Workspace.empty.tree.Tidy := by
  have named : AreTidyNames ["work"] := ⟨List.pairwise_singleton _ _, by decide⟩
  refine .folder named fun entry he => ?_
  obtain rfl := List.mem_singleton.mp he
  exact FileTree.tidy_empty

theorem small_javaProject (title : String)
    (slots : ∀ name ∈ ["title", "version", "service_name", "class_name", "base_url", "package",
      "operations", "methods", "aliases"],
      (intoFile .java ((titled title).extract none) (.ofDocument (titled title))
        name).text.utf8ByteSize ≤ 80000) :
    ∀ file ∈ (javaProject title).toList, file.2.toUTF8.size ≤ maxFileBytes :=
  fun file hf => (size_le_of_slots slots file hf).trans (by decide)

/-- A project of no such name is reported on in its folder as it was generated. -/
theorem pets_scan_agrees :
    emit ((titled "Pets").extract none) "java" (.ofDocument (titled "Pets")) =
        .ok (javaProject "Pets") ∧
      (∀ file ∈ (javaProject "Pets").toList, file.2.toUTF8.size ≤ maxFileBytes) ∧
      Ensures (store (m := InWorkspace) "gen" (javaProject "Pets")) Workspace.empty
        (fun _ stored => Ensures (scanFolder (m := InWorkspace) defaultRules "gen") stored
          (fun report after => after = stored ∧
            report.scanned = (scanFiles defaultRules (javaProject "Pets")).scanned ∧
            report.violations.Perm (scanFiles defaultRules (javaProject "Pets")).violations)
          (fun _ _ => False))
        (fun _ _ => True) := by
  have meant : Target.resolve? "java" = some .java := resolve?_id .java
  have small := small_javaProject "Pets" (by decide +kernel)
  have entered : ¬(Target.java = .java ∧ ∃ part ∈ packageParts
      (EmitContext.ofDocument (titled "Pets")).packageName, part ∈ skippedFolders) := by
    decide
  refine ⟨emit_titled "Pets", small, ?_⟩
  refine (stored_scan_agrees .given meant (emit_titled "Pets") defaultRules tidy_workspace_empty
    isVacant_empty small).1.imp (fun _ stored scanned => ?_) fun _ _ => id
  exact scanned.imp (fun report after done => ⟨done.1, done.2.2 entered⟩) fun _ _ => id

/-- A project in a package that ends in the name of such a folder is not scanned in its folder. -/
theorem target_unscanned :
    emit ((titled "Target").extract none) "java" (.ofDocument (titled "Target")) =
        .ok (javaProject "Target") ∧
      (∀ file ∈ (javaProject "Target").toList, file.2.toUTF8.size ≤ maxFileBytes) ∧
      (scanFiles defaultRules (javaProject "Target")).scanned = 2 ∧
      Succeeds (store (m := InWorkspace) "gen" (javaProject "Target")) Workspace.empty ∧
      Ensures (store (m := InWorkspace) "gen" (javaProject "Target")) Workspace.empty
        (fun _ stored => Ensures (scanFolder (m := InWorkspace) defaultRules "gen") stored
          (fun report _ => report.scanned = 0) (fun _ _ => False))
        (fun _ _ => True) := by
  have small := small_javaProject "Target" (by decide +kernel)
  have keys : (javaProject "Target").toList.map Prod.fst = ["pom.xml",
      "src/main/java/com/example/target/Main.java",
      "src/main/java/com/example/target/TargetApi.java"] := by decide +kernel
  have keyed : AreKeyed (javaProject "Target").toList :=
    areKeyed_of_emit .given (emit_eq_weave .java _ _)
  refine ⟨emit_titled "Target", small, ?_, ?_, ?_⟩
  · rw [(isReportOn_scanFiles defaultRules _).scanned, keys]
    decide +kernel
  · have ended : ((store (m := InWorkspace) "gen" (javaProject "Target")).run.run
        Workspace.empty).1.toOption.isSome = true := by decide +kernel
    rcases run : (store (m := InWorkspace) "gen" (javaProject "Target")).run.run
      Workspace.empty with ⟨e | paths, after⟩
    · rw [run] at ended
      cases ended
    · exact ⟨paths, after, run⟩
  · have filled : (javaProject "Target").toList ≠ [] := fun none => by
      rw [none] at keys
      cases keys
    refine (ensures_storeAll_alone tidy_workspace_empty isVacant_empty filled keyed).imp ?_
      fun _ _ => id
    rintro _ stored ⟨node, only⟩
    refine (scan_of_holdsOnly keyed only small defaultRules).imp ?_ fun _ _ => id
    rintro report _ ⟨_, reported⟩
    have kept : ((javaProject "Target").toList.filter fun file => ¬IsLeftOut file.1).map Prod.fst =
        ((javaProject "Target").toList.map Prod.fst).filter fun key => ¬IsLeftOut key := by
      rw [List.filter_map]
      rfl
    rw [reported.scanned, kept, keys]
    decide +kernel

end Covenant.Guard
