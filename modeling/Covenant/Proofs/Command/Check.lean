import Covenant.Proofs.Client.Compared
import Covenant.Proofs.Command.Generate
/-!
# Checking what was generated

`check` tells whether the projects on disk are those that would be generated, and right after
`generate` they are.

* `ensures_check`: `check` succeeds just if every file of the emission stands, and changes nothing.
* `emission_later`: writing elsewhere than to the contract does not change what is emitted.
* `ensures_generate_without_task` is `generate` without a task as a whole. From it follow that
  everything emitted was written (`ensures_generate_written`) and that, run once more, it leaves the
  files that stand (`ensures_generate_again`).
* `generate_then_check`: after `generate`, everything is up to date and stays as it is.
-/

namespace Covenant.Command

open Covenant.Client Covenant.Contract Covenant.Files Covenant.Files.Path Covenant.Guard

variable {w v : Workspace} {config : Config}

/-! ## 1. Comparing -/

/-- Every file of the projects can be where it belongs. -/
def Plain (projects : Projects) : Prop :=
  ∀ project ∈ projects, ∀ pair ∈ project.2.toList, isPlain pair.1 = true

/-- What is shown of languages that are up to date. -/
def upToDate (languages : List String) : String :=
  String.join (languages.map (· ++ ": up to date\n"))

/-- The files of the first project and those of the others. -/
theorem stand_written_cons {folder language : String} {files : FileSet} {rest : Projects} :
    Stand w (written folder ((language, files) :: rest)) ↔
      Stand w (filesIn (join folder language) files.toList) ∧ Stand w (written folder rest) :=
  List.forall_mem_append

/-- **Comparing projects finds nothing just if their files stand.** -/
theorem ensures_compareProjects (folder : String) (projects : Projects) (w : Workspace) :
    Ensures (compareProjects (m := InWorkspace) folder projects) w
      (fun differing after => (∃ output, after = { w with output }) ∧ Plain projects ∧
        (differing = [] ↔ Stand w (written folder projects)) ∧
        (differing = [] → after.output = w.output ++ upToDate (projects.map Prod.fst)))
      (fun _ after => (∃ output, after = { w with output }) ∧
        ¬(Plain projects ∧ Stand w (written folder projects))) := by
  induction projects generalizing w with
  | nil =>
    refine (ensures_pure _).mpr ⟨⟨w.output, rfl⟩, ?_, ?_, fun _ => ?_⟩
    · simp [Plain]
    · simp [written, Stand]
    · simp [upToDate]
  | cons project rest ih =>
    obtain ⟨language, files⟩ := project
    have plain_cons : Plain ((language, files) :: rest) ↔
        (∀ pair ∈ files.toList, isPlain pair.1 = true) ∧ Plain rest := List.forall_mem_cons
    simp only [compareProjects, changes, ensures_bind, ensures_adapt, plain_cons,
      stand_written_cons]
    refine (ensures_changes (join folder language) files.toList w).imp ?_ ?_
    · rintro found _ ⟨rfl, plain, clean⟩
      cases found with
      | nil =>
        have here := clean.mp rfl
        simp only [ensures_bind, ensures_say_command]
        refine (ih _).imp ?_ ?_
        · rintro differing after ⟨⟨output, rfl⟩, all, others, shown⟩
          refine ⟨⟨output, rfl⟩, ⟨plain, all⟩, others.trans (iff_and_self.mpr fun _ => here), ?_⟩
          intro none
          rw [shown none]
          simp [upToDate, String.append_assoc]
        · rintro e after ⟨⟨output, rfl⟩, differs⟩
          exact ⟨⟨output, rfl⟩, fun stands => differs ⟨stands.1.2, stands.2.2⟩⟩
      | cons change more =>
        have here := mt clean.mpr (List.cons_ne_nil change more)
        simp only [ensures_bind, ensures_pure]
        refine (ih _).imp ?_ ?_
        · rintro differing after ⟨same, all, _, _⟩
          exact ⟨same, ⟨plain, all⟩, iff_of_false (List.cons_ne_nil _ _) fun stand => here stand.1,
            fun none => absurd none (List.cons_ne_nil _ _)⟩
        · rintro e after ⟨same, differs⟩
          exact ⟨same, fun stands => here stands.2.1⟩
    · rintro e _ ⟨rfl, differs⟩
      exact ⟨⟨_, rfl⟩, fun stands => differs ⟨stands.1.1, stands.2.1⟩⟩

/-- **`check` succeeds just if everything stands that would be generated.** It then shows that
every language is up to date, and in any case it changes no file. -/
theorem ensures_check (config : Config) (options : EmitOptions) (w : Workspace) :
    Ensures (check (m := InWorkspace) config options) w
      (fun ending after => ending = .done ∧ ∃ projects,
        projectsIn w config options options.operations = .ok projects ∧ Plain projects ∧
        Stand w (written (outputPath config options.output) projects) ∧
        after = { w with output := w.output ++ upToDate (projects.map Prod.fst) })
      (fun _ after => (∃ output, after = { w with output }) ∧ ∀ projects,
        projectsIn w config options options.operations = .ok projects →
        ¬(Plain projects ∧ Stand w (written (outputPath config options.output) projects))) := by
  simp only [check, ensures_bind, ensures_projects]
  refine ⟨fun projects wanted => ?_, fun e missing => ⟨⟨_, rfl⟩, fun projects wanted => ?_⟩⟩
  · have same : ∀ others, projectsIn w config options options.operations = .ok others →
        projects = others := fun others h => Except.ok.inj (wanted.symm.trans h)
    refine (ensures_compareProjects _ projects w).imp ?_ ?_
    · rintro differing after ⟨⟨output, rfl⟩, plain, clean, shown⟩
      cases differing with
      | nil =>
        obtain rfl := shown rfl
        exact (ensures_pure _).mpr ⟨rfl, projects, wanted, plain, clean.mp rfl, rfl⟩
      | cons first more =>
        refine (ensures_throw _).mpr ⟨⟨output, rfl⟩, fun others h => ?_⟩
        obtain rfl := same others h
        exact fun stands => List.cons_ne_nil first more (clean.mpr stands.2)
    · rintro e after ⟨shown, differs⟩
      refine ⟨shown, fun others h => ?_⟩
      obtain rfl := same others h
      exact differs
  · cases missing.symm.trans wanted

/-! ## 2. What is emitted later -/

/-- A contract that was not written over is the same later. -/
theorem documentIn_later {placed : Place → Prop} {path : String} {document : Document}
    (later : w.Later placed v) (away : ¬placed (w.placeOf path))
    (h : documentIn w path = .ok document) : documentIn v path = .ok document := by
  obtain ⟨content, reads, decoded⟩ := bind_eq_ok_iff.mp h
  have reads := later.read away (mapError_eq_ok_iff.mp reads)
  refine bind_eq_ok_iff.mpr ⟨content, ?_, decoded⟩
  exact mapError_eq_ok_iff.mpr reads

/-- Without a task the operations are those of the options. -/
theorem emission_of_no_task {options : GenerateOptions} (asked : options.task = none) :
    emission w config options = projectsIn w config options.emit options.emit.operations := by
  unfold emission wantedIn
  rw [asked]
  rfl

/-- **What is emitted depends on the contract only**, if no task is asked for. -/
theorem emission_later {options : GenerateOptions} {projects : Projects} {placed : Place → Prop}
    (asked : options.task = none) (later : w.Later placed v)
    (away : ¬placed (w.placeOf (contractPath config options.emit.contract)))
    (h : emission w config options = .ok projects) : emission v config options = .ok projects := by
  rw [emission_of_no_task asked] at h ⊢
  obtain ⟨languages, named, h⟩ := bind_eq_ok_iff.mp h
  obtain ⟨document, loaded, h⟩ := bind_eq_ok_iff.mp h
  have loaded := documentIn_later later away (mapError_eq_ok_iff.mp loaded)
  refine bind_eq_ok_iff.mpr ⟨languages, named, bind_eq_ok_iff.mpr ⟨document, ?_, h⟩⟩
  exact mapError_eq_ok_iff.mpr loaded

/-! ## 3. Writing -/

/-- **`generate` without a task**: the projects of the emission are stored, and what the rules find
in them is shown. -/
theorem ensures_generate_without_task {options : GenerateOptions} (asked : options.task = none)
    {done : Ending → Workspace → Prop} {failed : CommandError → Workspace → Prop} :
    Ensures (generate (m := InWorkspace) config options) w done failed ↔
      (∀ projects, emission w config options = .ok projects →
        (∀ rules, config.guard.settings.rules = .ok rules →
          Ensures
            (storeProjects (m := InWorkspace) (outputPath config options.emit.output) projects) w
            (fun _ stored => Ensures (showViolations (m := InWorkspace) rules projects) stored
              (fun violations => done (if options.strict && 0 < violations then .violations
                else .done)) failed) failed) ∧
        ∀ e, config.guard.settings.rules = .error e → failed (.guard e) w) ∧
      ∀ e, emission w config options = .error e → failed e w := by
  have wanted : wantedIn w config options = .ok options.emit.operations := by
    rw [wantedIn, asked]
  unfold generate
  simp only [asked, ensures_bind, ensures_wantedIds, ensures_projects, ensures_raise, ensures_pure,
    wanted, emission_of_no_task asked]
  simp

/-- **How `generate` without a task ends**: everything that is emitted was written. -/
theorem ensures_generate_written {options : GenerateOptions} (asked : options.task = none) :
    Ensures (generate (m := InWorkspace) config options) w
      (fun _ after => ∃ projects, emission w config options = .ok projects ∧ Plain projects ∧
        Wrote (written (outputPath config options.emit.output) projects) w after)
      (fun _ _ => True) := by
  refine (ensures_generate_without_task asked).mpr ⟨fun projects emitted => ⟨fun rules _ => ?_,
    fun _ _ => trivial⟩, fun _ _ => trivial⟩
  refine (ensures_storeProjects _ projects w).imp (fun paths v stored => ?_) fun _ _ _ => trivial
  obtain ⟨_, plain, wrote⟩ := stored
  refine (ensures_showViolations projects v).imp (fun violations u shown => ?_)
    fun _ _ => False.elim
  obtain ⟨output, rfl⟩ := shown
  exact ⟨projects, emitted, plain, wrote.shown output⟩

/-- Files that stand stay while projects of them are written once more. -/
theorem ensures_storeProjects_again {folder : String} {projects : Projects}
    {files : List (String × String)} (among : ∀ file ∈ written folder projects, file ∈ files)
    (last : ∀ (v : Workspace), ∀ file ∈ files, IsLast v files file) (stand : Stand w files) :
    Ensures (storeProjects (m := InWorkspace) folder projects) w
      (fun _ after => Stand after files) (fun _ after => Stand after files) := by
  induction projects generalizing w with
  | nil => exact (ensures_pure _).mpr stand
  | cons project rest ih =>
    obtain ⟨first, others⟩ := List.forall_mem_append.mp among
    simp only [storeProjects, Client.store, ensures_bind, ensures_adapt, ensures_say_command,
      ensures_pure]
    refine (ensures_storeAll_again first last stand).imp (fun _ v stand => ?_) fun _ _ => id
    exact ih others (w := { v with output := _ }) stand

/-- **Run once more, `generate` leaves the files that stand**, also if it fails. -/
theorem ensures_generate_again {options : GenerateOptions} {projects : Projects}
    (asked : options.task = none) (emitted : emission w config options = .ok projects)
    (plain : Plain projects)
    (stand : Stand w (written (outputPath config options.emit.output) projects)) :
    Ensures (generate (m := InWorkspace) config options) w
      (fun _ after => Stand after (written (outputPath config options.emit.output) projects))
      (fun _ after => Stand after (written (outputPath config options.emit.output) projects)) := by
  refine (ensures_generate_without_task asked).mpr ⟨fun others same => ⟨fun rules _ => ?_,
    fun _ _ => stand⟩, fun _ _ => stand⟩
  obtain rfl : projects = others := Except.ok.inj (emitted.symm.trans same)
  have last : ∀ (v : Workspace), ∀ file ∈ written (outputPath config options.emit.output) projects,
      IsLast v (written (outputPath config options.emit.output) projects) file :=
    fun v file hf => isLast_of_emission emitted _ plain hf
  refine (ensures_storeProjects_again (fun _ => id) last stand).imp (fun _ v stand => ?_)
    fun _ _ => id
  refine (ensures_showViolations projects v).imp (fun _ u shown => ?_) fun _ _ => False.elim
  obtain ⟨output, rfl⟩ := shown
  exact stand

/-- **What was generated is up to date, and generating again leaves it as it is.** If the contract
is none of the generated files: after `generate` without a task has succeeded, each file holds what
was emitted, the same would be emitted again, `check` shows every language as up to date, and
another `generate` leaves each file as it is, whether it succeeds or not. -/
theorem generate_then_check {options : GenerateOptions} (asked : options.task = none)
    (apart : ∀ projects, emission w config options = .ok projects →
      ¬placesOf w (written (outputPath config options.emit.output) projects)
        (w.placeOf (contractPath config options.emit.contract))) :
    Ensures (generate (m := InWorkspace) config options) w
      (fun _ after => ∃ projects,
        emission w config options = .ok projects ∧ emission after config options = .ok projects ∧
        languageIds config options.emit = .ok (projects.map Prod.fst) ∧
        Stand after (written (outputPath config options.emit.output) projects) ∧
        Ensures (check (m := InWorkspace) config options.emit) after
          (fun ending final => ending = .done ∧
            final = { after with output := after.output ++ upToDate (projects.map Prod.fst) })
          (fun _ _ => False) ∧
        Ensures (generate (m := InWorkspace) config options) after
          (fun _ final => Stand final (written (outputPath config options.emit.output) projects))
          (fun _ final => Stand final (written (outputPath config options.emit.output) projects)))
      (fun _ _ => True) := by
  refine (ensures_generate_written asked).imp (fun _ after done => ?_) fun _ _ => id
  obtain ⟨projects, emitted, plain, wrote⟩ := done
  have again := emission_later asked wrote.later (apart projects emitted) emitted
  have stand : Stand after (written (outputPath config options.emit.output) projects) :=
    fun file hf => wrote.reads file hf (isLast_of_emission emitted _ plain hf)
  have leaves := ensures_generate_again asked again plain stand
  refine ⟨projects, emitted, again, languageIds_of_emission emitted, stand, ?_, leaves⟩
  -- what `check` compares with is the emission
  have compared := (emission_of_no_task asked).symm.trans again
  refine (ensures_check config options.emit after).imp ?_ ?_
  · rintro ending final ⟨rfl, others, same, _, _, rfl⟩
    obtain rfl : projects = others := Except.ok.inj (compared.symm.trans same)
    exact ⟨rfl, rfl⟩
  · rintro e final ⟨_, differs⟩
    exact differs projects compared ⟨plain, stand⟩

/-- A request for all operations. -/
def petRequest : GenerateOptions := { petOptions with task := none }

theorem petRequest_then_check :
    (∃ projects, emission petWorkspace petConfig petRequest = .ok projects) ∧
    Ensures (generate (m := InWorkspace) petConfig petRequest) petWorkspace
      (fun _ after => ∃ projects, emission petWorkspace petConfig petRequest = .ok projects ∧
        Ensures (check (m := InWorkspace) petConfig petRequest.emit) after
          (fun ending _ => ending = .done) (fun _ _ => False))
      (fun _ _ => True) := by
  have paths : (emission petWorkspace petConfig petRequest).toOption.map
        (fun projects => (written "generated" projects).map Prod.fst) =
      some ["generated/python/api_client.py", "generated/python/main.py",
        "generated/python/requirements.txt"] := by
    rw [emission_of_no_task rfl]
    decide +kernel
  obtain ⟨emitted, away⟩ := emission_of_paths paths
  have apart := away (petWorkspace.placeOf "openapi.json") (by decide +kernel)
  refine ⟨emitted, (generate_then_check (rfl : petRequest.task = none) apart).imp ?_
    fun _ _ => id⟩
  rintro _ after ⟨projects, emitted, _, _, _, checked, _⟩
  exact ⟨projects, emitted, checked.imp (fun _ _ done => done.1) fun _ _ => id⟩

end Covenant.Command
