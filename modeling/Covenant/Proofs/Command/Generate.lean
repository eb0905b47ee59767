import Covenant.Proofs.Command.Projects
/-!
# Generating for a task

A task is completed when, and only when, everything was written that was generated for it.

* `ensures_finish`: once the task is in progress, all files are written and the task is completed
  with them, or the plan stays as it is.
* `task_completes_or_stays`: how `generate` with a task ends, and what the plan and the files are
  then.
-/

namespace Covenant.Command

open Covenant.Client Covenant.Contract Covenant.Files Covenant.Guard Covenant.Plan

variable {w v : Workspace} {config : Config}

/-- An error in what is asked for: no such task, a completed one, or an error in the contract, its
operations, the languages, the templates or the rules. -/
inductive CommandError.IsOfRequest : CommandError → Prop
  | unknownTask (id : String) : IsOfRequest (.plan (.unknownTask id))
  | backward (id : String) (current next : Status) : IsOfRequest (.plan (.backward id current next))
  | contract (reason : LoadError) : IsOfRequest (.contract reason)
  | unsupported (language : String) : IsOfRequest (.client (.unsupported language))
  | template (fault : TemplateError) : IsOfRequest (.client (.template fault))
  | guard (reason : GuardError) : IsOfRequest (.guard reason)

theorem not_isOfRequest_of_isOfFile {e : PlanError} (h : e.IsOfFile) :
    ¬(CommandError.plan e).IsOfRequest := by
  cases h <;> (intro h; cases h)

theorem not_isOfRequest_of_isOfFiles {e : ClientError} (h : e.IsOfFiles) :
    ¬(CommandError.client e).IsOfRequest := by
  cases h <;> (intro h; cases h)

/-- What is shown changes no file. -/
theorem ensures_showViolations {rules : List Rule} (projects : Projects) (w : Workspace) :
    Ensures (showViolations (m := InWorkspace) rules projects) w
      (fun _ after => ∃ output, after = { w with output }) (fun _ _ => False) := by
  induction projects generalizing w with
  | nil => exact (ensures_pure _).mpr ⟨w.output, rfl⟩
  | cons project rest ih =>
    obtain ⟨language, files⟩ := project
    have later : ∀ output, Ensures (showViolations (m := InWorkspace) rules rest) { w with output }
        (fun _ after => ∃ output, after = { w with output }) (fun _ _ => False) := fun output =>
      (ih _).imp (fun _ _ shown => shown) fun _ _ => id
    simp only [showViolations]
    split
    · simp only [ensures_bind, ensures_say_command, ensures_pure]
      exact later _
    · simp only [ensures_bind, ensures_pure]
      exact later w.output

/-- The task is stored as completed with the paths of all files, and each of them reads as it was
generated. -/
structure TaskDone (w after : Workspace) (plan id : String) (files : List (String × String)) :
    Prop where
  stored : ∃ old, storedTask? w plan id = some old ∧ storedTask? after plan id =
    some { old with status := .completed, artifacts := files.map Prod.fst }
  reads : ∀ file ∈ files, after.read file.1 = .ok file.2.toUTF8

/-- The task is stored as it was before, or it is in progress now. -/
def TaskOpen (w after : Workspace) (plan id : String) : Prop :=
  storedTask? after plan id = storedTask? w plan id ∨
    ∃ old, storedTask? w plan id = some old ∧
      storedTask? after plan id = some { old with status := .inProgress }

theorem TaskOpen.of_read {after : Workspace} {plan id : String} {ledger : Ledger} {old : Task}
    (found : storedTask? w plan id = some old) (reads : after.read plan = .ok ledger.bytes)
    (moved : ledger.task? id = some { old with status := .inProgress }) :
    TaskOpen w after plan id :=
  .inr ⟨old, found, (storedTask?_of_read reads).trans moved⟩

/-- What a task asks for is known only if its plan can be read. -/
theorem read_of_wantedIn {options : GenerateOptions} {id : String} (asked : options.task = some id)
    {ids : List String} (wanted : wantedIn w config options = .ok ids) :
    ∃ content, w.read (planPath config options.plan) = .ok content := by
  obtain ⟨ledger, _, loaded, _⟩ := wantedIn_eq_ok asked wanted
  obtain ⟨content, reads, _⟩ := read_of_planIn loaded
  exact ⟨content, reads⟩

/-- What follows once the task is in progress: all files are written and the task is completed with
them, or the plan stays as it is. -/
theorem ensures_finish (rules : List Rule) {projects : Projects} {folder plan id : String}
    {ledger : Ledger} {task : Task} (reads : v.read plan = .ok ledger.bytes)
    (found : ledger.task? id = some task)
    (away : ¬placesOf v (written folder projects) (v.placeOf plan))
    (last : (∀ project ∈ projects, ∀ pair ∈ project.2.toList, Path.isPlain pair.1 = true) →
      ∀ file ∈ written folder projects, IsLast v (written folder projects) file) :
    Ensures (storeProjects (m := InWorkspace) folder projects) v
      (fun paths u => Ensures (showViolations (m := InWorkspace) rules projects) u
        (fun _ z => Ensures (complete (m := InWorkspace) plan id paths) z
          (fun _ after =>
            (∀ file ∈ written folder projects, after.read file.1 = .ok file.2.toUTF8) ∧
            storedTask? after plan id = some { task with
              status := .completed, artifacts := (written folder projects).map Prod.fst })
          (fun e after => after.read plan = .ok ledger.bytes ∧
            ¬(CommandError.plan e).IsOfRequest))
        (fun _ _ => False))
      (fun e after => after.read plan = .ok ledger.bytes ∧ ¬e.IsOfRequest) := by
  refine (ensures_storeProjects folder projects v).imp (fun paths u stored => ?_)
    fun e u failed => ?_
  · obtain ⟨rfl, plain, wrote⟩ := stored
    refine (ensures_showViolations projects u).imp (fun violations z shown => ?_)
      fun _ _ => False.elim
    obtain ⟨output, rfl⟩ := shown
    have wrote := wrote.shown output
    have plan_reads := wrote.later.read away reads
    refine (ensures_complete plan_reads found _).imp (fun _ after completed => ?_)
      fun e after failed => ?_
    · exact ⟨wrote.reads_after (last plain) away completed.1, completed.2⟩
    · refine ⟨failed.1.read (fun written => written) plan_reads, ?_⟩
      rcases failed.2 with file | rfl
      · exact not_isOfRequest_of_isOfFile file
      · exact fun request => by cases request
  · obtain ⟨⟨reason, rfl, of_files⟩, kept⟩ := failed
    exact ⟨kept.read away reads, not_isOfRequest_of_isOfFiles of_files⟩

/-- **A task is completed with all of its files, or not at all.** If the plan is none of the
generated files: after success the task is completed with the paths of all files, language after
language and within each in the order of its keys, and each file holds what was emitted. After an
error it is as it was or in progress; an error in what was asked for leaves the workspace as it
was. -/
theorem task_completes_or_stays {options : GenerateOptions} {id : String}
    (asked : options.task = some id)
    (apart : ∀ projects, emission w config options = .ok projects →
      ¬placesOf w (written (outputPath config options.emit.output) projects)
        (w.placeOf (planPath config options.plan))) :
    Ensures (generate (m := InWorkspace) config options) w
      (fun _ after => ∃ projects, emission w config options = .ok projects ∧
        languageIds config options.emit = .ok (projects.map Prod.fst) ∧
        TaskDone w after (planPath config options.plan) id
          (written (outputPath config options.emit.output) projects))
      (fun reason after => TaskOpen w after (planPath config options.plan) id ∧
        (reason.IsOfRequest → after = w)) := by
  unfold generate
  simp only [asked, ensures_bind, ensures_wantedIds, ensures_projects, ensures_raise]
  have loadable := fun ids => @read_of_wantedIn w config options id asked ids
  generalize planPath config options.plan = plan at *
  generalize outputPath config options.emit.output = folder at *
  have unchanged : ∀ reason : CommandError,
      TaskOpen w w plan id ∧ (reason.IsOfRequest → True) := fun _ => ⟨.inl rfl, fun _ => trivial⟩
  refine ⟨fun ids wanted => ⟨fun projects asked_for => ⟨fun rules _ => ?_, fun e _ => ?_⟩,
    fun e _ => ?_⟩, fun e _ => ?_⟩
  · have emitted : emission w config options = .ok projects :=
      bind_eq_ok_iff.mpr ⟨ids, wanted, asked_for⟩
    have away := apart projects emitted
    obtain ⟨content, readable⟩ := loadable ids wanted
    simp only [ensures_discard, ensures_adapt]
    refine (ensures_setStatus plan id .inProgress w).imp (fun _ v started => ?_)
      fun e v failed => ?_
    · obtain ⟨old, later, found, moved, start, reads⟩ := started
      have away_later : ¬placesOf v (written folder projects) (v.placeOf plan) := by
        rw [placesOf_later start, start.placeOf]
        exact away
      -- an error from here on leaves the plan with the task in progress
      have stuck : ∀ (e : CommandError) (after : Workspace),
          after.read plan = .ok later.bytes ∧ ¬e.IsOfRequest →
            TaskOpen w after plan id ∧ (e.IsOfRequest → after = w) := fun e after failed =>
        ⟨.of_read found failed.1 moved, fun request => absurd request failed.2⟩
      have finish := ensures_finish rules reads moved away_later
        fun plain file hf => isLast_of_emission emitted folder plain hf
      refine finish.imp (fun paths u finish => ?_) stuck
      refine finish.imp (fun violations z finish => ?_) fun _ _ => False.elim
      refine finish.imp (fun task after completed => ?_) fun e after => stuck (.plan e) after
      simp only [ensures_say_command, ensures_pure]
      exact ⟨projects, emitted, languageIds_of_emission emitted, ⟨old, found, completed.2⟩,
        completed.1⟩
    · refine ⟨.inl (storedTask?_congr ?_), fun request => ?_⟩
      · rw [readable, failed.1.read (fun written => written) readable]
      · exact failed.2.resolve_left fun file => not_isOfRequest_of_isOfFile file request
  · exact unchanged _
  · exact unchanged e
  · exact unchanged e

/-- A contract with one operation. -/
def petContract : String :=
  "\x7b\"info\": \x7b\"title\": \"Pets\", \"version\": \"1\"\x7d, "
    ++ "\"paths\": \x7b\"/\": \x7b\"get\": \x7b\"operationId\": \"pets\"\x7d\x7d\x7d\x7d"

/-- A plan with one task for this operation. -/
def petPlan : Ledger :=
  ⟨"list pets", "1970-01-01T00:00:00Z", [.pending "task-1" "list pets" ["pets"]]⟩

/-- A workspace with a contract and a plan. -/
def workspaceOf (contract plan : ByteArray) : Workspace :=
  { Workspace.empty with
    tree := .folder [("work", .folder [
      ("openapi.json", .file contract), ("plan.json", .file plan)])] }

theorem read_workspaceOf (contract plan : ByteArray) :
    (workspaceOf contract plan).read "plan.json" = .ok plan := rfl

/-- A workspace with this contract and this plan. -/
def petWorkspace : Workspace := workspaceOf petContract.toUTF8 petPlan.bytes

/-- A configuration for this workspace. -/
def petConfig : Config :=
  { Config.default with
    contract := { Config.ContractSection.default with path := "openapi.json" }
    generate := { Config.GenerateSection.default with languages := ["python"] }
    plan := ⟨"plan.json"⟩ }

/-- A request for the task. -/
def petOptions : GenerateOptions :=
  { emit := ⟨none, [], none, [], none, none, none⟩, task := some "task-1", plan := none,
    strict := false }

theorem planIn_petWorkspace : planIn petWorkspace "plan.json" = .ok petPlan :=
  (planIn_of_read (read_workspaceOf petContract.toUTF8 petPlan.bytes)).trans
    (if_neg (by decide +kernel))

theorem paths_of_petOptions :
    (emission petWorkspace petConfig petOptions).toOption.map
        (fun projects => (written "generated" projects).map Prod.fst) =
      some ["generated/python/api_client.py", "generated/python/main.py",
        "generated/python/requirements.txt"] := by
  have wanted : wantedIn petWorkspace petConfig petOptions = .ok ["pets"] := by
    change ((planIn petWorkspace "plan.json").mapError CommandError.plan >>= _) = _
    rw [planIn_petWorkspace]
    rfl
  have emitted : emission petWorkspace petConfig petOptions =
      projectsIn petWorkspace petConfig petOptions.emit ["pets"] := by
    unfold emission
    rw [wanted]
    rfl
  rw [emitted]
  decide +kernel

theorem petTask_completes_or_stays :
    (∃ projects, emission petWorkspace petConfig petOptions = .ok projects) ∧
    Ensures (generate (m := InWorkspace) petConfig petOptions) petWorkspace
      (fun _ after => ∃ projects, emission petWorkspace petConfig petOptions = .ok projects ∧
        TaskDone petWorkspace after "plan.json" "task-1" (written "generated" projects))
      (fun reason after => TaskOpen petWorkspace after "plan.json" "task-1" ∧
        (reason.IsOfRequest → after = petWorkspace)) := by
  obtain ⟨emitted, away⟩ := emission_of_paths paths_of_petOptions
  have apart := away (petWorkspace.placeOf "plan.json") (by decide +kernel)
  refine ⟨emitted, (task_completes_or_stays (rfl : petOptions.task = some "task-1") apart).imp ?_
    fun _ _ => id⟩
  rintro _ after ⟨projects, emitted, _, completed⟩
  exact ⟨projects, emitted, completed⟩

end Covenant.Command
