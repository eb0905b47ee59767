import Covenant.Command.Clients
import Covenant.Proofs.Client.Stored
import Covenant.Proofs.Plan.Store
/-!
# Projects that are asked for

What `generate` works out from the files of a workspace before it writes anything, and what writing
the projects ensures.

* `emission` is the projects of a request, as a value; `ensures_wantedIds` and `ensures_projects`
  say that the programs find the same and change nothing.
* `isLast_of_emission`: no two files of an emission get in each other's way.
* `ensures_storeProjects`: every file of every project is written, language after language.
-/

namespace Covenant.Command

open Covenant.Client Covenant.Contract Covenant.Files Covenant.Files.Path Covenant.Plan

variable {w v : Workspace} {config : Config}

/-! ## 1. What is asked for -/

/-- What loading the contract at a path gives. -/
def documentIn (w : Workspace) (path : String) : Except LoadError Document := do
  let content ← (w.read path).mapError (LoadError.ofFault path)
  Contract.ofBytes path content

/-- The ids of the operations that are wanted: those of the task, if there is one. -/
def wantedIn (w : Workspace) (config : Config) (options : GenerateOptions) :
    Except CommandError (List String) :=
  match options.task with
  | none => .ok options.emit.operations
  | some id => do
    let ledger ← (planIn w (planPath config options.plan)).mapError .plan
    match ledger.task? id with
    | some task => .ok task.operations
    | none => .error (.plan (.unknownTask id))

/-- The projects for the operations with some ids. -/
def projectsIn (w : Workspace) (config : Config) (options : EmitOptions) (ids : List String) :
    Except CommandError Projects := do
  let languages ← (languageIds config options).mapError .client
  let document ← (documentIn w (contractPath config options.contract)).mapError .contract
  projectsOf config options ids languages document

/-- **The projects that a request asks for**, from the plan and the contract in a workspace. -/
def emission (w : Workspace) (config : Config) (options : GenerateOptions) :
    Except CommandError Projects := do
  let ids ← wantedIn w config options
  projectsIn w config options.emit ids

@[simp] theorem ensures_raise {ε α : Type} {wrap : ε → CommandError} {result : Except ε α}
    {done : α → Workspace → Prop} {failed : CommandError → Workspace → Prop} :
    Ensures (raise (m := InWorkspace) wrap result) w done failed ↔
      (∀ a, result = .ok a → done a w) ∧ (∀ e, result = .error e → failed (wrap e) w) := by
  cases result <;> simp [raise]

@[simp] theorem ensures_say_command {text : String} {done : Unit → Workspace → Prop}
    {failed : CommandError → Workspace → Prop} :
    Ensures (say (m := InWorkspace) text) w done failed ↔
      done () { w with output := w.output ++ text } := by
  simp [say]

theorem ensures_wantedIds {options : GenerateOptions} {done : List String → Workspace → Prop}
    {failed : CommandError → Workspace → Prop} :
    Ensures (wantedIds (m := InWorkspace) config options) w done failed ↔
      (∀ ids, wantedIn w config options = .ok ids → done ids w) ∧
        (∀ e, wantedIn w config options = .error e → failed e w) := by
  unfold wantedIds wantedIn
  cases options.task with
  | none => simp
  | some id =>
    simp only [ensures_bind, ensures_adapt, ensures_task, ensures_pure]
    cases hp : planIn w (planPath config options.plan) with
    | error e => simp [Except.mapError, bind, Except.bind]
    | ok ledger => cases hf : ledger.task? id <;> simp [Except.mapError, bind, Except.bind, hf]

/-- The ids that a task wants are those of its operations. -/
theorem wantedIn_eq_ok {options : GenerateOptions} {id : String} {ids : List String}
    (asked : options.task = some id) (h : wantedIn w config options = .ok ids) :
    ∃ ledger task, planIn w (planPath config options.plan) = .ok ledger ∧
      ledger.task? id = some task ∧ ids = task.operations := by
  unfold wantedIn at h
  rw [asked] at h
  obtain ⟨ledger, loaded, h⟩ := bind_eq_ok_iff.mp h
  cases found : ledger.task? id with
  | none => simp [found] at h
  | some task =>
    obtain rfl : task.operations = ids := by simpa [found] using h
    exact ⟨ledger, task, mapError_eq_ok_iff.mp loaded, found, rfl⟩

theorem ensures_projects {options : EmitOptions} {ids : List String}
    {done : Projects → Workspace → Prop} {failed : CommandError → Workspace → Prop} :
    Ensures (projects (m := InWorkspace) config options ids) w done failed ↔
      (∀ projects, projectsIn w config options ids = .ok projects → done projects w) ∧
        (∀ e, projectsIn w config options ids = .error e → failed e w) := by
  simp only [projects, Contract.load, projectsIn, documentIn, ensures_bind, ensures_raise,
    ensures_adapt, ensures_read, ensures_result]
  cases languageIds config options with
  | error e => simp [Except.mapError, bind, Except.bind]
  | ok languages =>
    cases w.read (contractPath config options.contract) with
    | error e => simp [Except.mapError, bind, Except.bind]
    | ok content =>
      cases hd : Contract.ofBytes (contractPath config options.contract) content <;>
        simp [Except.mapError, bind, Except.bind, hd]

/-! ## 2. The files of an emission -/

/-- All files of projects with their paths, in the folders of their languages. -/
def written (folder : String) (projects : Projects) : List (String × String) :=
  projects.flatMap fun project => filesIn (join folder project.1) project.2.toList

/-- The projects are those of the languages, in their order, and each is emitted for its own. -/
theorem emit_of_emitAll {operations : List Operation} {languages : List String}
    {context : EmitContext} {projects : Projects}
    (h : emitAll operations languages context = .ok projects) :
    projects.map Prod.fst = languages ∧
      ∀ project ∈ projects, emit operations project.1 context = .ok project.2 := by
  induction languages generalizing projects with
  | nil =>
    cases h
    exact ⟨rfl, fun _ hp => by cases hp⟩
  | cons language rest ih =>
    unfold emitAll at h ih
    rw [List.mapM_cons] at h
    obtain ⟨first, hf, h⟩ := bind_eq_ok_iff.mp h
    obtain ⟨files, emitted, hf⟩ := bind_eq_ok_iff.mp hf
    obtain ⟨others, ho, h⟩ := bind_eq_ok_iff.mp h
    cases hf
    cases h
    obtain ⟨same, all⟩ := ih ho
    refine ⟨congrArg (language :: ·) same, fun project hp => ?_⟩
    rcases List.mem_cons.mp hp with rfl | hp
    · exact emitted
    · exact all project hp

/-- Where an emission comes from. -/
theorem emission_eq_ok {options : GenerateOptions} {projects : Projects}
    (h : emission w config options = .ok projects) :
    ∃ ids languages document operations,
      wantedIn w config options = .ok ids ∧ languageIds config options.emit = .ok languages ∧
      documentIn w (contractPath config options.emit.contract) = .ok document ∧
      document.select (operationFilter ids) = .ok operations ∧
      emitAll operations languages (contextFor config options.emit document) = .ok projects := by
  obtain ⟨ids, hi, h⟩ := bind_eq_ok_iff.mp h
  obtain ⟨languages, hl, h⟩ := bind_eq_ok_iff.mp h
  obtain ⟨document, hd, h⟩ := bind_eq_ok_iff.mp h
  obtain ⟨operations, ho, h⟩ := bind_eq_ok_iff.mp h
  exact ⟨ids, languages, document, operations, hi, mapError_eq_ok_iff.mp hl,
    mapError_eq_ok_iff.mp hd, mapError_eq_ok_iff.mp ho, mapError_eq_ok_iff.mp h⟩

/-- The projects that are asked for are in the languages that are asked for, in their order. -/
theorem languageIds_of_emission {options : GenerateOptions} {projects : Projects}
    (h : emission w config options = .ok projects) :
    languageIds config options.emit = .ok (projects.map Prod.fst) := by
  obtain ⟨_, languages, _, _, _, named, _, _, all⟩ := emission_eq_ok h
  rw [(emit_of_emitAll all).1]
  exact named

/-- Where the paths of what is emitted are known, something is emitted, and its files stand apart
from every place that these paths do not lead to. -/
theorem emission_of_paths {options : GenerateOptions} {folder : String} {paths : List String}
    (h : (emission w config options).toOption.map
      (fun projects => (written folder projects).map Prod.fst) = some paths) :
    (∃ projects, emission w config options = .ok projects) ∧
      ∀ place, (∀ path ∈ paths, w.placeOf path ≠ place) →
        ∀ projects, emission w config options = .ok projects →
          ¬placesOf w (written folder projects) place := by
  constructor
  · cases emitted : emission w config options with
    | error e => rw [emitted] at h; cases h
    | ok projects => exact ⟨projects, rfl⟩
  · rintro place away projects emitted ⟨file, hf, same⟩
    rw [emitted] at h
    obtain rfl : (written folder projects).map Prod.fst = paths := Option.some.inj h
    exact away file.1 (List.mem_map_of_mem hf) same

theorem resolve?_of_emit {operations : List Operation} {language : String}
    {context : EmitContext} {files : FileSet} (h : emit operations language context = .ok files) :
    ∃ target, Target.resolve? language = some target := by
  unfold emit at h
  split at h
  · cases h
  · rename_i target found
    exact ⟨target, found⟩

/-- The place of a file of a project. -/
theorem placeOf_written {folder language key : String} {target : Target}
    (named : Target.resolve? language = some target) (plain : isPlain key = true) :
    w.placeOf (join (join folder language) key) =
      w.placeOf folder ++ language :: names key := by
  obtain ⟨part, name⟩ := names_language named
  rw [placeOf_join w plain, placeOf_join w part, name, List.append_assoc]
  rfl

/-- The class name of a contract is one part of a path, and not the name of an entry point. -/
theorem className_plain (config : Config) (options : EmitOptions) (document : Document) :
    '/' ∉ (contextFor config options document).className.toList ∧
      (contextFor config options document).className ≠ "Main" := by
  have same : (contextFor config options document).className =
      Naming.apiClassName (Naming.inlineText document.info.title) := by
    simp only [contextFor, className_override, EmitContext.ofDocument]
  rw [same]
  exact apiClassName_plain (Naming.inlineText document.info.title)

/-- **No file of an emission gets in the way of another one**: two files at one place hold the
same. -/
theorem isLast_of_emission {options : GenerateOptions} {projects : Projects}
    (h : emission w config options = .ok projects) (folder : String)
    (plain : ∀ project ∈ projects, ∀ pair ∈ project.2.toList, isPlain pair.1 = true)
    {file : String × String} (hf : file ∈ written folder projects) :
    IsLast v (written folder projects) file := by
  intro other ho same
  obtain ⟨_, _, document, operations, _, _, _, _, emitted⟩ := emission_eq_ok h
  obtain ⟨_, all⟩ := emit_of_emitAll emitted
  obtain ⟨project, hp, hf⟩ := List.mem_flatMap.mp hf
  obtain ⟨pair, hk, rfl⟩ := List.mem_map.mp hf
  obtain ⟨second, hs, ho⟩ := List.mem_flatMap.mp ho
  obtain ⟨otherPair, hok, rfl⟩ := List.mem_map.mp ho
  obtain ⟨_, named⟩ := resolve?_of_emit (all project hp)
  obtain ⟨_, secondNamed⟩ := resolve?_of_emit (all second hs)
  have plain_key := plain project hp pair hk
  have plain_other := plain second hs otherPair hok
  rw [placeOf_written named plain_key, placeOf_written secondNamed plain_other] at same
  obtain ⟨language, keys⟩ := List.cons.inj (List.append_cancel_left same)
  -- one language has one project
  have files : second.2 = project.2 := by
    have e := all second hs
    rw [language, all project hp] at e
    exact (Except.ok.inj e).symm
  rw [files] at hok
  obtain ⟨one_part, no_entry⟩ := className_plain config options.emit document
  refine (eq_of_fileName? (all project hp) one_part no_entry hok hk ?_).2
  unfold fileName?
  rw [components_of_isPlain plain_key, components_of_isPlain plain_other, keys]

/-! ## 3. Writing -/

/-- **What writing projects ensures**: every file of every project is written, or there is an error
with a file and at most files of the projects have changed. -/
theorem ensures_storeProjects (folder : String) (projects : Projects) (w : Workspace) :
    Ensures (storeProjects (m := InWorkspace) folder projects) w
      (fun paths after => paths = (written folder projects).map Prod.fst ∧
        (∀ project ∈ projects, ∀ pair ∈ project.2.toList, isPlain pair.1 = true) ∧
        Wrote (written folder projects) w after)
      (fun e after => (∃ reason : ClientError, e = .client reason ∧ reason.IsOfFiles) ∧
        w.Later (placesOf w (written folder projects)) after) := by
  induction projects generalizing w with
  | nil => exact (ensures_pure _).mpr ⟨rfl, by simp, .nil w⟩
  | cons project rest ih =>
    obtain ⟨language, files⟩ := project
    simp only [storeProjects, Client.store, ensures_bind, ensures_adapt, ensures_say_command,
      ensures_pure]
    refine (ensures_storeAll (join folder language) files.toList w).imp
      (fun paths v stored => ?_) fun e v failed => ?_
    · obtain ⟨rfl, plain, wrote⟩ := stored
      refine (ih _).imp (fun paths u stored => ?_) fun e u failed => ?_
      · obtain ⟨rfl, all, others⟩ := stored
        refine ⟨by simp [written], fun project hp => ?_, (wrote.shown _).append others⟩
        rcases List.mem_cons.mp hp with rfl | hp
        · exact plain
        · exact all project hp
      · refine ⟨failed.1, ((wrote.shown _).later.mono ?_).trans (failed.2.mono ?_)⟩
        · exact fun _ hp => placesOf_append.mpr (.inl hp)
        · rw [placesOf_later (wrote.shown _).later]
          exact fun _ hp => placesOf_append.mpr (.inr hp)
    · refine ⟨⟨e, rfl, failed.1⟩, failed.2.mono fun _ hp => placesOf_append.mpr (.inl hp)⟩

end Covenant.Command
