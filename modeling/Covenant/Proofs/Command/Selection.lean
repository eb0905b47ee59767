import Covenant.Proofs.Command.Generate
import Covenant.Proofs.Contract.Extract
/-!
# Which operations are generated for a task

The ids of a task's operations are taken as they would be taken from a command line: without the
blanks around them, and a list of blank ids leaves nothing out.

* `Names ids id` is when an id is taken; `admits_operationFilter` says that the filter of a list
  admits these ids and no others.
* `names_iff_mem`: a list names its own members and nothing else just if it has members and none of
  them is blank or has blanks around it.
* `task_generates_its_operations_iff` puts this together for `generate`.
-/

namespace Covenant.Command

open Covenant.Client Covenant.Contract Covenant.Files Covenant.Plan Covenant.Text

variable {w : Workspace} {config : Config}

/-! ## 1. The filter of a list -/

/-- A list of texts names an id: one of them is the id but for blanks around it, or all of them are
blank. -/
def Names (ids : List String) (id : String) : Prop :=
  (∀ text ∈ ids, trimString text = "") ∨ id ≠ "" ∧ ∃ text ∈ ids, trimString text = id

instance (ids : List String) (id : String) : Decidable (Names ids id) :=
  inferInstanceAs (Decidable (_ ∨ _))

/-- **The filter of a list admits the ids that the list names.** -/
theorem admits_operationFilter (ids : List String) (id : String) :
    admits (operationFilter ids) id = true ↔ Names ids id := by
  let solid := (ids.map trimString).filter fun text => !text.isEmpty
  have mem_solid : ∀ text, text ∈ solid ↔ text ≠ "" ∧ ∃ other ∈ ids, trimString other = text := by
    intro text
    simp only [solid, List.mem_filter, List.mem_map, Bool.not_eq_true', String.isEmpty_eq_false_iff]
    exact and_comm
  have empty : (TextSet.ofList solid).isEmpty = true ↔ solid = [] := by
    rw [List.eq_nil_iff_forall_not_mem]
    simp only [← @mem_ofList solid]
    rw [← List.eq_nil_iff_forall_not_mem, TextSet.isEmpty, TextMap.isEmpty, List.isEmpty_iff,
      TextSet.toList, TextMap.keys, List.map_eq_nil_iff]
  unfold operationFilter Names
  by_cases none : solid = []
  · have blank : ∀ text ∈ ids, trimString text = "" := by
      intro text ht
      by_contra filled
      have := (mem_solid (trimString text)).mpr ⟨filled, text, ht, rfl⟩
      simp [none] at this
    simp only [empty.mpr none, if_true, admits, Option.all_none, true_iff, solid]
    exact .inl blank
  · have some_solid : ¬∀ text ∈ ids, trimString text = "" := by
      intro blank
      obtain ⟨text, ht⟩ := List.exists_mem_of_ne_nil solid none
      obtain ⟨filled, other, ho, rfl⟩ := (mem_solid text).mp ht
      exact filled (blank other ho)
    have full : (TextSet.ofList solid).isEmpty = false := by
      rw [Bool.eq_false_iff]
      exact fun e => none (empty.mp e)
    simp only [solid] at full
    simp only [full, Bool.false_eq_true, if_false, admits, Option.all_some, TextSet.contains,
      List.contains_iff_mem, mem_ofList, some_solid, false_or]
    exact mem_solid id

/-! ## 2. Lists that name their members -/

/-- **When a list names its members and nothing else.** -/
theorem names_iff_mem {ids : List String} :
    (∀ id, Names ids id ↔ id ∈ ids) ↔
      ids ≠ [] ∧ ∀ text ∈ ids, text ≠ "" ∧ trimString text = text := by
  constructor
  · intro same
    -- not all texts are blank, since those would name every id
    have some_solid : ¬∀ text ∈ ids, trimString text = "" := by
      intro blank
      have named := (same "a").mp (.inl blank)
      exact absurd (blank "a" named) (by decide +kernel)
    refine ⟨fun e => some_solid (by simp [e]), fun text ht => ?_⟩
    obtain ⟨filled, other, _, rfl⟩ := ((same text).mpr ht).resolve_left some_solid
    exact ⟨filled, trimString_trimString other⟩
  · rintro ⟨some, solid⟩ id
    constructor
    · rintro (blank | ⟨_, text, ht, rfl⟩)
      · obtain ⟨text, ht⟩ := List.exists_mem_of_ne_nil ids some
        have := blank text ht
        rw [(solid text ht).2] at this
        exact absurd this (solid text ht).1
      · rw [(solid text ht).2]
        exact ht
    · exact fun ht => .inr ⟨(solid id ht).1, id, ht, (solid id ht).2⟩

/-- A list may miss its own member, and one without members names every id. -/
example : ¬Names ["pets "] "pets " ∧ Names ["pets "] "pets" ∧ Names [] "pets" := by decide +kernel

/-! ## 3. Operations for a task -/

/-- The operations of a document that a list names. -/
def namedIn (document : Document) (ids : List String) : List Operation :=
  (document.extract none).filter fun operation => Names ids operation.id

/-- The operations of a document whose ids are in a list. -/
def listedIn (document : Document) (ids : List String) : List Operation :=
  (document.extract none).filter fun operation => operation.id ∈ ids

theorem extract_operationFilter (document : Document) (ids : List String) :
    document.extract (operationFilter ids) = namedIn document ids := by
  rw [extract_eq_filter, namedIn]
  refine List.filter_congr fun operation _ => ?_
  rw [Bool.eq_iff_iff, admits_operationFilter, decide_eq_true_iff]

theorem select_eq_ok_iff {document : Document} {filter : Option TextSet}
    {operations : List Operation} :
    document.select filter = .ok operations ↔
      document.extract filter ≠ [] ∧ operations = document.extract filter := by
  unfold Document.select Document.operations
  cases document.extract filter with
  | nil => simp [Except.mapError]
  | cons first rest => simp [Except.mapError, eq_comm]

/-- One operation with an id, and nothing else. -/
def lone (id : String) : Document where
  openapi := none
  info := ⟨"", "", none⟩
  servers := []
  paths := [⟨"/", ⟨some ⟨some id, none, [], [], none, .empty⟩, none, none, none, none, []⟩⟩]
  schemas := .empty

/-- The two selections agree on a document just if they agree on its ids. -/
theorem namedIn_eq_listedIn_iff {document : Document} {ids : List String} :
    namedIn document ids = listedIn document ids ↔
      ∀ operation ∈ document.extract none, Names ids operation.id ↔ operation.id ∈ ids := by
  constructor
  · intro same operation ho
    have both : operation ∈ namedIn document ids ↔ operation ∈ listedIn document ids := by rw [same]
    simpa [namedIn, listedIn, ho] using both
  · intro agree
    exact List.filter_congr fun operation ho => decide_eq_decide.mpr (agree operation ho)

theorem forall_namedIn_eq_listedIn_iff {ids : List String} :
    (∀ document, namedIn document ids = listedIn document ids) ↔
      ids ≠ [] ∧ ∀ text ∈ ids, text ≠ "" ∧ trimString text = text := by
  rw [← names_iff_mem]
  constructor
  · intro agree id
    have there : ∃ operation ∈ (lone id).extract none, operation.id = id := ⟨_, .head _, rfl⟩
    obtain ⟨operation, ho, rfl⟩ := there
    exact namedIn_eq_listedIn_iff.mp (agree (lone operation.id)) operation ho
  · exact fun agree document => namedIn_eq_listedIn_iff.mpr fun operation _ => agree operation.id

/-- What is generated is the emission; without one nothing happens. -/
theorem ensures_generate (config : Config) (options : GenerateOptions) (w : Workspace) :
    Ensures (generate (m := InWorkspace) config options) w
      (fun _ _ => ∃ projects, emission w config options = .ok projects)
      (fun e after => ∀ reason, emission w config options = .error reason →
        e = reason ∧ after = w) := by
  unfold generate
  simp only [ensures_bind, ensures_wantedIds, ensures_projects, ensures_raise]
  refine ⟨fun ids wanted => ⟨fun projects asked_for => ?_, fun e missing => ?_⟩,
    fun e missing => ?_⟩
  · have emitted : emission w config options = .ok projects :=
      bind_eq_ok_iff.mpr ⟨ids, wanted, asked_for⟩
    have no_error : ∀ (e : CommandError) (after : Workspace) (reason : CommandError),
        emission w config options = .error reason → e = reason ∧ after = w := by
      intro e after reason missing
      rw [emitted] at missing
      cases missing
    exact ⟨fun _ _ => ⟨fun _ _ _ => ⟨projects, emitted⟩, fun e after _ => no_error e after⟩,
      fun e _ reason missing => ⟨(no_error _ w reason missing).1, trivial⟩⟩
  · have same : emission w config options = .error e := by
      unfold emission
      rw [wanted]
      exact missing
    exact fun reason other => ⟨Except.error.inj (same.symm.trans other), trivial⟩
  · have same : emission w config options = .error e := by
      unfold emission
      rw [missing]
      rfl
    exact fun reason other => ⟨Except.error.inj (same.symm.trans other), trivial⟩

/-- What is emitted for a task is emitted for the operations that its list names. -/
theorem emission_of_task {options : GenerateOptions} {id : String} {ledger : Ledger} {task : Task}
    {document : Document} {languages : List String} (asked : options.task = some id)
    (loaded : planIn w (planPath config options.plan) = .ok ledger)
    (found : ledger.task? id = some task)
    (read : documentIn w (contractPath config options.emit.contract) = .ok document)
    (named : languageIds config options.emit = .ok languages) :
    emission w config options =
      ((document.select (operationFilter task.operations)).mapError .contract).bind
        fun operations => (emitAll operations languages
          (contextFor config options.emit document)).mapError .client := by
  have wanted : wantedIn w config options = .ok task.operations := by
    unfold wantedIn
    rw [asked]
    simp [loaded, found, Except.mapError, bind, Except.bind]
  unfold emission projectsIn
  rw [wanted, named, read]
  rfl

/-- **Which operations are generated for a task.** They are those that its list names, in the order
of the contract; if there are none, that is an error and nothing happens. They are the operations
whose ids are in the list just if the list names, of the ids in the contract, its own members and no
others. That is so for every contract just if the list has members and none of them is empty or has
blanks around it. -/
theorem task_generates_its_operations_iff {options : GenerateOptions} {id : String}
    {ledger : Ledger} {task : Task} {document : Document} {languages : List String}
    (asked : options.task = some id)
    (loaded : planIn w (planPath config options.plan) = .ok ledger)
    (found : ledger.task? id = some task)
    (read : documentIn w (contractPath config options.emit.contract) = .ok document)
    (named : languageIds config options.emit = .ok languages) :
    Ensures (generate (m := InWorkspace) config options) w
      (fun _ _ => ∃ projects, emission w config options = .ok projects ∧
        namedIn document task.operations ≠ [] ∧
        emitAll (namedIn document task.operations) languages
          (contextFor config options.emit document) = .ok projects)
      (fun e after => namedIn document task.operations = [] →
        (∃ why, e = .contract (.noOperations why)) ∧ after = w) ∧
    (namedIn document task.operations = listedIn document task.operations ↔
      ∀ operation ∈ document.extract none,
        Names task.operations operation.id ↔ operation.id ∈ task.operations) ∧
    ((∀ document, namedIn document task.operations = listedIn document task.operations) ↔
      task.operations ≠ [] ∧ ∀ text ∈ task.operations, text ≠ "" ∧ trimString text = text) := by
  have description := emission_of_task asked loaded found read named
  refine ⟨(ensures_generate config options w).imp (fun _ _ emitted => ?_)
    fun e after failed nothing => ?_, namedIn_eq_listedIn_iff, forall_namedIn_eq_listedIn_iff⟩
  · obtain ⟨projects, emitted⟩ := emitted
    rw [description] at emitted
    obtain ⟨operations, selected, all⟩ := bind_eq_ok_iff.mp emitted
    obtain ⟨some, rfl⟩ := select_eq_ok_iff.mp (mapError_eq_ok_iff.mp selected)
    rw [extract_operationFilter] at some all
    exact ⟨projects, description.trans emitted, some, mapError_eq_ok_iff.mp all⟩
  · have none : ∃ why, document.select (operationFilter task.operations) =
        .error (.noOperations why) := by
      unfold Document.select Document.operations
      rw [extract_operationFilter, nothing]
      exact ⟨_, rfl⟩
    obtain ⟨why, none⟩ := none
    rw [none] at description
    obtain ⟨rfl, unchanged⟩ := failed _ description
    exact ⟨⟨why, rfl⟩, unchanged⟩

theorem petTask_generates_its_operations :
    ∃ document, documentIn petWorkspace "openapi.json" = .ok document ∧
      Ensures (generate (m := InWorkspace) petConfig petOptions) petWorkspace
        (fun _ _ => ∃ projects, emission petWorkspace petConfig petOptions = .ok projects ∧
          namedIn document ["pets"] ≠ [] ∧
          emitAll (namedIn document ["pets"]) ["python"]
            (contextFor petConfig petOptions.emit document) = .ok projects)
        (fun e after => namedIn document ["pets"] = [] →
          (∃ why, e = .contract (.noOperations why)) ∧ after = petWorkspace) ∧
      ∀ document, namedIn document ["pets"] = listedIn document ["pets"] := by
  obtain ⟨document, read⟩ : ∃ document, documentIn petWorkspace "openapi.json" = .ok document := by
    have paths := paths_of_petOptions
    cases he : emission petWorkspace petConfig petOptions with
    | error e => rw [he] at paths; cases paths
    | ok projects =>
      obtain ⟨_, _, document, _, _, _, read, _⟩ := emission_eq_ok he
      exact ⟨document, read⟩
  have found : petPlan.task? "task-1" = some (.pending "task-1" "list pets" ["pets"]) := by
    decide +kernel
  obtain ⟨generated, _, every⟩ := @task_generates_its_operations_iff petWorkspace petConfig
    petOptions "task-1" petPlan _ document ["python"] rfl planIn_petWorkspace found read rfl
  have solid : ["pets"] ≠ [] ∧ ∀ text ∈ ["pets"], text ≠ "" ∧ trimString text = text := by
    decide +kernel
  exact ⟨document, read, generated, every.mpr solid⟩

end Covenant.Command
