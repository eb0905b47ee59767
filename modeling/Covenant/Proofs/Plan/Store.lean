import Covenant.Proofs.Files.Replace
import Covenant.Proofs.Plan.Document
import Covenant.Proofs.Plan.Ledger
/-!
# Stored plans in a workspace

What the programs that read and change a stored plan ensure.

* `planIn` is what loading gives; a plan that was saved is loaded again unless its file is
  too large (`planIn_of_read`).
* `ensures_save` and `ensures_change`: a plan that was changed lies in its file and nothing else has
  changed; where a change fails, every file that was there is as it was.
* `startIn` is the plan in which a task is recorded, and `ensures_record_iff` what recording does.
* `record_answers_iff`: which task a record returns, and when it is the one that was recorded.
-/

namespace Covenant.Plan

open Covenant.Files Covenant.Json Covenant.Record Covenant.Time

variable {w v : Workspace} {path id : String} {ledger : Ledger}

/-! ## 1. Loading -/

/-- What loading the plan at a path gives. -/
def planIn (w : Workspace) (path : String) : Except PlanError Ledger := do
  let content ← (w.read path).mapError (PlanError.ofFault path)
  Ledger.ofBytes path content

/-- An error that a stored plan causes, whatever is asked of it. -/
inductive PlanError.IsOfFile : PlanError → Prop
  | notFound (path : String) : IsOfFile (.notFound path)
  | tooLarge (path : String) : IsOfFile (.tooLarge path)
  | io (path detail : String) : IsOfFile (.io path detail)
  | malformed (path detail : String) : IsOfFile (.malformed path detail)

@[simp] theorem ensures_load {done : Ledger → Workspace → Prop}
    {failed : PlanError → Workspace → Prop} :
    Ensures (load (m := InWorkspace) path) w done failed ↔
      (∀ ledger, planIn w path = .ok ledger → done ledger w) ∧
        (∀ e, planIn w path = .error e → failed e w) := by
  simp only [load, planIn, ensures_bind, ensures_adapt, ensures_read, ensures_result]
  cases w.read path with
  | error fault => simp [Except.mapError, bind, Except.bind]
  | ok content => simp [Except.mapError, bind, Except.bind]

theorem isOfFile_of_planIn {e : PlanError} (h : planIn w path = .error e) : e.IsOfFile := by
  unfold planIn at h
  cases hr : w.read path with
  | error fault =>
    obtain rfl : PlanError.ofFault path fault = e := by
      simpa [hr, Except.mapError, bind, Except.bind] using h
    cases fault <;> constructor
  | ok content =>
    have h : Ledger.ofBytes path content = .error e := by
      simpa [hr, Except.mapError, bind, Except.bind] using h
    unfold Ledger.ofBytes at h
    split at h
    · cases h
      constructor
    · split at h
      · cases h
        constructor
      · rename_i raw _
        cases hl : readLedger (.whole raw) with
        | error fault =>
          rw [hl] at h
          cases h
          constructor
        | ok ledger => rw [hl] at h; cases h

/-- A plan that lies in a file is loaded, unless the file is too large. -/
theorem planIn_of_read (h : w.read path = .ok ledger.bytes) :
    planIn w path =
      if maxBytes < ledger.bytes.size then .error (.tooLarge path) else .ok ledger := by
  rw [← ofBytes_bytes]
  simp [planIn, h, Except.mapError, bind, Except.bind]

/-- The task of an id in the plan that a file holds, however large the file is. -/
def storedTask? (w : Workspace) (path id : String) : Option Task :=
  match w.read path with
  | .error _ => none
  | .ok content =>
    ((readBytes? content).bind fun raw => (readLedger (.whole raw)).toOption).bind (·.task? id)

theorem storedTask?_congr (h : v.read path = w.read path) :
    storedTask? v path id = storedTask? w path id := by
  rw [storedTask?, storedTask?, h]

theorem storedTask?_of_read (h : w.read path = .ok ledger.bytes) :
    storedTask? w path id = ledger.task? id := by
  simp only [storedTask?, h, readBytes?_bytes, Option.bind_some]
  rw [readLedger_whole]
  rfl

theorem read_of_planIn (h : planIn w path = .ok ledger) :
    ∃ content, w.read path = .ok content ∧ Ledger.ofBytes path content = .ok ledger := by
  obtain ⟨content, hr, h⟩ := bind_eq_ok_iff.mp h
  exact ⟨content, mapError_eq_ok_iff.mp hr, h⟩

/-- What is loaded is what is stored. -/
theorem storedTask?_of_planIn (h : planIn w path = .ok ledger) :
    storedTask? w path id = ledger.task? id := by
  obtain ⟨content, read, h⟩ := read_of_planIn h
  unfold Ledger.ofBytes at h
  split at h
  · cases h
  · split at h
    · cases h
    · rename_i raw hraw
      rw [mapError_eq_ok_iff] at h
      simp only [storedTask?, read, hraw, Option.bind_some, h]
      rfl

/-- A task is found in the plan that is loaded. -/
@[simp] theorem ensures_task {done : Task → Workspace → Prop}
    {failed : PlanError → Workspace → Prop} :
    Ensures (task (m := InWorkspace) path id) w done failed ↔
      (∀ ledger, planIn w path = .ok ledger →
        (∀ found, ledger.task? id = some found → done found w) ∧
        (ledger.task? id = none → failed (.unknownTask id) w)) ∧
      (∀ e, planIn w path = .error e → failed e w) := by
  simp only [task, ensures_bind, ensures_load]
  cases planIn w path with
  | error e => simp
  | ok ledger => cases hf : ledger.task? id <;> simp [hf]

/-! ## 2. Saving -/

theorem ensures_save (path : String) (ledger : Ledger) (w : Workspace) :
    Ensures (save (m := InWorkspace) path ledger) w
      (fun _ after => w.Later (· = w.placeOf path) after ∧ after.read path = .ok ledger.bytes)
      (fun e after => e.IsOfFile ∧ w.Later nowhere after) := by
  simp only [save, ensures_adapt]
  exact (ensures_writeFile path ledger.bytes w).imp (fun _ _ => id)
    fun _ _ later => ⟨.io _ _, later⟩

/-- **What changing a stored plan by a step ensures.** -/
theorem ensures_change (path : String) (step : Ledger → Except PlanError (Task × Ledger))
    (w : Workspace) :
    Ensures (change (m := InWorkspace) path step) w
      (fun moved after => ∃ ledger next,
        planIn w path = .ok ledger ∧ step ledger = .ok (moved, next) ∧
        w.Later (· = w.placeOf path) after ∧ after.read path = .ok next.bytes)
      (fun e after => w.Later nowhere after ∧
        (e.IsOfFile ∨
          after = w ∧ ∃ ledger, planIn w path = .ok ledger ∧ step ledger = .error e)) := by
  simp only [change, ensures_bind, ensures_load, ensures_result, ensures_pure]
  refine ⟨fun ledger loaded => ⟨fun pair stepped => ?_, fun e stuck => ?_⟩, fun e missing => ?_⟩
  · obtain ⟨moved, next⟩ := pair
    refine (ensures_save path next w).imp (fun _ after saved => ?_) fun e after stuck => ?_
    · exact ⟨ledger, next, loaded, stepped, saved⟩
    · exact ⟨stuck.2, .inl stuck.1⟩
  · exact ⟨.refl nowhere w, .inr ⟨trivial, ledger, loaded, stuck⟩⟩
  · exact ⟨.refl nowhere w, .inl (isOfFile_of_planIn missing)⟩

/-- A stored task is moved to a status, or nothing happens to it. -/
theorem ensures_setStatus (path id : String) (next : Status) (w : Workspace) :
    Ensures (setStatus (m := InWorkspace) path id next) w
      (fun _ after => ∃ (old : Task) (later : Ledger), storedTask? w path id = some old ∧
        later.task? id = some { old with status := next } ∧
        w.Later (· = w.placeOf path) after ∧ after.read path = .ok later.bytes)
      (fun e after => w.Later nowhere after ∧ (e.IsOfFile ∨ after = w)) := by
  refine (ensures_change path _ w).imp (fun moved after changed => ?_) fun e after failed => ?_
  · obtain ⟨ledger, later, loaded, step, kept, reads⟩ := changed
    obtain ⟨old, found, _, _, _, rfl⟩ := Ledger.setStatus_eq_ok_iff.mp step
    refine ⟨old, _, ?_, Ledger.task?_change found rfl, kept, reads⟩
    rw [storedTask?_of_planIn loaded, found]
  · exact ⟨failed.1, failed.2.imp (fun file => file) And.left⟩

/-- A task of a plan that lies in a file is completed, or nothing happens to it. -/
theorem ensures_complete {task : Task} (reads : w.read path = .ok ledger.bytes)
    (found : ledger.task? id = some task) (artifacts : List String) :
    Ensures (complete (m := InWorkspace) path id artifacts) w
      (fun _ after => w.Later (· = w.placeOf path) after ∧
        storedTask? after path id = some { task with status := .completed, artifacts })
      (fun e after => w.Later nowhere after ∧ (e.IsOfFile ∨ e = .artifactsRequired id)) := by
  -- what is loaded is the plan that lies in the file
  have same : ∀ other, planIn w path = .ok other → other = ledger := by
    intro other loaded
    rw [planIn_of_read reads] at loaded
    split at loaded
    · cases loaded
    · exact (Except.ok.inj loaded).symm
  refine (ensures_change path _ w).imp (fun moved after changed => ?_) fun e after failed => ?_
  · obtain ⟨other, later, loaded, step, kept, written⟩ := changed
    obtain rfl := same other loaded
    obtain ⟨_, old, hf, _, rfl⟩ := Ledger.complete_eq_ok_iff.mp step
    obtain rfl := Option.some.inj (found.symm.trans hf)
    exact ⟨kept, (storedTask?_of_read written).trans (Ledger.task?_change found rfl)⟩
  · refine ⟨failed.1, failed.2.imp (fun file => file) ?_⟩
    rintro ⟨_, other, loaded, step⟩
    obtain rfl := same other loaded
    exact Ledger.complete_error found step

/-! ## 3. Recording -/

/-- The plan with a task recorded for an intent. -/
def Ledger.recorded (ledger : Ledger) (intent : String) (task : Task) : Ledger :=
  ({ ledger with intent }.push task).2

/-- The recorded task is found by its id unless an older task has this id. -/
theorem task?_recorded (ledger : Ledger) (intent : String) (task : Task) :
    (ledger.recorded intent task).task? (taskId ledger.tasks.length) =
      some ((ledger.task? (taskId ledger.tasks.length)).getD
        { task with id := taskId ledger.tasks.length }) := by
  simp only [Ledger.recorded, Ledger.push, Ledger.task?, List.find?_append]
  cases ledger.tasks.find? (·.id == taskId ledger.tasks.length) <;> simp

/-- The plan in which a task is recorded: the stored one, or a new one if there is no file. -/
def startIn (w : Workspace) (path intent : String) (now : Moment) : Except PlanError Ledger :=
  match planIn w path with
  | .error (.notFound _) => Ledger.begin intent now
  | found => found

@[simp] theorem ensures_loadOrBegin {intent : String} {now : Moment}
    {done : Ledger → Workspace → Prop} {failed : PlanError → Workspace → Prop} :
    Ensures (loadOrBegin (m := InWorkspace) path intent now) w done failed ↔
      (∀ ledger, startIn w path intent now = .ok ledger → done ledger w) ∧
        (∀ e, startIn w path intent now = .error e → failed e w) := by
  simp only [loadOrBegin, startIn, ensures_bind, ensures_tryCatch, ensures_load]
  cases planIn w path with
  | ok ledger => simp
  | error e =>
    cases e with
    | notFound missing =>
      cases Ledger.begin intent now with
      | ok ledger =>
        simp only [ensures_bind, ensures_result, Except.error.injEq, Except.ok.injEq, forall_eq',
          reduceCtorEq, false_implies, implies_true, true_and, and_true]
        -- the handler returns early
        change Ensures (pure (Except.error ledger) :
          ExceptT PlanError InWorkspace (Except Ledger Ledger)) w _ _ ↔ _
        rw [ensures_pure]
        exact ensures_pure ledger
      | error e => simp
    | tooLarge | io | malformed | badTime | unknownTask | artifactsRequired | backward => simp

/-- A task is recorded in the plan that was stored or begun. -/
theorem ensures_record_iff {intent : String} {task : Task} {now : Moment}
    {done : Task → Workspace → Prop} {failed : PlanError → Workspace → Prop} :
    Ensures (record (m := InWorkspace) path intent task now) w done failed ↔
      (∀ ledger, startIn w path intent now = .ok ledger →
        Ensures (save (m := InWorkspace) path (ledger.recorded intent task)) w
          (fun _ after => ∀ stored,
            (ledger.recorded intent task).task? (taskId ledger.tasks.length) = some stored →
              done stored after) failed) ∧
        (∀ e, startIn w path intent now = .error e → failed e w) := by
  simp only [record, ensures_bind, ensures_loadOrBegin]
  refine and_congr_left fun _ => forall₂_congr fun ledger _ => ?_
  have found := task?_recorded ledger intent task
  refine iff_of_eq (congrArg (Ensures _ w · failed) (funext₂ fun _ after => ?_))
  have answered : ({ ledger with intent }.push task).2.task?
      ({ ledger with intent }.push task).1 = _ := found
  rw [answered, found]
  simp

/-- **What recording a task in a stored plan ensures.** -/
theorem ensures_record {intent : String} {task : Task} {now : Moment}
    (loaded : planIn w path = .ok ledger) :
    Ensures (record (m := InWorkspace) path intent task now) w
      (fun stored after =>
        (ledger.recorded intent task).task? (taskId ledger.tasks.length) = some stored ∧
        w.Later (· = w.placeOf path) after ∧
        after.read path = .ok (ledger.recorded intent task).bytes)
      (fun _ after => w.Later nowhere after) := by
  have started : startIn w path intent now = .ok ledger := by rw [startIn, loaded]
  simp only [ensures_record_iff, started]
  refine ⟨?_, fun _ missing => by cases missing⟩
  rintro _ ⟨⟩
  exact (ensures_save path (ledger.recorded intent task) w).imp
    (fun _ after saved stored found => ⟨found, saved⟩) fun _ _ stuck => stuck.2

/-- **Which task recording returns, and when it is the one that was recorded.** The id comes from
the number of tasks. If an older task has this id, that one is returned. The recorded task has an
id of its own, is returned and is found by its id afterwards exactly when no older task has the id
and the written plan is not too large to be loaded. -/
theorem record_answers_iff (intent : String) (task : Task) (now : Moment)
    (loaded : planIn w path = .ok ledger) :
    Ensures (record (m := InWorkspace) path intent task now) w
      (fun stored after =>
        let appended : Task := { task with id := taskId ledger.tasks.length }
        after.read path = .ok (ledger.recorded intent task).bytes ∧
        stored = (ledger.task? appended.id).getD appended ∧
        ((∀ old ∈ ledger.tasks, old.id ≠ appended.id) ∧ stored = appended ∧
            Ensures (Plan.task (m := InWorkspace) path appended.id) after
              (fun found _ => found = appended) (fun _ _ => False) ↔
          (∀ old ∈ ledger.tasks, old.id ≠ appended.id) ∧
            (ledger.recorded intent task).bytes.size ≤ maxBytes))
      (fun _ after => w.Later nowhere after) := by
  refine (ensures_record loaded).imp (fun stored after saved => ?_) fun _ _ => id
  obtain ⟨hs, _, written⟩ := saved
  rw [task?_recorded] at hs
  have answer := (Option.some.inj hs).symm
  refine ⟨written, answer, and_congr_right fun fresh => ?_⟩
  have none : ledger.task? (taskId ledger.tasks.length) = none :=
    List.find?_eq_none.mpr fun old ho => by simpa using fresh old ho
  have found := task?_recorded ledger intent task
  simp only [none, Option.getD_none] at answer found
  simp only [answer, true_and, ensures_task, planIn_of_read written]
  by_cases large : maxBytes < (ledger.recorded intent task).bytes.size
  · simp [large, Nat.not_le.mpr large]
  · simp [large, Nat.not_lt.mp large, found]

/-- A workspace with a plan in a file. -/
def keeping (ledger : Ledger) : Workspace :=
  { Workspace.empty with
    tree := .folder [("work", .folder [("plan.json", .file ledger.bytes)])] }

theorem read_keeping (ledger : Ledger) : (keeping ledger).read "plan.json" = .ok ledger.bytes := rfl

/-- A plan in which one task is left, and it is not the first one that was recorded. -/
def shortened : Ledger :=
  ⟨"list pets", "1970-01-01T00:00:00Z", [.pending "task-2" "list pets" ["listPets"]]⟩

theorem record_in_shortened :
    planIn (keeping shortened) "plan.json" = .ok shortened ∧
      Ensures (record (m := InWorkspace) "plan.json" "add a pet"
          (.pending "" "add a pet" ["createPet"]) ⟨0, 0, 0⟩) (keeping shortened)
        (fun stored _ => stored = .pending "task-2" "list pets" ["listPets"])
        (fun _ after => (keeping shortened).Later nowhere after) := by
  have loaded : planIn (keeping shortened) "plan.json" = .ok shortened :=
    (planIn_of_read (read_keeping shortened)).trans (if_neg (by decide +kernel))
  have answers := record_answers_iff "add a pet" (.pending "" "add a pet" ["createPet"]) ⟨0, 0, 0⟩
    loaded
  refine ⟨loaded, answers.imp (fun stored after answer => ?_) fun _ _ => id⟩
  have same : shortened.task? (taskId shortened.tasks.length) =
      some (.pending "task-2" "list pets" ["listPets"]) := by decide +kernel
  refine answer.2.1.trans ?_
  change (shortened.task? (taskId shortened.tasks.length)).getD _ = _
  rw [same, Option.getD_some]

end Covenant.Plan
