import Covenant.Plan.Ledger
import Covenant.Proofs.Result
/-!
# Runs of a plan

What a plan is after any row of steps, each of which adds a task, moves one or completes one.

* `runOn_setStatus` and `runOn_complete` say how moving and completing a task end, in an error too,
  and which plan they leave.
* `step_cases` is what a step does that succeeds; `step_error`: one that fails leaves the plan as it
  was.
* `Task.MovesTo` is what may happen to one task, `Ledger.GrowsTo` what may happen to a plan; both
  are transitive, so that what one step does holds of every run (`growsTo_run`).
* `Ledger.Sound` is the invariant: the ids are those of the places, and a task is completed exactly
  when files were written for it.
-/

namespace Covenant.Plan

/-! ## 1. Ids -/

theorem taskId_injective {i j : Nat} (h : taskId i = taskId j) : i = j := by
  have digits : toString (i + 1) = toString (j + 1) := String.append_right_inj _ |>.mp h
  have numbers : Nat.toDigits 10 (i + 1) = Nat.toDigits 10 (j + 1) := by
    simpa [Nat.toString_eq_repr, ← String.toList_inj] using digits
  have values := congrArg (Nat.ofDigitChars 10 · 0) numbers
  simp only [Nat.ofDigitChars_ten_toDigits] at values
  omega

/-! ## 2. Statuses -/

/-- The place of a status in the order in which work goes on. -/
def Status.rank : Status → Nat
  | .pending => 0
  | .inProgress => 1
  | .completed => 2

/-- A task may move to the statuses that do not come before its own. -/
theorem Status.allows_iff (status next : Status) :
    status.allows next = true ↔ status.rank ≤ next.rank := by
  cases status <;> cases next <;> decide

theorem Status.rank_le_completed (status : Status) : status.rank ≤ Status.completed.rank := by
  cases status <;> decide

/-! ## 3. Changing one task -/

/-- The task found by an id after the task of this id was changed. -/
theorem find?_changeFirst {tasks : List Task} {id : String} {task : Task} {f : Task → Task}
    (h : tasks.find? (·.id == id) = some task) (hf : (f task).id = task.id) :
    (Ledger.changeFirst id f tasks).find? (·.id == id) = some (f task) := by
  induction tasks with
  | nil => simp at h
  | cons first rest ih =>
    by_cases same : first.id = id
    · obtain rfl : first = task := by simpa [List.find?_cons, same] using h
      simp [Ledger.changeFirst, hf, same]
    · have later : rest.find? (·.id == id) = some task := by
        simpa [List.find?_cons, same] using h
      simpa [Ledger.changeFirst, same, List.find?_cons] using ih later

/-- The task found by an id is still found by it after it was changed. -/
theorem Ledger.task?_change {ledger : Ledger} {id : String} {task : Task} {f : Task → Task}
    (h : ledger.task? id = some task) (hf : (f task).id = task.id) :
    (ledger.change id f).task? id = some (f task) :=
  find?_changeFirst h hf

/-- A task that is changed twice is changed once by both, so long as it keeps its id. -/
theorem changeFirst_changeFirst {f : Task → Task} (named : ∀ task, (f task).id = task.id)
    (id : String) (g : Task → Task) (tasks : List Task) :
    Ledger.changeFirst id g (Ledger.changeFirst id f tasks) =
      Ledger.changeFirst id (g ∘ f) tasks := by
  induction tasks with
  | nil => rfl
  | cons task rest ih =>
    by_cases same : task.id = id
    · simp [Ledger.changeFirst, named, same]
    · simp [Ledger.changeFirst, same, ih]

theorem Ledger.change_change {f : Task → Task} (named : ∀ task, (f task).id = task.id)
    (ledger : Ledger) (id : String) (g : Task → Task) :
    (ledger.change id f).change id g = ledger.change id (g ∘ f) := by
  simp [Ledger.change, changeFirst_changeFirst named]

/-! ## 4. How programs on a plan end -/

namespace InPlan

variable {ledger left : Ledger}

/-- What comes after a program that succeeds begins with the plan that it has left. -/
theorem runOn_bind_ok {program : InPlan β} {rest : β → InPlan α} {b : β}
    (h : program.runOn ledger = (.ok b, left)) :
    (program >>= rest).runOn ledger = (rest b).runOn left := by
  unfold runOn at h ⊢
  rw [ExceptT.run_bind, StateT.run_bind, h]
  rfl

/-- Nothing comes after a program that fails. -/
theorem runOn_bind_error {program : InPlan β} {rest : β → InPlan α} {reason : PlanError}
    (h : program.runOn ledger = (.error reason, left)) :
    (program >>= rest).runOn ledger = (.error reason, left) := by
  unfold runOn at h ⊢
  rw [ExceptT.run_bind, StateT.run_bind, h]
  rfl

/-- Finding a task that may move leaves the plan as it is. -/
theorem runOn_movable (ledger : Ledger) (id : String) (next : Status) :
    (movable id next).runOn ledger =
      match ledger.task? id with
      | none => (.error (.unknownTask id), ledger)
      | some task =>
        if task.status.allows next then (.ok task, ledger)
        else (.error (.backward id task.status next), ledger) := by
  have read : (get : InPlan Ledger).runOn ledger = (.ok ledger, ledger) := rfl
  rw [movable, runOn_bind_ok read]
  cases ledger.task? id with
  | none => rfl
  | some task =>
    dsimp only
    cases task.status.allows next <;> rfl

/-- **How moving a task ends, and the plan that it leaves.** -/
theorem runOn_setStatus (ledger : Ledger) (id : String) (next : Status) :
    (setStatus id next).runOn ledger =
      match ledger.task? id with
      | none => (.error (.unknownTask id), ledger)
      | some task =>
        if task.status.allows next then
          if next = .completed ∧ task.status ≠ .completed then
            (.error (.artifactsRequired id), ledger)
          else (.ok { task with status := next }, ledger.change id ({ · with status := next }))
        else (.error (.backward id task.status next), ledger) := by
  have found := runOn_movable ledger id next
  cases there : ledger.task? id with
  | none =>
    rw [there] at found
    exact runOn_bind_error found
  | some task =>
    rw [there] at found
    by_cases forward : task.status.allows next
    · simp only [forward, if_true] at found ⊢
      rw [setStatus, runOn_bind_ok found]
      by_cases new : next = .completed ∧ task.status ≠ .completed
      · have guard : (next == .completed && task.status != .completed) = true := by simp [new]
        rw [guard, if_pos rfl, if_pos new]
        rfl
      · have guard : (next == .completed && task.status != .completed) = false := by simpa using new
        rw [guard, if_neg new]
        rfl
    · simp only [forward] at found ⊢
      exact runOn_bind_error found

/-- **How completing a task ends, and the plan that it leaves.** -/
theorem runOn_complete (ledger : Ledger) (id : String) (artifacts : List String) :
    (complete id artifacts).runOn ledger =
      if artifacts = [] then (.error (.artifactsRequired id), ledger)
      else match ledger.task? id with
        | none => (.error (.unknownTask id), ledger)
        | some task =>
          (.ok { task with status := .completed, artifacts },
            ledger.change id ({ · with status := .completed, artifacts })) := by
  by_cases empty : artifacts = []
  · subst empty
    rfl
  · have guard : artifacts.isEmpty = false := by simpa using empty
    have found := runOn_movable ledger id .completed
    simp only [complete, guard, empty, if_false, Bool.false_eq_true]
    cases there : ledger.task? id with
    | none =>
      rw [there] at found
      exact runOn_bind_error found
    | some task =>
      -- a task may always move to `completed`
      have forward := (Status.allows_iff _ _).mpr (Status.rank_le_completed task.status)
      simp only [there, forward, if_true] at found
      rw [runOn_bind_ok found]
      -- the status and the files are assigned one after the other
      have assigned := Ledger.change_change (f := ({ · with status := .completed })) (fun _ => rfl)
        ledger id ({ · with artifacts })
      exact Prod.ext rfl assigned

end InPlan

theorem Ledger.changed_eq_ok_iff {ledger after : Ledger} {program : InPlan α} {value : α} :
    ledger.changed program = .ok (value, after) ↔
      program.runOn ledger = (.ok value, after) := by
  unfold Ledger.changed
  rcases program.runOn ledger with ⟨reason | found, left⟩ <;> simp

theorem Ledger.changed_eq_error_iff {ledger : Ledger} {program : InPlan α} {reason : PlanError} :
    ledger.changed program = .error reason ↔ (program.runOn ledger).1 = .error reason := by
  unfold Ledger.changed
  rcases program.runOn ledger with ⟨other | found, left⟩ <;> simp

/-- **When a task can be moved, and what that makes of it and of the plan.** -/
theorem Ledger.setStatus_eq_ok_iff {ledger after : Ledger} {id : String} {next : Status}
    {moved : Task} :
    ledger.setStatus id next = .ok (moved, after) ↔
      ∃ task, ledger.task? id = some task ∧ task.status.rank ≤ next.rank ∧
        (next = .completed → task.status = .completed) ∧
        moved = { task with status := next } ∧
        after = ledger.change id ({ · with status := next }) := by
  rw [Ledger.setStatus, Ledger.changed_eq_ok_iff, InPlan.runOn_setStatus]
  cases ledger.task? id with
  | none => simp
  | some task =>
    simp only [Status.allows_iff, Option.some.injEq, exists_eq_left']
    by_cases forward : task.status.rank ≤ next.rank
    · by_cases new : next = .completed ∧ task.status ≠ .completed
      · rw [if_pos forward, if_pos new]
        simp [new]
      · have old : next = .completed → task.status = .completed := by simpa using new
        rw [if_pos forward, if_neg new, Prod.mk.injEq, Except.ok.injEq]
        constructor
        · rintro ⟨rfl, rfl⟩
          exact ⟨forward, old, rfl, rfl⟩
        · rintro ⟨_, _, rfl, rfl⟩
          exact ⟨rfl, rfl⟩
    · simp [forward]

/-- **When a task can be completed, and what that makes of it and of the plan.** -/
theorem Ledger.complete_eq_ok_iff {ledger after : Ledger} {id : String} {artifacts : List String}
    {moved : Task} :
    ledger.complete id artifacts = .ok (moved, after) ↔
      artifacts ≠ [] ∧ ∃ task, ledger.task? id = some task ∧
        moved = { task with status := .completed, artifacts } ∧
        after = ledger.change id ({ · with status := .completed, artifacts }) := by
  rw [Ledger.complete, Ledger.changed_eq_ok_iff, InPlan.runOn_complete]
  by_cases empty : artifacts = []
  · simp [empty]
  · cases ledger.task? id with
    | none => simp [empty]
    | some task => simp [empty, eq_comm]

/-- A task that is found is not completed for one reason only: there are no files. -/
theorem Ledger.complete_error {ledger : Ledger} {id : String} {artifacts : List String}
    {task : Task} {e : PlanError} (found : ledger.task? id = some task)
    (h : ledger.complete id artifacts = .error e) : e = .artifactsRequired id := by
  rw [Ledger.complete, Ledger.changed_eq_error_iff, InPlan.runOn_complete, found] at h
  split_ifs at h
  exact (Except.error.inj h).symm

/-! ## 5. Steps -/

/-- A step that changes a plan. -/
inductive Step where
  | push (task : Task)
  | setStatus (id : String) (status : Status)
  | complete (id : String) (artifacts : List String)

namespace Step

/-- A task that is added has not begun and has no files. -/
def AddsFresh : Step → Prop
  | .push task => task.status = .pending ∧ task.artifacts = []
  | _ => True

/-- The step is about the tasks with this id. -/
def IsAbout (step : Step) (id : String) : Prop :=
  match step with
  | .push _ => False
  | .setStatus about _ => about = id
  | .complete about _ => about = id

end Step

/-- The program of a step. -/
def Step.program : Step → InPlan Unit
  | .push task => discard (InPlan.push task)
  | .setStatus id status => discard (InPlan.setStatus id status)
  | .complete id artifacts => discard (InPlan.complete id artifacts)

/-- How a step ends, and the plan that it leaves. -/
def Ledger.step (ledger : Ledger) (step : Step) : Except PlanError Unit × Ledger :=
  step.program.runOn ledger

/-- The plan after a step, whether it succeeds or not. -/
def Ledger.after (ledger : Ledger) (step : Step) : Ledger := (ledger.step step).2

/-- The plan after a row of steps. -/
def Ledger.run (ledger : Ledger) (steps : List Step) : Ledger := steps.foldl Ledger.after ledger

theorem Ledger.run_append (ledger : Ledger) (earlier later : List Step) :
    ledger.run (earlier ++ later) = (ledger.run earlier).run later := List.foldl_append

/-- A task may become another one: only its status and its files change, the status does not go
back, and completed tasks stay those with files. -/
structure Task.MovesTo (task moved : Task) : Prop where
  id : moved.id = task.id
  title : moved.title = task.title
  description : moved.description = task.description
  operations : moved.operations = task.operations
  forward : task.status.rank ≤ moved.status.rank
  files : (task.status = .completed ↔ task.artifacts ≠ []) →
    (moved.status = .completed ↔ moved.artifacts ≠ [])

theorem Task.MovesTo.refl (task : Task) : task.MovesTo task :=
  ⟨rfl, rfl, rfl, rfl, Nat.le_refl _, fun h => h⟩

theorem Task.MovesTo.trans {a b c : Task} (h : a.MovesTo b) (g : b.MovesTo c) : a.MovesTo c :=
  ⟨g.id.trans h.id, g.title.trans h.title, g.description.trans h.description,
    g.operations.trans h.operations, Nat.le_trans h.forward g.forward,
    fun files => g.files (h.files files)⟩

/-- A program whose value is not needed. -/
theorem InPlan.runOn_discard (program : InPlan α) (ledger : Ledger) :
    (discard program).runOn ledger =
      ((program.runOn ledger).1.map fun _ => (), (program.runOn ledger).2) := by
  rcases ends : program.runOn ledger with ⟨reason | value, left⟩
  · exact runOn_bind_error ends
  · exact runOn_bind_ok ends

theorem InPlan.ok_of_discard {program : InPlan α} {ledger left : Ledger}
    (h : (discard program).runOn ledger = (.ok (), left)) :
    ∃ value, program.runOn ledger = (.ok value, left) := by
  rw [runOn_discard, Prod.mk.injEq, map_eq_ok_iff] at h
  obtain ⟨⟨value, same, _⟩, rfl⟩ := h
  exact ⟨value, Prod.ext same rfl⟩

theorem InPlan.error_of_discard {program : InPlan α} {ledger left : Ledger} {reason : PlanError}
    (h : (discard program).runOn ledger = (.error reason, left)) :
    program.runOn ledger = (.error reason, left) := by
  rw [runOn_discard, Prod.mk.injEq, map_eq_error_iff] at h
  exact Prod.ext h.1 h.2

/-- **What a step does that succeeds**: it adds a task at the end, or it moves the first task of
the id that it is about. -/
theorem step_cases {ledger next : Ledger} {step : Step} (h : ledger.step step = (.ok (), next)) :
    (∃ task, step = .push task ∧ next = (ledger.push task).2) ∨
    (∃ id task f, step.IsAbout id ∧ ledger.task? id = some task ∧ task.MovesTo (f task) ∧
      next = ledger.change id f) := by
  cases step with
  | push task =>
    left
    exact ⟨task, rfl, (Prod.mk.inj h).2.symm⟩
  | setStatus id status =>
    right
    obtain ⟨moved, hs⟩ := InPlan.ok_of_discard h
    obtain ⟨task, found, forward, completed, _, rfl⟩ :=
      Ledger.setStatus_eq_ok_iff.mp (Ledger.changed_eq_ok_iff.mpr hs)
    refine ⟨id, task, _, rfl, found, ⟨rfl, rfl, rfl, rfl, forward, fun files => ?_⟩, rfl⟩
    constructor
    · exact fun e => files.mp (completed e)
    · intro some_files
      have done : task.status = .completed := files.mpr some_files
      -- nothing comes after `completed`
      cases status with
      | completed => rfl
      | pending => simp [done, Status.rank] at forward
      | inProgress => simp [done, Status.rank] at forward
  | complete id artifacts =>
    right
    obtain ⟨moved, hs⟩ := InPlan.ok_of_discard h
    obtain ⟨some_files, task, found, _, rfl⟩ :=
      Ledger.complete_eq_ok_iff.mp (Ledger.changed_eq_ok_iff.mpr hs)
    refine ⟨id, task, _, rfl, found, ⟨rfl, rfl, rfl, rfl, ?_, fun _ => ?_⟩, rfl⟩
    · exact Status.rank_le_completed task.status
    · simpa using some_files

/-- **A step that fails leaves the plan as it was**: whatever it asks of the plan, it asks before
the first change. -/
theorem step_error {ledger left : Ledger} {step : Step} {reason : PlanError}
    (h : ledger.step step = (.error reason, left)) : left = ledger := by
  cases step with
  | push task => exact nomatch (Prod.mk.inj h).1
  | setStatus id status =>
    have ends := InPlan.error_of_discard h
    rw [InPlan.runOn_setStatus] at ends
    -- each end with an error is an end with the plan that there was
    split at ends
    · exact (Prod.mk.inj ends).2.symm
    · split_ifs at ends
      · exact (Prod.mk.inj ends).2.symm
      · exact nomatch (Prod.mk.inj ends).1
      · exact (Prod.mk.inj ends).2.symm
  | complete id artifacts =>
    have ends := InPlan.error_of_discard h
    rw [InPlan.runOn_complete] at ends
    split_ifs at ends
    · exact (Prod.mk.inj ends).2.symm
    · split at ends
      · exact (Prod.mk.inj ends).2.symm
      · exact nomatch (Prod.mk.inj ends).1

/-! ## 6. What stays and what grows -/

/-- A plan may become another one: tasks keep their places and only move, and the time at which
the plan was begun stays. -/
structure Ledger.GrowsTo (ledger later : Ledger) : Prop where
  createdAt : later.createdAt = ledger.createdAt
  tasks : ∀ (i : Nat) (task : Task), ledger.tasks[i]? = some task →
    ∃ moved, later.tasks[i]? = some moved ∧ task.MovesTo moved

theorem Ledger.GrowsTo.refl (ledger : Ledger) : ledger.GrowsTo ledger :=
  ⟨rfl, fun _ task h => ⟨task, h, .refl task⟩⟩

theorem Ledger.GrowsTo.trans {a b c : Ledger} (h : a.GrowsTo b) (g : b.GrowsTo c) :
    a.GrowsTo c := by
  refine ⟨g.createdAt.trans h.createdAt, fun i task ht => ?_⟩
  obtain ⟨moved, hm, first⟩ := h.tasks i task ht
  obtain ⟨last, hl, second⟩ := g.tasks i moved hm
  exact ⟨last, hl, first.trans second⟩

@[simp] theorem length_changeFirst (id : String) (f : Task → Task) (tasks : List Task) :
    (Ledger.changeFirst id f tasks).length = tasks.length := by
  induction tasks with
  | nil => rfl
  | cons task rest ih => by_cases h : task.id = id <;> simp [Ledger.changeFirst, h, ih]

/-- Changing the first task of an id moves this task and leaves those of other ids alone. -/
theorem getElem?_changeFirst {tasks : List Task} {id : String} {task : Task} {f : Task → Task}
    (found : tasks.find? (·.id == id) = some task) (moves : task.MovesTo (f task)) {i : Nat}
    {other : Task} (h : tasks[i]? = some other) :
    ∃ moved, (Ledger.changeFirst id f tasks)[i]? = some moved ∧ other.MovesTo moved ∧
      (other.id ≠ id → moved = other) := by
  induction tasks generalizing i with
  | nil => simp at h
  | cons first rest ih =>
    by_cases same : first.id = id
    · obtain rfl : first = task := by simpa [List.find?_cons, same] using found
      cases i with
      | zero =>
        obtain rfl : first = other := by simpa using h
        exact ⟨f first, by simp [Ledger.changeFirst, same], moves, fun ne => absurd same ne⟩
      | succ i =>
        have there : rest[i]? = some other := by simpa using h
        exact ⟨other, by simp [Ledger.changeFirst, same, there], .refl other, fun _ => rfl⟩
    · cases i with
      | zero =>
        obtain rfl : first = other := by simpa using h
        exact ⟨first, by simp [Ledger.changeFirst, same], .refl first, fun _ => rfl⟩
      | succ i =>
        have later : rest.find? (·.id == id) = some task := by
          simpa [List.find?_cons, same] using found
        obtain ⟨moved, hm, rest_moves⟩ := ih later (by simpa using h)
        exact ⟨moved, by simpa [Ledger.changeFirst, same] using hm, rest_moves⟩

/-- A task that a successful step is not about stays as it is. -/
theorem getElem?_step {ledger next : Ledger} {step : Step} (h : ledger.step step = (.ok (), next))
    {i : Nat} {task : Task} (ht : ledger.tasks[i]? = some task) :
    ∃ moved, next.tasks[i]? = some moved ∧ task.MovesTo moved ∧
      (¬step.IsAbout task.id → moved = task) := by
  obtain ⟨new, rfl, rfl⟩ | ⟨id, found, f, about, hf, moves, rfl⟩ := step_cases h
  · have inside : i < ledger.tasks.length := (List.getElem?_eq_some_iff.mp ht).1
    refine ⟨task, ?_, .refl task, fun _ => rfl⟩
    simpa [Ledger.push, List.getElem?_append_left inside] using ht
  · obtain ⟨moved, hm, task_moves, rest⟩ := getElem?_changeFirst hf moves ht
    refine ⟨moved, hm, task_moves, fun other => rest fun same => other ?_⟩
    rw [same]
    exact about

theorem createdAt_step {ledger next : Ledger} {step : Step}
    (h : ledger.step step = (.ok (), next)) : next.createdAt = ledger.createdAt := by
  obtain ⟨new, _, rfl⟩ | ⟨_, _, _, _, _, _, rfl⟩ := step_cases h <;> rfl

theorem growsTo_after (ledger : Ledger) (step : Step) : ledger.GrowsTo (ledger.after step) := by
  unfold Ledger.after
  rcases h : ledger.step step with ⟨reason | ⟨⟩, next⟩
  · rw [step_error h]
    exact .refl ledger
  · refine ⟨createdAt_step h, fun i task ht => ?_⟩
    obtain ⟨moved, hm, moves, _⟩ := getElem?_step h ht
    exact ⟨moved, hm, moves⟩

/-- Every run lets a plan grow. -/
theorem growsTo_run (ledger : Ledger) (steps : List Step) : ledger.GrowsTo (ledger.run steps) := by
  induction steps generalizing ledger with
  | nil => exact .refl ledger
  | cons step rest ih => exact (growsTo_after ledger step).trans (ih (ledger.after step))

/-! ## 7. The invariant -/

/-- A plan that only steps have made: ids are those of the places, and a task is completed exactly
when files were written for it. -/
structure Ledger.Sound (ledger : Ledger) : Prop where
  id_at : ∀ (i : Nat) (task : Task), ledger.tasks[i]? = some task → task.id = taskId i
  files : ∀ (i : Nat) (task : Task), ledger.tasks[i]? = some task →
    (task.status = .completed ↔ task.artifacts ≠ [])

/-- Tasks whose ids are those of their places have distinct ids. -/
theorem Ledger.Sound.nodup {ledger : Ledger} (h : ledger.Sound) :
    (ledger.tasks.map (·.id)).Nodup := by
  refine List.pairwise_iff_getElem.mpr fun i j hi hj before same => ?_
  have hi' : i < ledger.tasks.length := by simpa using hi
  have hj' : j < ledger.tasks.length := by simpa using hj
  have idi := h.id_at i _ (List.getElem?_eq_getElem hi')
  have idj := h.id_at j _ (List.getElem?_eq_getElem hj')
  have e : taskId i = taskId j := by simpa [idi, idj] using same
  have := taskId_injective e
  omega

theorem Ledger.sound_push {ledger : Ledger} (h : ledger.Sound) {task : Task}
    (fresh : task.status = .pending ∧ task.artifacts = []) : (ledger.push task).2.Sound := by
  have at_place : ∀ (i : Nat) (found : Task), (ledger.push task).2.tasks[i]? = some found →
      ledger.tasks[i]? = some found ∨
        (i = ledger.tasks.length ∧ found = { task with id := taskId ledger.tasks.length }) := by
    intro i found hi
    simp only [Ledger.push, List.getElem?_append] at hi
    split at hi
    · exact .inl hi
    · right
      obtain ⟨first, e⟩ : i - ledger.tasks.length = 0 ∧ _ = found := by
        simpa [List.getElem?_singleton] using hi
      exact ⟨by omega, e.symm⟩
  refine ⟨fun i found hi => ?_, fun i found hi => ?_⟩
  · rcases at_place i found hi with old | ⟨rfl, rfl⟩
    · exact h.id_at i found old
    · rfl
  · rcases at_place i found hi with old | ⟨rfl, rfl⟩
    · exact h.files i found old
    · simp [fresh]

theorem Ledger.sound_change {ledger : Ledger} (h : ledger.Sound) {id : String} {task : Task}
    {f : Task → Task} (found : ledger.task? id = some task) (moves : task.MovesTo (f task)) :
    (ledger.change id f).Sound := by
  -- what stands at a place after the change has moved from what stood there before
  have before : ∀ (i : Nat) (moved : Task), (ledger.change id f).tasks[i]? = some moved →
      ∃ task, ledger.tasks[i]? = some task ∧ task.MovesTo moved := by
    intro i moved hi
    have inside : i < ledger.tasks.length := by
      have := (List.getElem?_eq_some_iff.mp hi).1
      simpa [Ledger.change] using this
    have old := List.getElem?_eq_getElem inside
    obtain ⟨moved', hm, task_moves, _⟩ := getElem?_changeFirst found moves old
    obtain rfl := Option.some.inj (hm.symm.trans hi)
    exact ⟨_, old, task_moves⟩
  refine ⟨fun i moved hi => ?_, fun i moved hi => ?_⟩
  · obtain ⟨task, ht, task_moves⟩ := before i moved hi
    rw [task_moves.id]
    exact h.id_at i task ht
  · obtain ⟨task, ht, task_moves⟩ := before i moved hi
    exact task_moves.files (h.files i task ht)

/-- A step keeps the invariant. -/
theorem Ledger.Sound.after {ledger : Ledger} (h : ledger.Sound) {step : Step}
    (fresh : step.AddsFresh) : (ledger.after step).Sound := by
  unfold Ledger.after
  rcases hs : ledger.step step with ⟨reason | ⟨⟩, next⟩
  · rw [step_error hs]
    exact h
  · obtain ⟨task, rfl, rfl⟩ | ⟨id, task, f, _, found, moves, rfl⟩ := step_cases hs
    · exact Ledger.sound_push h fresh
    · exact Ledger.sound_change h found moves

/-- Every run keeps the invariant. -/
theorem Ledger.Sound.run {ledger : Ledger} (h : ledger.Sound) {steps : List Step}
    (fresh : ∀ step ∈ steps, step.AddsFresh) : (ledger.run steps).Sound := by
  induction steps generalizing ledger with
  | nil => exact h
  | cons step rest ih =>
    exact ih (h.after (fresh step List.mem_cons_self))
      fun later hl => fresh later (List.mem_cons_of_mem _ hl)

/-- A plan just begun has the stamp of its moment and no tasks. -/
theorem Ledger.begin_eq_ok_iff {intent : String} {now : Time.Moment} {start : Ledger} :
    Ledger.begin intent now = .ok start ↔
      ∃ stamp, now.stamp? = some stamp ∧ start = ⟨intent, stamp, []⟩ := by
  unfold Ledger.begin
  cases now.stamp? <;> simp [eq_comm]

theorem Ledger.sound_begin {intent : String} {now : Time.Moment} {start : Ledger}
    (h : Ledger.begin intent now = .ok start) : start.Sound := by
  obtain ⟨stamp, _, rfl⟩ := Ledger.begin_eq_ok_iff.mp h
  exact ⟨fun i task hi => by simp at hi, fun i task hi => by simp at hi⟩

/-- **What every run of a plan keeps.** From a plan just begun, after any steps: the ids are those
of the places and so distinct, and a task is completed exactly when files were written for it. Since
any earlier moment tasks have kept their places and statuses have not gone back. The next step
changes neither the time at which the plan was begun nor a task that it is not about, and changes
nothing if it fails. -/
theorem run_numbers_and_advances {intent : String} {now : Time.Moment} {start : Ledger}
    (begun : Ledger.begin intent now = .ok start) (steps : List Step)
    (fresh : ∀ step ∈ steps, step.AddsFresh) :
    (∀ (i : Nat) (task : Task), (start.run steps).tasks[i]? = some task → task.id = taskId i) ∧
    ((start.run steps).tasks.map (·.id)).Nodup ∧
    (∀ task ∈ (start.run steps).tasks, task.status = .completed ↔ task.artifacts ≠ []) ∧
    (∀ earlier later, steps = earlier ++ later →
      (start.run earlier).GrowsTo (start.run steps)) ∧
    (∀ step, ((start.run steps).after step).createdAt = start.createdAt ∧
      (∀ (i : Nat) (task : Task), (start.run steps).tasks[i]? = some task →
        ¬step.IsAbout task.id → ((start.run steps).after step).tasks[i]? = some task) ∧
      (∀ reason, ((start.run steps).step step).1 = .error reason →
        (start.run steps).after step = start.run steps)) := by
  have sound : (start.run steps).Sound := (Ledger.sound_begin begun).run fresh
  refine ⟨sound.id_at, sound.nodup, fun task ht => ?_, ?_, fun step => ⟨?_, ?_, ?_⟩⟩
  · obtain ⟨i, hi⟩ := List.getElem?_of_mem ht
    exact sound.files i task hi
  · rintro earlier later rfl
    rw [Ledger.run_append]
    exact growsTo_run (start.run earlier) later
  · exact (growsTo_after _ step).createdAt.trans (growsTo_run start steps).createdAt
  · intro i task ht other
    unfold Ledger.after
    rcases h : (start.run steps).step step with ⟨reason | ⟨⟩, next⟩
    · rw [step_error h]
      exact ht
    · obtain ⟨moved, hm, _, same⟩ := getElem?_step h ht
      rw [← same other]
      exact hm
  · intro reason h
    exact step_error (Prod.ext h rfl)

/-- Two tasks, one of them completed; the last two steps fail. -/
def petSteps : List Step := [
  .push (.pending "" "list pets" ["listPets"]),
  .setStatus "task-1" .inProgress,
  .push (.pending "" "add a pet" ["createPet"]),
  .complete "task-1" ["go/main.go"],
  .setStatus "task-1" .pending,
  .complete "task-2" []]

theorem petSteps_keep_numbers :
    ∃ start, Ledger.begin "" ⟨0, 0, 0⟩ = .ok start ∧
      (start.run petSteps).tasks.map (fun task => (task.id, task.status)) =
        [("task-1", .completed), ("task-2", .pending)] ∧
      ((start.run petSteps).tasks.map (·.id)).Nodup ∧
      (∀ task ∈ (start.run petSteps).tasks, task.status = .completed ↔ task.artifacts ≠ []) ∧
      ((start.run petSteps).step (.setStatus "task-1" .inProgress)).1 =
        .error (.backward "task-1" .completed .inProgress) ∧
      (start.run petSteps).after (.setStatus "task-1" .inProgress) = start.run petSteps := by
  have begun : Ledger.begin "" ⟨0, 0, 0⟩ = .ok ⟨"", "1970-01-01T00:00:00Z", []⟩ :=
    Ledger.begin_eq_ok_iff.mpr ⟨_, by decide +kernel, rfl⟩
  have kept := run_numbers_and_advances begun petSteps fun step hs => by
    simp only [petSteps, List.mem_cons, List.not_mem_nil, or_false] at hs
    rcases hs with rfl | rfl | rfl | rfl | rfl | rfl <;> simp [Step.AddsFresh, Task.pending]
  obtain ⟨_, nodup, completed, _, next⟩ := kept
  have refused : ((Ledger.run ⟨"", "1970-01-01T00:00:00Z", []⟩ petSteps).step
      (.setStatus "task-1" .inProgress)).1 =
        .error (.backward "task-1" .completed .inProgress) := by decide +kernel
  exact ⟨_, begun, by decide +kernel, nodup, completed, refused, (next _).2.2 _ refused⟩

end Covenant.Plan
