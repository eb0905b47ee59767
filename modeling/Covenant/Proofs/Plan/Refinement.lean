import Covenant.Proofs.Files.Vacant
import Covenant.Proofs.Plan.Store
/-!
# A stored plan is changed like a plan in memory

A change of a stored plan is one step of a plan, between reading the file and writing it as a whole.

* `Change.found` is the plan that a change begins with, `Change.step` its step; `ensures_program`
  says that the program of a change is this step followed by `save`.
* `change_refines_step`: a change succeeds just if its step and the write do, the file then holds
  the plan after the step, and an error leaves it as it was.
* `saved_loads_iff`: what was saved is loaded again just if it is not larger than a stored plan may
  be. `save` itself has no such limit, so that a plan can be lost (`longPlan_is_lost`).
-/

namespace Covenant.Plan

open Covenant.Files Covenant.Json Covenant.Time

variable {w v : Workspace} {path : String} {ledger next : Ledger}

/-! ## 1. Changes -/

/-- A change of a stored plan. -/
inductive Change where
  | record (intent : String) (task : Task) (now : Moment)
  | setStatus (id : String) (status : Status)
  | complete (id : String) (artifacts : List String)

namespace Change

/-- The program of a change. -/
def program (path : String) : Change → ExceptT PlanError InWorkspace Task
  | .record intent task now => Plan.record path intent task now
  | .setStatus id status => Plan.setStatus path id status
  | .complete id artifacts => Plan.complete path id artifacts

/-- The plan that a change begins with: the stored one; to record a task, a new one if there is no
file. -/
def found (w : Workspace) (path : String) : Change → Except PlanError Ledger
  | .record intent _ now => startIn w path intent now
  | _ => planIn w path

/-- The plan with the intent of a change; only recording brings one. -/
def withIntent (ledger : Ledger) : Change → Ledger
  | .record intent _ _ => { ledger with intent }
  | _ => ledger

/-- The step of a change. -/
def step : Change → Step
  | .record _ task _ => .push task
  | .setStatus id status => .setStatus id status
  | .complete id artifacts => .complete id artifacts

/-- The plan that a change makes of a plan. -/
def apply (change : Change) (ledger : Ledger) : Except PlanError Ledger :=
  ((change.withIntent ledger).changed change.step.program).map Prod.snd

/-- The plan that a change leads to. -/
def outcome (change : Change) (w : Workspace) (path : String) : Except PlanError Ledger :=
  change.found w path >>= change.apply

end Change

/-! ## 2. Programs as steps -/

/-- The plan after a program is the one after it when its value is not needed. -/
theorem map_snd_changed_discard (program : InPlan Task) (ledger : Ledger) :
    (ledger.changed (discard program)).map Prod.snd = (ledger.changed program).map Prod.snd := by
  unfold Ledger.changed
  rw [InPlan.runOn_discard]
  rcases program.runOn ledger with ⟨reason | moved, left⟩ <;> rfl

theorem Change.apply_setStatus (id : String) (status : Status) (ledger : Ledger) :
    Change.apply (.setStatus id status) ledger = (ledger.setStatus id status).map Prod.snd :=
  map_snd_changed_discard _ ledger

theorem Change.apply_complete (id : String) (artifacts : List String) (ledger : Ledger) :
    Change.apply (.complete id artifacts) ledger = (ledger.complete id artifacts).map Prod.snd :=
  map_snd_changed_discard _ ledger

theorem Change.apply_eq_ok_iff {change : Change} :
    change.apply ledger = .ok next ↔
      (change.withIntent ledger).step change.step = (.ok (), next) := by
  rw [Change.apply, map_eq_ok_iff, Ledger.step, ← Ledger.changed_eq_ok_iff]
  constructor
  · rintro ⟨⟨⟨⟩, _⟩, changed, rfl⟩
    exact changed
  · exact fun changed => ⟨_, changed, rfl⟩

theorem intent_step {step : Step} (h : ledger.step step = (.ok (), next)) :
    next.intent = ledger.intent := by
  obtain ⟨new, _, rfl⟩ | ⟨_, _, _, _, _, _, rfl⟩ := step_cases h <;> rfl

/-- The id of the task that a change is about. -/
def Change.about (ledger : Ledger) : Change → String
  | .record _ _ _ => taskId ledger.tasks.length
  | .setStatus id _ => id
  | .complete id _ => id

theorem task?_setStatus {id : String} {status : Status} {moved : Task}
    (h : ledger.setStatus id status = .ok (moved, next)) : next.task? id = some moved := by
  obtain ⟨task, found, _, _, rfl, rfl⟩ := Ledger.setStatus_eq_ok_iff.mp h
  exact Ledger.task?_change found rfl

theorem task?_complete {id : String} {artifacts : List String} {moved : Task}
    (h : ledger.complete id artifacts = .ok (moved, next)) : next.task? id = some moved := by
  obtain ⟨_, task, found, rfl, rfl⟩ := Ledger.complete_eq_ok_iff.mp h
  exact Ledger.task?_change found rfl

variable {done : Task → Workspace → Prop} {failed : PlanError → Workspace → Prop}

/-- A task is moved in the plan that is loaded, and the plan is saved. -/
theorem ensures_change_iff {step : Ledger → Except PlanError (Task × Ledger)} {id : String}
    (answers : ∀ ledger moved next, step ledger = .ok (moved, next) → next.task? id = some moved) :
    Ensures (change (m := InWorkspace) path step) w done failed ↔
      (∀ ledger, planIn w path = .ok ledger →
        (∀ next, (step ledger).map Prod.snd = .ok next →
          Ensures (save (m := InWorkspace) path next) w
            (fun _ after => ∀ answer, next.task? id = some answer → done answer after) failed) ∧
        ∀ e, (step ledger).map Prod.snd = .error e → failed e w) ∧
      ∀ e, planIn w path = .error e → failed e w := by
  simp only [change, ensures_bind, ensures_load, ensures_result, ensures_pure]
  refine and_congr_left fun _ => forall₂_congr fun ledger _ => ?_
  cases h : step ledger with
  | error e => simp [Except.map]
  | ok pair => simp [Except.map, answers ledger pair.1 pair.2 h]

/-- **A change is its step between reading and writing the plan.** -/
theorem ensures_program (change : Change) :
    Ensures (change.program path) w done failed ↔
      (∀ ledger, change.found w path = .ok ledger →
        (∀ next, change.apply ledger = .ok next →
          Ensures (save (m := InWorkspace) path next) w
            (fun _ after => ∀ answer, next.task? (change.about ledger) = some answer →
              done answer after) failed) ∧
        ∀ e, change.apply ledger = .error e → failed e w) ∧
      ∀ e, change.found w path = .error e → failed e w := by
  cases change with
  | record intent task now =>
    refine ensures_record_iff.trans (and_congr_left fun _ => forall₂_congr fun ledger _ => ?_)
    have applied : Change.apply (.record intent task now) ledger =
        .ok (ledger.recorded intent task) := rfl
    simp [applied, Change.about]
  | setStatus id status =>
    simp only [Change.apply_setStatus]
    exact ensures_change_iff fun _ _ _ => task?_setStatus
  | complete id artifacts =>
    simp only [Change.apply_complete]
    exact ensures_change_iff fun _ _ _ => task?_complete

/-- The task that a change is about is in the plan after its step. -/
theorem task?_apply {change : Change} (h : change.apply ledger = .ok next) :
    ∃ answer, next.task? (change.about ledger) = some answer := by
  cases change with
  | record intent task now =>
    obtain rfl : ledger.recorded intent task = next := Except.ok.inj h
    exact ⟨_, task?_recorded ledger intent task⟩
  | setStatus id status =>
    rw [Change.apply_setStatus] at h
    obtain ⟨⟨moved, _⟩, moves, rfl⟩ := map_eq_ok_iff.mp h
    exact ⟨moved, task?_setStatus moves⟩
  | complete id artifacts =>
    rw [Change.apply_complete] at h
    obtain ⟨⟨moved, _⟩, moves, rfl⟩ := map_eq_ok_iff.mp h
    exact ⟨moved, task?_complete moves⟩

/-- **A change succeeds just if its step succeeds and the plan after it can be written.** -/
theorem succeeds_program (change : Change) :
    Succeeds (change.program path) w ↔ ∃ next, change.outcome w path = .ok next ∧
      Succeeds (writeFile (m := InWorkspace) path next.bytes) w := by
  simp only [succeeds_iff, ensures_program, save, ensures_adapt, Change.outcome]
  cases change.found w path with
  | error e => simp [bind, Except.bind]
  | ok ledger =>
    cases applied : change.apply ledger with
    | error e => simp [applied, bind, Except.bind]
    | ok next =>
      obtain ⟨answer, found⟩ := task?_apply applied
      simp [applied, found, bind, Except.bind]

/-! ## 3. Changes as steps -/

/-- **A stored plan is changed like a plan in memory.** A change succeeds just if its step succeeds
on the plan that was found and the plan after it can be written. Then the file holds the plan after
the step, printed and with a line end, and no other file has changed; recording sets the intent, and
the time at which the plan was begun stays. An error comes from finding the plan, from its step or
from the write; up to the write nothing has changed at all, and after it the same file stands at the
path as before, or none. -/
theorem change_refines_step (change : Change) (path : String) (w : Workspace) :
    (Succeeds (change.program path) w ↔ ∃ next, change.outcome w path = .ok next ∧
      Succeeds (writeFile (m := InWorkspace) path next.bytes) w) ∧
    Ensures (change.program path) w
      (fun answer after => ∃ ledger next, change.found w path = .ok ledger ∧
        (change.withIntent ledger).step change.step = (.ok (), next) ∧
        next.intent = (change.withIntent ledger).intent ∧ next.createdAt = ledger.createdAt ∧
        next.task? answer.id = some answer ∧
        after.read path = .ok (next.text ++ "\n").toUTF8 ∧ w.Later (· = w.placeOf path) after)
      (fun e after =>
        ((change.outcome w path = .error e ∧ after = w) ∨
          ∃ fault : WriteFault, e = .io path fault.message) ∧
        w.Later nowhere after ∧ ∀ content,
          after.tree.look (w.placeOf path) = some (.file content) ↔
            w.tree.look (w.placeOf path) = some (.file content)) := by
  refine ⟨succeeds_program change, ensures_program change |>.mpr ⟨fun ledger found => ⟨?_, ?_⟩, ?_⟩⟩
  · intro next applied
    simp only [save, ensures_adapt]
    refine ((ensures_writeFile path next.bytes w).and
      (ensures_writeFile_vacant path next.bytes w)).imp ?_ ?_
    · rintro _ after ⟨⟨later, reads⟩, _⟩ answer there
      have stepped := Change.apply_eq_ok_iff.mp applied
      refine ⟨ledger, next, found, stepped, intent_step stepped, ?_, ?_, reads, later⟩
      · exact (createdAt_step stepped).trans (by cases change <;> rfl)
      · have named : answer.id = change.about ledger := by
          simpa using List.find?_some there
        rw [named]
        exact there
    · rintro fault after ⟨later, vacant⟩
      exact ⟨.inr ⟨fault, rfl⟩, later, vacant.look_iff later.tree⟩
  · intro e stuck
    have outcome : change.outcome w path = .error e := by
      rw [Change.outcome, found]
      exact stuck
    exact ⟨.inl ⟨outcome, rfl⟩, .refl nowhere w, fun _ => Iff.rfl⟩
  · intro e missing
    have outcome : change.outcome w path = .error e := by
      rw [Change.outcome, missing]
      rfl
    exact ⟨.inl ⟨outcome, rfl⟩, .refl nowhere w, fun _ => Iff.rfl⟩

/-! ## 4. Loading again -/

/-- The plan at a path is loaded as this one. -/
def Loads (w : Workspace) (path : String) (ledger : Ledger) : Prop :=
  Ensures (load (m := InWorkspace) path) w (fun found after => found = ledger ∧ after = w)
    fun _ _ => False

/-- A written plan is loaded if it is small enough, and refused for its size if not. -/
def LoadsUpToLimit (w : Workspace) (path : String) (ledger : Ledger) : Prop :=
  (Loads w path ledger ↔ ledger.bytes.size ≤ maxBytes) ∧
    (maxBytes < ledger.bytes.size →
      Ensures (load (m := InWorkspace) path) w (fun _ _ => False)
        fun e after => e = .tooLarge path ∧ after = w)

theorem loadsUpToLimit_of_read (h : w.read path = .ok ledger.bytes) :
    LoadsUpToLimit w path ledger := by
  simp only [LoadsUpToLimit, Loads, ensures_load, planIn_of_read h]
  by_cases large : maxBytes < ledger.bytes.size
  · simp [large, Nat.not_le.mpr large]
  · simp [large, Nat.not_lt.mp large]

/-- **What was saved is loaded again just if it is not too large.** Whichever plan was saved, and
whichever change has succeeded: the plan is loaded field for field if the written file is not larger
than a stored plan may be, and refused otherwise. -/
theorem saved_loads_iff (path : String) (w : Workspace) :
    (∀ ledger, Ensures (save (m := InWorkspace) path ledger) w
      (fun _ after => LoadsUpToLimit after path ledger) fun _ _ => True) ∧
    ∀ change : Change, Ensures (change.program path) w
      (fun _ after => ∃ next, change.outcome w path = .ok next ∧ LoadsUpToLimit after path next)
      fun _ _ => True := by
  constructor
  · intro ledger
    exact (ensures_save path ledger w).imp (fun _ after saved => loadsUpToLimit_of_read saved.2)
      fun _ _ _ => trivial
  · intro change
    refine (change_refines_step change path w).2.imp (fun answer after changed => ?_)
      fun _ _ _ => trivial
    obtain ⟨ledger, next, found, applied, _, _, _, reads, _⟩ := changed
    refine ⟨next, ?_, loadsUpToLimit_of_read reads⟩
    rw [Change.outcome, found]
    exact Change.apply_eq_ok_iff.mpr applied

theorem length_le_flatMap {α β : Type} {f : α → List β} (filled : ∀ a, f a ≠ [])
    (items : List α) : items.length ≤ (items.flatMap f).length := by
  induction items with
  | nil => exact Nat.le_refl 0
  | cons first rest ih =>
    have some : 0 < (f first).length := List.length_pos_iff.mpr (filled first)
    rw [List.flatMap_cons, List.length_append, List.length_cons]
    omega

theorem escape_ne_nil (c : Char) : escape c ≠ [] := by
  unfold escape
  split_ifs <;> exact List.cons_ne_nil _ _

/-- A written plan has no fewer bytes than its intent has characters. -/
theorem length_intent_le (ledger : Ledger) : ledger.intent.length ≤ ledger.bytes.size := by
  have bytes : ledger.bytes.size =
      ((ledger.text ++ "\n").toList.flatMap String.utf8EncodeChar).length := by
    rw [Ledger.bytes, ← List.size_toByteArray]
    simp [← String.utf8Encode_toList, List.utf8Encode]
  have text : (ledger.text ++ "\n").toList.length ≤ ledger.bytes.size := by
    rw [bytes]
    exact length_le_flatMap (fun _ => String.utf8EncodeChar_ne_nil) _
  have intent := length_le_flatMap escape_ne_nil ledger.intent.toList
  simp only [Ledger.text, Ledger.value, Value.pretty, Value.prettyAt, prettyMembers, quote,
    String.toList_append, String.toList_ofList, List.length_append, List.length_cons,
    String.length_toList] at text intent
  omega

/-- A plan whose intent alone is longer than a stored plan may be. -/
def longPlan : Ledger := ⟨String.ofList (List.replicate (maxBytes + 1) 'a'), "", []⟩

/-- A plan that is too long is saved without an error, and cannot be loaded again. -/
theorem longPlan_is_lost :
    ∃ after, (save (m := InWorkspace) "plan.json" longPlan).run.run Workspace.empty =
      (.ok (), after) ∧ ¬Loads after "plan.json" longPlan := by
  have large : maxBytes < longPlan.bytes.size := by
    have size := length_intent_le longPlan
    rw [longPlan, String.length_ofList, List.length_replicate] at size
    exact size
  -- whether a file can be written does not depend on its content
  have saves : ∀ ledger : Ledger,
      ((save (m := InWorkspace) "plan.json" ledger).run.run Workspace.empty).1 = .ok () :=
    fun _ => rfl
  refine ⟨_, Prod.ext (saves longPlan) rfl, fun loads => ?_⟩
  have saved := (ensures_save "plan.json" longPlan Workspace.empty).success _ _
    (Prod.ext (saves longPlan) rfl)
  exact Nat.not_le.mpr large ((loadsUpToLimit_of_read saved.2).1.mp loads)

end Covenant.Plan
