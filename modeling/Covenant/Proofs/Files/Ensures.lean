import Covenant.Files.Workspace
import Covenant.Proofs.Result
/-!
# What a program ensures in a workspace

`Ensures program w done failed`: run in the workspace `w`, the program ends, and it ends as `done`
says if it succeeds and as `failed` says if it does not.

* For each way of putting programs together there is one equivalence, so that what a program
  ensures is found by going through its text.
* `Ensures.imp` weakens what is ensured, and `Ensures.and` puts together what was ensured apart.
* `Succeeds program w`: run in `w`, the program ends without an error. It is said by `Ensures`, so
  that the same equivalences tell when a program succeeds.
-/

namespace Covenant.Files

variable {ε ε' α β : Type} {w : Workspace} {done : α → Workspace → Prop}
  {failed : ε → Workspace → Prop}

/-! ## 1. How programs end -/

/-- **How a program ends that runs in a workspace**: with a value and a workspace of which `done`
holds, or with an error and a workspace of which `failed` holds. -/
structure Ensures (program : ExceptT ε InWorkspace α) (w : Workspace)
    (done : α → Workspace → Prop) (failed : ε → Workspace → Prop) : Prop where
  success : ∀ a after, program.run.run w = (.ok a, after) → done a after
  failure : ∀ e after, program.run.run w = (.error e, after) → failed e after

/-- The end that a program has. -/
theorem ensures_iff {program : ExceptT ε InWorkspace α} :
    Ensures program w done failed ↔
      match program.run.run w with
      | (.ok a, after) => done a after
      | (.error e, after) => failed e after := by
  constructor
  · rintro ⟨success, failure⟩
    rcases h : program.run.run w with ⟨e | a, after⟩
    · exact failure e after h
    · exact success a after h
  · intro h
    refine ⟨fun a after run => ?_, fun e after run => ?_⟩
    · rw [run] at h
      exact h
    · rw [run] at h
      exact h

theorem Ensures.imp {program : ExceptT ε InWorkspace α} {done' : α → Workspace → Prop}
    {failed' : ε → Workspace → Prop} (h : Ensures program w done failed)
    (success : ∀ a after, done a after → done' a after)
    (failure : ∀ e after, failed e after → failed' e after) : Ensures program w done' failed' :=
  ⟨fun a after run => success a after (h.success a after run),
    fun e after run => failure e after (h.failure e after run)⟩

theorem Ensures.and {program : ExceptT ε InWorkspace α} {done' : α → Workspace → Prop}
    {failed' : ε → Workspace → Prop} (h : Ensures program w done failed)
    (g : Ensures program w done' failed') :
    Ensures program w (fun a after => done a after ∧ done' a after)
      (fun e after => failed e after ∧ failed' e after) :=
  ⟨fun a after run => ⟨h.success a after run, g.success a after run⟩,
    fun e after run => ⟨h.failure e after run, g.failure e after run⟩⟩

/-- The program ends without an error. -/
def Succeeds (program : ExceptT ε InWorkspace α) (w : Workspace) : Prop :=
  ∃ a after, program.run.run w = (.ok a, after)

theorem succeeds_iff {program : ExceptT ε InWorkspace α} :
    Succeeds program w ↔ ¬Ensures program w (fun _ _ => False) fun _ _ => True := by
  rw [ensures_iff, Succeeds]
  rcases program.run.run w with ⟨e | a, after⟩
  · refine ⟨?_, fun fails => absurd trivial fails⟩
    rintro ⟨_, _, run⟩
    cases run
  · exact ⟨fun _ fails => fails, fun _ => ⟨a, after, rfl⟩⟩

/-! ## 2. Putting programs together -/

@[simp] theorem ensures_pure (a : α) : Ensures (pure a) w done failed ↔ done a w := ensures_iff

@[simp] theorem ensures_throw (e : ε) : Ensures (throw e) w done failed ↔ failed e w := ensures_iff

/-- **One program after another.** -/
@[simp] theorem ensures_bind {program : ExceptT ε InWorkspace β}
    {next : β → ExceptT ε InWorkspace α} :
    Ensures (program >>= next) w done failed ↔
      Ensures program w (fun b after => Ensures (next b) after done failed) failed := by
  rw [ensures_iff, ensures_iff, ExceptT.run_bind, StateT.run_bind]
  rcases program.run.run w with ⟨e | b, after⟩
  · exact Iff.rfl
  · exact ensures_iff.symm

/-- A program whose value is not needed. -/
@[simp] theorem ensures_discard {program : ExceptT ε InWorkspace β}
    {done : Unit → Workspace → Prop} :
    Ensures (discard program) w done failed ↔ Ensures program w (fun _ => done ()) failed := by
  rw [Functor.discard, map_const, Function.comp_apply, ensures_iff, ensures_iff, ExceptT.run_map,
    StateT.run_map]
  rcases program.run.run w with ⟨_ | b, after⟩ <;> exact Iff.rfl

/-- A program whose error is put into other words. -/
@[simp] theorem ensures_adapt {program : ExceptT ε' InWorkspace α} {f : ε' → ε} :
    Ensures (program.adapt f) w done failed ↔
      Ensures program w done fun e after => failed (f e) after := by
  rw [ensures_iff, ensures_iff, ExceptT.run_adapt, StateT.run_map]
  rcases program.run.run w with ⟨_ | b, after⟩ <;> exact Iff.rfl

/-- A program whose error is handled. -/
@[simp] theorem ensures_tryCatch {program : ExceptT ε InWorkspace α}
    {handle : ε → ExceptT ε InWorkspace α} :
    Ensures (tryCatch program handle) w done failed ↔
      Ensures program w done fun e after => Ensures (handle e) after done failed := by
  rw [ensures_iff, ensures_iff, ExceptT.run_tryCatch, StateT.run_bind]
  rcases program.run.run w with ⟨e | a, after⟩
  · exact ensures_iff.symm
  · exact Iff.rfl

/-- A program whose error is looked at. -/
@[simp] theorem ensures_run {program : ExceptT ε' InWorkspace β}
    {done : Except ε' β → Workspace → Prop} :
    Ensures (ε := ε) (liftM (n := ExceptT ε InWorkspace) program.run) w done failed ↔
      Ensures program w (fun b => done (.ok b)) (fun e => done (.error e)) := by
  rw [ensures_iff, ensures_iff, ExceptT.run_liftM, StateT.run_map]
  rcases program.run.run w with ⟨_ | b, after⟩ <;> exact Iff.rfl

/-- A result that is there already. -/
@[simp] theorem ensures_result {result : Except ε α} :
    Ensures (liftM (n := ExceptT ε InWorkspace) result) w done failed ↔
      (∀ a, result = .ok a → done a w) ∧ (∀ e, result = .error e → failed e w) := by
  have run : (liftM (n := ExceptT ε InWorkspace) result).run.run w = (result, w) := by
    cases result <;> rfl
  rw [ensures_iff, run]
  cases result <;> simp

/-! ## 3. Looking and acting -/

@[simp] theorem ensures_look {f : Workspace → Except FileFault α}
    {failed : FileFault → Workspace → Prop} :
    Ensures (InWorkspace.look f) w done failed ↔
      (∀ a, f w = .ok a → done a w) ∧ (∀ e, f w = .error e → failed e w) := by
  have run : (InWorkspace.look f).run.run w = (f w, w) := rfl
  rw [ensures_iff, run]
  cases f w <;> simp

@[simp] theorem ensures_act {f : Workspace → Except FileFault Workspace}
    {done : Unit → Workspace → Prop} {failed : FileFault → Workspace → Prop} :
    Ensures (InWorkspace.act f) w done failed ↔
      (∀ after, f w = .ok after → done () after) ∧ (∀ e, f w = .error e → failed e w) := by
  rw [ensures_iff]
  unfold InWorkspace.act
  cases h : f w <;> simp [StateT.run, h]

section Host

variable {failed : FileFault → Workspace → Prop} {path : String}

@[simp] theorem ensures_read {done : ByteArray → Workspace → Prop} :
    Ensures (Host.read (m := InWorkspace) path) w done failed ↔
      (∀ content, w.read path = .ok content → done content w) ∧
        (∀ e, w.read path = .error e → failed e w) := ensures_look

@[simp] theorem ensures_create {done : Unit → Workspace → Prop} :
    Ensures (Host.create (m := InWorkspace) path) w done failed ↔
      (∀ after, w.create path = .ok after → done () after) ∧
        (∀ e, w.create path = .error e → failed e w) := ensures_act

@[simp] theorem ensures_rename {target : String} {done : Unit → Workspace → Prop} :
    Ensures (Host.rename (m := InWorkspace) path target) w done failed ↔
      (∀ after, w.rename path target = .ok after → done () after) ∧
        (∀ e, w.rename path target = .error e → failed e w) := ensures_act

@[simp] theorem ensures_remove {done : Unit → Workspace → Prop} :
    Ensures (Host.remove (m := InWorkspace) path) w done failed ↔
      (∀ after, w.remove path = .ok after → done () after) ∧
        (∀ e, w.remove path = .error e → failed e w) := ensures_act

@[simp] theorem ensures_say {text : String} {done : Unit → Workspace → Prop} :
    Ensures (Host.say (m := InWorkspace) text) w done failed ↔
      done () { w with output := w.output ++ text } := ensures_iff

/-- A program that has changed the workspace also where it fails. -/
theorem ensures_mk {f : Workspace → Except FileFault Unit × Workspace}
    {done : Unit → Workspace → Prop} :
    Ensures (.mk f) w done failed ↔
      (∀ after, f w = (.ok (), after) → done () after) ∧
        (∀ e after, f w = (.error e, after) → failed e after) :=
  ⟨fun h => ⟨fun after => h.success () after, h.failure⟩,
    fun h => ⟨fun _ after => h.1 after, h.2⟩⟩

@[simp] theorem ensures_makeFolders {done : Unit → Workspace → Prop} :
    Ensures (Host.makeFolders (m := InWorkspace) path) w done failed ↔
      (∀ after, w.makeFolders path = (.ok (), after) → done () after) ∧
        (∀ e after, w.makeFolders path = (.error e, after) → failed e after) := ensures_mk

@[simp] theorem ensures_fill {content : ByteArray} {done : Unit → Workspace → Prop} :
    Ensures (Host.fill (m := InWorkspace) path content) w done failed ↔
      (∀ after, w.fill path content = (.ok (), after) → done () after) ∧
        (∀ e after, w.fill path content = (.error e, after) → failed e after) := ensures_mk

@[simp] theorem ensures_isThere {done : Bool → Workspace → Prop} {failed : ε → Workspace → Prop} :
    Ensures (liftM (n := ExceptT ε InWorkspace) (Host.isThere (m := InWorkspace) path)) w done
      failed ↔ done (w.isThere path) w := ensures_iff

/-- A mark may be anything without a slash; only the number of marks changes. -/
theorem ensures_plain_mark {done : String → Workspace → Prop} {failed : ε → Workspace → Prop}
    (h : ∀ mark : String, '/' ∉ mark.toList → done mark { w with marks := w.marks + 1 }) :
    Ensures (liftM (n := ExceptT ε InWorkspace) (Host.mark (m := InWorkspace))) w done failed := by
  refine ensures_iff.mpr (h _ ?_)
  intro slash
  have digit : '/' ∈ Nat.toDigits 10 w.marks := by
    simpa [Nat.toString_eq_repr] using slash
  exact absurd (Nat.isDigit_of_mem_toDigits (by decide) (by decide) digit) (by decide)

/-- A text is read just if the file holds its bytes. -/
theorem ensures_readText (path : String) (w : Workspace) :
    Ensures (readText (m := InWorkspace) path) w
      (fun text after => after = w ∧ w.read path = .ok text.toUTF8)
      (fun _ after => after = w ∧ ∀ text : String, w.read path ≠ .ok text.toUTF8) := by
  simp only [readText, ensures_bind, ensures_read]
  refine ⟨fun content reads => ?_, fun e stuck => ?_⟩
  · cases decoded : String.fromUTF8? content with
    | some text =>
      obtain rfl := fromUTF8?_eq_some_iff.mp decoded
      simpa using reads
    | none =>
      refine (ensures_throw _).mpr ⟨rfl, fun text same => ?_⟩
      obtain rfl : content = text.toUTF8 := Except.ok.inj (reads.symm.trans same)
      cases decoded.symm.trans (fromUTF8?_eq_some_iff.mpr rfl)
  · simp [stuck]

end Host

end Covenant.Files
