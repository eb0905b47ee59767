import Covenant.Plan.Store
import Covenant.Proofs.Json.Pretty
import Covenant.Proofs.Result
/-!
# Written plans are read back

* `ofText_text` and `ofBytes_bytes`: the plan read from a written plan is the plan that was written,
  field for field; bytes are read only up to the limit of a stored plan.
-/

namespace Covenant.Plan

open Covenant.Json Covenant.Record

/-! ## 1. What is written -/

/-- The tree of a written list of texts. -/
def textsRaw (texts : List String) : Raw := .items (texts.map fun s => .text (some s))

/-- The tree of an object with these members. -/
def objectRaw (members : List (String × Raw)) : Raw :=
  .members (members.map fun member => (some member.1, member.2))

/-- The members of a written task. -/
def Task.members (task : Task) : List (String × Raw) := [
  ("id", .text (some task.id)),
  ("title", .text (some task.title)),
  ("description", .text (some task.description)),
  ("status", .text (some task.status.text)),
  ("operations", textsRaw task.operations)]
  ++ if task.artifacts.isEmpty then [] else [("artifacts", textsRaw task.artifacts)]

/-- The tree of a written task. -/
def Task.raw (task : Task) : Raw := objectRaw task.members

/-- The members of a written plan. -/
def Ledger.members (ledger : Ledger) : List (String × Raw) := [
  ("intent", .text (some ledger.intent)),
  ("createdAt", .text (some ledger.createdAt)),
  ("tasks", .items (ledger.tasks.map Task.raw))]

/-- The tree of a written plan. -/
def Ledger.raw (ledger : Ledger) : Raw := objectRaw ledger.members

/-- A list written item by item prints if its items do. -/
theorem prints_map {items : List α} {f : α → Value} {g : α → Raw}
    (h : ∀ item ∈ items, Prints (f item) (g item)) :
    Prints (.items (items.map f)) (.items (items.map g)) := by
  refine prints_items ?_
  rw [List.forall₂_map_left_iff, List.forall₂_map_right_iff, List.forall₂_same]
  exact h

theorem prints_texts (texts : List String) : Prints (.ofTexts texts) (textsRaw texts) :=
  prints_map fun s _ => prints_text s

theorem prints_object {values : List (String × Value)} {members : List (String × Raw)}
    (h : List.Forall₂ (fun value member => member.1 = value.1 ∧ Prints value.2 member.2) values
      members) : Prints (.members values) (objectRaw members) := by
  refine prints_members ?_
  rw [List.forall₂_map_right_iff]
  exact h.imp fun _ _ pair => ⟨congrArg some pair.1, pair.2⟩

theorem Task.prints (task : Task) : Prints task.value task.raw := by
  refine prints_object (List.rel_append ?_ ?_)
  · exact .cons ⟨rfl, prints_text _⟩ <| .cons ⟨rfl, prints_text _⟩ <|
      .cons ⟨rfl, prints_text _⟩ <| .cons ⟨rfl, prints_text _⟩ <|
      .cons ⟨rfl, prints_texts _⟩ .nil
  · split
    · exact .nil
    · exact .cons ⟨rfl, prints_texts _⟩ .nil

theorem Ledger.prints (ledger : Ledger) : Prints ledger.value ledger.raw :=
  prints_object <| .cons ⟨rfl, prints_text _⟩ <| .cons ⟨rfl, prints_text _⟩ <|
    .cons ⟨rfl, prints_map fun task _ => task.prints⟩ .nil

/-! ## 2. What is read -/

theorem Status.ofText?_text (status : Status) : Status.ofText? status.text = some status := by
  cases status <;> decide

theorem readTexts_textsRaw (depth : Nat) (texts : List String) :
    readTexts ⟨depth + 1, textsRaw texts⟩ = .ok texts := by
  have list : Part.list ⟨depth + 1, textsRaw texts⟩ =
      .ok (texts.map fun s => ⟨depth, .text (some s)⟩) := by
    simp [Part.list, Part.inside, textsRaw, bind, Except.bind, pure, Except.pure]
  have read : (texts.map fun s => (⟨depth, .text (some s)⟩ : Part)).mapM Part.text =
      .ok (texts.map id) := mapM_map_eq_ok fun s _ => rfl
  simpa [readTexts, list, bind, Except.bind] using read

theorem readStatus_text (depth : Nat) (status : Status) :
    readStatus ⟨depth, .text (some status.text)⟩ = .ok status := by
  simp [readStatus, Part.choice, Part.text, bind, Except.bind, pure, Except.pure,
    Status.ofText?_text]

/-- The fields of an object with known names, none of which comes twice. -/
theorem fields_objectRaw {names : List String} {members : List (String × Raw)}
    (hk : ∀ member ∈ members, member.1 ∈ names) (hn : (members.map Prod.fst).Nodup) (depth : Nat) :
    Part.fields names ⟨depth + 1, objectRaw members⟩ =
      .ok (members.map fun member => (member.1, ⟨depth, member.2⟩)) := by
  let found : Fields Part := members.map fun member => (member.1, ⟨depth, member.2⟩)
  have entries : Part.entries ⟨depth + 1, objectRaw members⟩ = .ok found := by
    simp only [Part.entries, objectRaw, Part.inside, bind, Except.bind]
    exact mapM_map_eq_ok fun _ _ => rfl
  have all_known : found.filter (names.contains ·.1) = found := by
    refine List.filter_eq_self.mpr fun field hf => ?_
    obtain ⟨member, hm, rfl⟩ := List.mem_map.mp hf
    simpa using hk member hm
  have once : names.find? (fun name => 1 < (found.filter (·.1 == name)).length) = none := by
    refine List.find?_eq_none.mpr fun name _ => ?_
    have count : (found.filter (·.1 == name)).length = (members.map Prod.fst).count name := by
      simp [found, List.count, List.countP_eq_length_filter, List.filter_map, Function.comp_def]
    have := List.nodup_iff_count.mp hn name
    simp only [decide_eq_true_eq]
    omega
  calc Part.fields names ⟨depth + 1, objectRaw members⟩
      = Part.entries ⟨depth + 1, objectRaw members⟩ >>= known names := rfl
    _ = known names found := by rw [entries]; rfl
    _ = .ok found := by simp only [known, all_known, once]

theorem readTask_raw (depth : Nat) (task : Task) : readTask ⟨depth + 2, task.raw⟩ = .ok task := by
  have known_names : ∀ member ∈ task.members, member.1 ∈ taskFields := by
    cases h : task.artifacts <;> simp [Task.members, taskFields, h]
  have once : (task.members.map Prod.fst).Nodup := by
    cases h : task.artifacts <;> simp [Task.members, h]
  rw [readTask, Task.raw, fields_objectRaw known_names once (depth + 1)]
  obtain ⟨id, title, description, status, operations, artifacts⟩ := task
  cases artifacts <;>
    simp [Task.members, required, withDefault, Text.TextMap.lookup_cons_eq_ite, Part.text,
      readStatus_text, readTexts_textsRaw, bind, Except.bind, pure, Except.pure]

theorem readLedger_raw (depth : Nat) (ledger : Ledger) :
    readLedger ⟨depth + 4, ledger.raw⟩ = .ok ledger := by
  have known_names : ∀ member ∈ ledger.members, member.1 ∈ ledgerFields := by
    simp [Ledger.members, ledgerFields]
  have once : (ledger.members.map Prod.fst).Nodup := by simp [Ledger.members]
  have tasks : Part.list ⟨depth + 3, .items (ledger.tasks.map Task.raw)⟩ =
      .ok (ledger.tasks.map fun task => ⟨depth + 2, task.raw⟩) := by
    simp [Part.list, Part.inside, bind, Except.bind, pure, Except.pure]
  have read : (ledger.tasks.map fun task => (⟨depth + 2, task.raw⟩ : Part)).mapM readTask =
      .ok (ledger.tasks.map id) := mapM_map_eq_ok fun task _ => readTask_raw depth task
  rw [readLedger, Ledger.raw, fields_objectRaw known_names once (depth + 3)]
  obtain ⟨intent, createdAt, tasks⟩ := ledger
  simp_all [Ledger.members, required, Text.TextMap.lookup_cons_eq_ite, Part.text, bind,
    Except.bind, pure, Except.pure]

/-! ## 3. Whole plans -/

theorem readLedger_whole (ledger : Ledger) : readLedger (.whole ledger.raw) = .ok ledger :=
  readLedger_raw 123 ledger

/-- **The plan read from a written plan is the one that was written.** -/
theorem ofText_text (ledger : Ledger) :
    Ledger.ofText (ledger.text ++ "\n").toList = .ok ledger := by
  rw [Ledger.ofText, Ledger.text, read?_pretty ledger.prints]
  exact readLedger_whole ledger

theorem readBytes?_bytes (ledger : Ledger) : readBytes? ledger.bytes = some ledger.raw := by
  rw [readBytes?, Ledger.bytes, fromUTF8?_eq_some_iff.mpr rfl]
  exact read?_pretty ledger.prints

/-- **The plan read from the bytes of a plan is this plan, unless they are too many.** -/
theorem ofBytes_bytes (path : String) (ledger : Ledger) :
    Ledger.ofBytes path ledger.bytes =
      if maxBytes < ledger.bytes.size then .error (.tooLarge path) else .ok ledger := by
  simp only [Ledger.ofBytes, readBytes?_bytes, readLedger_whole, Except.mapError]

end Covenant.Plan
