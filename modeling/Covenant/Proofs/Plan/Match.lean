import Covenant.Plan.Match
import Covenant.Proofs.Text.Lines
import Covenant.Proofs.Text.Split
/-!
# What an intent selects

An intent is matched with one operation at a time, and of its words it only counts which there are.

* `picks intent operation`: the intent yields a task where this is the only operation. Planning picks
  the same operations among others (`isTask_plan`, `operations_plan`).
* `selects_mono`: more words select no less, unless they are the first to name an action.
* `selects_congr`: the same words select the same, in any order and however often they come.
* `matching_local_monotone` says this of intents and of the tasks that planning makes of them.
-/

namespace Covenant.Plan

open Covenant.Contract Covenant.Text

variable {words more : List String} {operation : Operation}

/-! ## 1. One operation at a time -/

/-- An intent yielded a task. -/
def Outcome.isTask : Outcome → Bool
  | .task _ => true
  | .noMatch .. => false

/-- The ids of the operations of the task, if there is one. -/
def Outcome.operations : Outcome → List String
  | .task made => made.operations
  | .noMatch .. => []

/-- An intent yields a task of this operation alone. -/
def picks (intent : String) (operation : Operation) : Bool := (plan intent [operation]).isTask

/-- What came before or is there twice is dropped. -/
theorem distinctAfter_eq (seen texts : List String) :
    distinctAfter seen texts = (texts.filter fun text => !seen.contains text).eraseDups := by
  induction texts generalizing seen with
  | nil => rfl
  | cons text rest ih =>
    rw [distinctAfter, List.filter_cons]
    cases there : seen.contains text with
    | true => exact ih seen
    | false =>
      have later := ih (text :: seen)
      simp only [List.contains_cons, Bool.not_or] at later
      simp only [Bool.not_false, Bool.false_eq_true, if_true, if_false, List.eraseDups_cons,
        List.filter_filter, later]

theorem selectedIds_eq (intent : String) (operations : List Operation) :
    selectedIds intent operations =
      ((operations.filter (selects (tokens intent))).map (·.id)).eraseDups := by
  rw [selectedIds, distinctAfter_eq]
  simp

theorem operations_plan_eq_selectedIds (intent : String) (operations : List Operation) :
    (plan intent operations).operations = selectedIds intent operations := by
  rw [plan]
  split
  · rename_i none
    rw [none, Outcome.operations]
  · rfl

theorem isTask_plan_eq_any (intent : String) (operations : List Operation) :
    (plan intent operations).isTask = operations.any (selects (tokens intent)) := by
  have some_id : (plan intent operations).isTask = true ↔ selectedIds intent operations ≠ [] := by
    rw [plan]
    split <;> simp_all [Outcome.isTask]
  rw [Bool.eq_iff_iff, some_id, selectedIds_eq, List.any_eq_true]
  simp [List.eq_nil_iff_forall_not_mem, List.mem_eraseDups]

theorem picks_eq_selects (intent : String) : picks intent = selects (tokens intent) := by
  funext operation
  rw [picks, isTask_plan_eq_any, List.any_cons, List.any_nil, Bool.or_false]

/-- **There is a task if there is one for some operation alone.** -/
theorem isTask_plan (intent : String) (operations : List Operation) :
    (plan intent operations).isTask = operations.any (picks intent) := by
  rw [isTask_plan_eq_any, picks_eq_selects]

/-- **A task is of the operations that are picked alone**, each id at its first place. -/
theorem operations_plan (intent : String) (operations : List Operation) :
    (plan intent operations).operations =
      ((operations.filter (picks intent)).map (·.id)).eraseDups := by
  rw [operations_plan_eq_selectedIds, selectedIds_eq, picks_eq_selects]

/-! ## 2. Words -/

/-- The word names an action. -/
def IsActionWord (word : String) : Prop := ∃ action : Action, word ∈ action.words

/-- Further words are not the first to name an action: one of the words does already, or none of the
further ones does. -/
def KeepsActions (words more : List String) : Prop :=
  (∃ word ∈ words, IsActionWord word) ∨ ∀ word ∈ more, word ∉ words → ¬IsActionWord word

/-- The word is enough by itself: it has at least four characters and occurs in the id. -/
def IsEnough (word : String) (operation : Operation) : Prop :=
  4 ≤ word.toList.length ∧ word.toList <:+: (lowerString operation.id).toList

theorem mem_actionsIn {action : Action} :
    action ∈ actionsIn words ↔ ∃ word ∈ words, word ∈ action.words := by
  have listed : action ∈ Action.all := by cases action <;> decide
  simp [actionsIn, listed]

theorem selectsAlone_iff {word : String} :
    selectsAlone operation word = true ↔ IsEnough word operation := by
  rw [selectsAlone, Bool.and_eq_true, decide_eq_true_iff, containsString, contains_iff, IsEnough]

theorem selects_iff :
    selects words operation = true ↔
      (∃ word ∈ words, speaksOf operation word = true) ∧ performs operation (actionsIn words) = true ∨
        ∃ word ∈ words, IsEnough word operation := by
  simp only [selects, Bool.or_eq_true, Bool.and_eq_true, List.any_eq_true, selectsAlone_iff]

theorem performs_iff {actions : List Action} :
    performs operation actions = true ↔
      (∀ action, action ∉ actions) ∨ ∃ action ∈ actions, action.accepts operation = true := by
  rw [performs, Bool.or_eq_true, List.isEmpty_iff, List.eq_nil_iff_forall_not_mem, List.any_eq_true]

/-- What performs one of the actions that words name still does with more words, unless these are the
first to name any. -/
theorem performs_mono (sub : words ⊆ more) (keeps : KeepsActions words more)
    (h : performs operation (actionsIn words) = true) :
    performs operation (actionsIn more) = true := by
  rw [performs_iff] at h ⊢
  rcases h with unnamed | ⟨action, named, accepts⟩
  · refine .inl fun action named => ?_
    obtain ⟨word, there, names⟩ := mem_actionsIn.mp named
    rcases keeps with ⟨other, before, ⟨otherAction, others⟩⟩ | added
    · exact unnamed otherAction (mem_actionsIn.mpr ⟨other, before, others⟩)
    · by_cases before : word ∈ words
      · exact unnamed action (mem_actionsIn.mpr ⟨word, before, names⟩)
      · exact added word there before ⟨action, names⟩
  · obtain ⟨word, before, names⟩ := mem_actionsIn.mp named
    exact .inr ⟨action, mem_actionsIn.mpr ⟨word, sub before, names⟩, accepts⟩

/-- **More words select no less**, unless they are the first to name an action. -/
theorem selects_mono (sub : words ⊆ more) (keeps : KeepsActions words more)
    (h : selects words operation = true) : selects more operation = true := by
  rw [selects_iff] at h ⊢
  rcases h with ⟨⟨word, there, speaks⟩, performed⟩ | ⟨word, there, enough⟩
  · exact .inl ⟨⟨word, sub there, speaks⟩, performs_mono sub keeps performed⟩
  · exact .inr ⟨word, sub there, enough⟩

/-- The first word to name an action can leave out an operation. -/
example :
    let removal := { (default : Operation) with id := "removePet", verb := .delete }
    selects ["pet"] removal = true ∧ selects ["pet", "list"] removal = false := by decide +kernel

/-- **The same words select the same**, whatever their order. -/
theorem selects_congr (same : ∀ word, word ∈ more ↔ word ∈ words) : selects more = selects words := by
  have back : ∀ {first second : List String}, (∀ word, word ∈ first ↔ word ∈ second) →
      ∀ operation, selects first operation = true → selects second operation = true :=
    fun same _ => selects_mono (fun word => (same word).mp)
      (.inr fun word there absent => absurd ((same word).mpr there) absent)
  funext operation
  rw [Bool.eq_iff_iff]
  exact ⟨back same operation, back (fun word => (same word).symm) operation⟩

/-- Words that are written behind an intent are added to its words. -/
theorem tokens_append (intent added : String) :
    tokens (intent ++ " " ++ added) = tokens intent ++ tokens added := by
  have blank : (intent ++ " " ++ added).toList = intent.toList ++ ' ' :: added.toList := by simp
  rw [tokens, blank, fields, splitWhere_append (by decide), List.filter_append, List.map_append]
  rfl

/-! ## 3. Intents -/

variable {intent other longer : String}

/-- Intents with the same words pick the same operations. -/
theorem picks_congr (same : ∀ word, word ∈ tokens other ↔ word ∈ tokens intent) :
    picks other = picks intent := by
  rw [picks_eq_selects, picks_eq_selects, selects_congr same]

/-- A word that is enough by itself picks the operation, whatever else is said. -/
theorem picks_of_isEnough {word : String} (there : word ∈ tokens intent)
    (enough : IsEnough word operation) : picks intent operation = true := by
  rw [picks_eq_selects, selects_iff]
  exact .inr ⟨word, there, enough⟩

/-- An intent with more words picks no less, unless these are the first to name an action. -/
theorem picks_mono (sub : tokens intent ⊆ tokens longer)
    (keeps : KeepsActions (tokens intent) (tokens longer)) (operation : Operation)
    (picked : picks intent operation = true) : picks longer operation = true := by
  rw [picks_eq_selects] at picked ⊢
  exact selects_mono sub keeps picked

/-- An intent that picks no less makes a task of no less. -/
theorem operations_plan_subset
    (kept : ∀ operation, picks intent operation = true → picks longer operation = true)
    (operations : List Operation) :
    (plan intent operations).operations ⊆ (plan longer operations).operations := by
  intro id selected
  rw [operations_plan, List.mem_eraseDups] at selected ⊢
  exact List.map_subset _ (List.monotone_filter_right operations kept).subset selected

/-- **Matching is local, free of order and monotone.**

* There is a task if and only if some operation alone makes one, and its ids are those of these
  operations, in their order and each at its first place.
* Intents with the same words yield the same selection, whatever the order of the words and however
  often they come.
* An operation with a word that is enough by itself is selected, also with more words.
* An operation that is selected is also selected with more words, if these are not the first to name an
  action. -/
theorem matching_local_monotone (intent : String) (operations : List Operation) :
    ((plan intent operations).isTask = true ↔
        ∃ operation ∈ operations, (plan intent [operation]).isTask = true) ∧
      (plan intent operations).operations =
        ((operations.filter fun operation => (plan intent [operation]).isTask).map (·.id)).eraseDups ∧
      (∀ other, (∀ word, word ∈ tokens other ↔ word ∈ tokens intent) →
        (plan other operations).isTask = (plan intent operations).isTask ∧
          (plan other operations).operations = (plan intent operations).operations) ∧
      ∀ longer, tokens intent ⊆ tokens longer →
        (∀ operation, (∃ word ∈ tokens intent, IsEnough word operation) →
          (plan intent [operation]).isTask = true ∧ (plan longer [operation]).isTask = true) ∧
        (KeepsActions (tokens intent) (tokens longer) →
          (∀ operation, (plan intent [operation]).isTask = true →
            (plan longer [operation]).isTask = true) ∧
          (plan intent operations).operations ⊆ (plan longer operations).operations) := by
  refine ⟨?_, operations_plan intent operations, fun other same => ?_, fun longer sub => ⟨?_, ?_⟩⟩
  · rw [isTask_plan, List.any_eq_true]
    rfl
  · rw [isTask_plan, isTask_plan, operations_plan, operations_plan, picks_congr same]
    exact ⟨rfl, rfl⟩
  · rintro operation ⟨word, there, enough⟩
    exact ⟨picks_of_isEnough there enough, picks_of_isEnough (sub there) enough⟩
  · intro keeps
    have kept := picks_mono sub keeps
    exact ⟨kept, operations_plan_subset kept operations⟩

/-- An operation on pets. -/
def petOperation (id : String) (verb : Verb) (path : String) : Operation :=
  { id, verb, path, summary := none, tags := [], hasBody := false, bodyType := none,
    parameters := [], reply := .void }

/-- Four operations on pets, two of them with one id. -/
def petOperations : List Operation := [
  petOperation "listPets" .get "/pets", petOperation "getPet" .get "/pets/{id}",
  petOperation "getPet" .get "/v2/pets/{id}", petOperation "removePet" .delete "/pets/{id}"]

/-- Other words for an intent, and more of them. -/
theorem pets_selected :
    (plan "show pet" petOperations).operations = ["listPets", "getPet"] ∧
      (plan "pet SHOW pet" petOperations).operations = ["listPets", "getPet"] ∧
      ["listPets", "getPet"] ⊆ (plan ("show pet" ++ " " ++ "or drop it") petOperations).operations ∧
      (plan ("pets" ++ " " ++ "to drop") [petOperation "listPets" .get "/pets"]).isTask = true := by
  obtain ⟨-, alone, free, monotone⟩ := matching_local_monotone "show pet" petOperations
  have selected : (plan "show pet" petOperations).operations = ["listPets", "getPet"] := by
    rw [alone]
    decide +kernel
  have words : tokens "show pet" = ["show", "pet"] := by decide +kernel
  have turned : tokens "pet SHOW pet" = ["pet", "show", "pet"] := by decide +kernel
  have behind : ∀ intent added, tokens intent ⊆ tokens (intent ++ " " ++ added) :=
    fun intent added => tokens_append intent added ▸ List.subset_append_left _ _
  refine ⟨selected, (free _ fun word => ?_).2.trans selected, ?_, ?_⟩
  · rw [words, turned]
    simp only [List.mem_cons, List.not_mem_nil]
    tauto
  · have named : ∃ word ∈ tokens "show pet", IsActionWord word :=
      ⟨"show", by rw [words]; decide, .get, by decide⟩
    have kept := ((monotone _ (behind "show pet" "or drop it")).2 (.inl named)).2
    rwa [selected] at kept
  · have enough := ((matching_local_monotone "pets" []).2.2.2 _ (behind "pets" "to drop")).1
    exact (enough _ ⟨"pets", by decide +kernel, by decide, by decide +kernel⟩).2

end Covenant.Plan
