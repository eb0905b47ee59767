import Covenant.Proofs.Client.Layout
import Covenant.Proofs.Config.Check
/-!
# The normal form of a list of languages

Languages are named in many ways, and a list of names may name one of them more than once. Their ids
in the order in which they are named first are the normal form of the list.

* `canonicalAfter_eq_error_iff`: a list has no normal form just for the first name of no language.
* `listed_canonicalAfter`: what is resolved name by name is in the order of the first names.
* `canonicalAfter_ids`: ids of different languages are resolved to these languages.
* `check_of_check`: a configuration that the check has passed is passed as it is.
* `languages_normal_form` has it all together.
-/

namespace Covenant.Config

open Covenant.Client Covenant.Client.Target Covenant.Text

/-! ## 1. Names of languages -/

/-- The name is one of no language. -/
def isUnknown (name : String) : Bool := (resolve? name).isNone

/-- The name is one of the language with this id. -/
def means (id name : String) : Bool := (resolve? name).any (·.id == id)

/-- The ids are those that the names mean, each once, in the order of the first names that mean
them. -/
structure IsNormalForm (names ids : List String) : Prop where
  mem_iff : ∀ id, id ∈ ids ↔ ∃ name ∈ names, means id name = true
  nodup : ids.Nodup
  rising : ids.Pairwise fun first second =>
    names.findIdx (means first) < names.findIdx (means second)

variable {seen targets : List Target} {names : List String}

theorem id_injective : Function.Injective Target.id := by
  intro target other same
  have meant := resolve?_id target
  rw [same, resolve?_id other] at meant
  exact (Option.some.inj meant).symm

/-- A name of a language is one of no other language. -/
theorem means_of_resolve? {name : String} {target : Target} (known : resolve? name = some target)
    (other : Target) : means other.id name = decide (other = target) := by
  rw [means, known, Option.any_some, Bool.eq_iff_iff, beq_iff_eq, decide_eq_true_iff,
    id_injective.eq_iff, eq_comm]

/-! ## 2. One name after the other -/

/-- **What stops the resolving is the first name of no language.** -/
theorem canonicalAfter_eq_error_iff {name : String} :
    canonicalAfter seen names = .error name ↔ names.find? isUnknown = some name := by
  fun_induction canonicalAfter seen names with
  | case1 seen => simp
  | case2 seen first rest unknown => simp [isUnknown, unknown]
  | case3 seen first rest target known again ih =>
    rw [ih, List.find?_cons_of_neg (by simp [isUnknown, known])]
  | case4 seen first rest target known new ih =>
    rw [List.find?_cons_of_neg (by simp [isUnknown, known]), ← ih]
    cases canonicalAfter (target :: seen) rest <;> simp [Except.map]

/-- The languages that names mean and that are not in `seen`, in the order of their first names. -/
structure Listed (seen : List Target) (names : List String) (targets : List Target) : Prop where
  mem_iff : ∀ target, target ∈ targets ↔
    target ∉ seen ∧ ∃ name ∈ names, means target.id name = true
  rising : targets.Pairwise fun first second =>
    names.findIdx (means first.id) < names.findIdx (means second.id)

/-- A name of another language changes nothing in the order. -/
theorem findIdx_cons_of_other {name : String} {target other : Target}
    (known : resolve? name = some target) (apart : other ≠ target) :
    (name :: names).findIdx (means other.id) = names.findIdx (means other.id) + 1 := by
  rw [List.findIdx_cons, means_of_resolve? known, decide_eq_false apart, cond_false]

/-- A name of a language that is there already changes nothing. -/
theorem Listed.skip {name : String} {target : Target} (h : Listed seen names targets)
    (known : resolve? name = some target) (again : target ∈ seen) :
    Listed seen (name :: names) targets := by
  have apart : ∀ other ∈ targets, other ≠ target := by
    rintro other ho rfl
    exact ((h.mem_iff other).mp ho).1 again
  refine ⟨fun other => ?_, h.rising.imp_of_mem fun ha hb lower => ?_⟩
  · rw [h.mem_iff]
    refine and_congr_right fun new => ?_
    have differs : other ≠ target := fun same => new (same ▸ again)
    simp [means_of_resolve? known, differs]
  · rw [findIdx_cons_of_other known (apart _ ha), findIdx_cons_of_other known (apart _ hb)]
    omega

/-- A name of a new language puts it first. -/
theorem Listed.cons {name : String} {target : Target} (h : Listed (target :: seen) names targets)
    (known : resolve? name = some target) (new : target ∉ seen) :
    Listed seen (name :: names) (target :: targets) := by
  have named : means target.id name = true := by
    rw [means_of_resolve? known, decide_eq_true rfl]
  have apart : ∀ other ∈ targets, other ≠ target := by
    rintro other ho rfl
    exact ((h.mem_iff other).mp ho).1 List.mem_cons_self
  refine ⟨fun other => ?_, List.pairwise_cons.mpr ⟨fun other ho => ?_,
    h.rising.imp_of_mem fun ha hb lower => ?_⟩⟩
  · rw [List.mem_cons, h.mem_iff]
    by_cases same : other = target
    · subst same
      simp [new, named]
    · simp [same, means_of_resolve? known]
  · have first : (name :: names).findIdx (means target.id) = 0 := by
      rw [List.findIdx_cons, named, cond_true]
    rw [first, findIdx_cons_of_other known (apart other ho)]
    omega
  · rw [findIdx_cons_of_other known (apart _ ha), findIdx_cons_of_other known (apart _ hb)]
    omega

/-- **What is resolved name by name** are the languages in the order of their first names. -/
theorem listed_canonicalAfter (h : canonicalAfter seen names = .ok targets) :
    Listed seen names targets := by
  fun_induction canonicalAfter seen names generalizing targets with
  | case1 seen =>
    cases h
    exact ⟨fun target => by simp, .nil⟩
  | case2 => cases h
  | case3 seen first rest target known again ih =>
    exact (ih h).skip known (List.contains_iff_mem.mp again)
  | case4 seen first rest target known new ih =>
    obtain ⟨more, later, rfl⟩ := map_eq_ok_iff.mp h
    exact (ih later).cons known fun there => new (List.contains_iff_mem.mpr there)

/-- **Ids of different languages are resolved to these languages.** -/
theorem canonicalAfter_ids (distinct : targets.Nodup) (new : ∀ target ∈ targets, target ∉ seen) :
    canonicalAfter seen (targets.map Target.id) = .ok targets := by
  induction targets generalizing seen with
  | nil => rfl
  | cons target rest ih =>
    obtain ⟨first, distinct⟩ := List.nodup_cons.mp distinct
    have unseen : seen.contains target = false := by
      simpa using new target List.mem_cons_self
    have later : canonicalAfter (target :: seen) (rest.map Target.id) = .ok rest := by
      refine ih distinct fun other ho there => ?_
      rcases List.mem_cons.mp there with rfl | there
      · exact first ho
      · exact new other (List.mem_cons_of_mem _ ho) there
    rw [List.map_cons, canonicalAfter, resolve?_id]
    simp only [unseen, later]
    rfl

/-! ## 3. Normal forms -/

theorem isNormalForm_of_canonical (h : canonical names = .ok targets) :
    IsNormalForm names (targets.map Target.id) := by
  have listed := listed_canonicalAfter h
  have rising : (targets.map Target.id).Pairwise fun first second =>
      names.findIdx (means first) < names.findIdx (means second) :=
    List.pairwise_map.mpr listed.rising
  -- no id comes twice, since its first name would come before itself
  refine ⟨fun id => ?_, rising.imp fun lower => ?_, rising⟩
  · rw [List.mem_map]
    constructor
    · rintro ⟨target, there, rfl⟩
      exact ((listed.mem_iff target).mp there).2
    · rintro ⟨name, there, named⟩
      obtain ⟨target, known, same⟩ := (Option.any_eq_true _ _).mp named
      obtain rfl := eq_of_beq same
      exact ⟨target, (listed.mem_iff target).mpr ⟨List.not_mem_nil, name, there, named⟩, rfl⟩
  · rintro rfl
    exact Nat.lt_irrefl _ lower

theorem canonical_ids (h : canonical names = .ok targets) :
    canonical (targets.map Target.id) = .ok targets := by
  have distinct : targets.Nodup := .of_map _ (isNormalForm_of_canonical h).nodup
  exact canonicalAfter_ids distinct fun _ _ => List.not_mem_nil

theorem canonicalLanguages_eq_ok_iff {ids : List String} :
    canonicalLanguages names = .ok ids ↔
      ∃ targets, canonical names = .ok targets ∧ targets.map Target.id = ids := by
  rw [canonicalLanguages]
  cases canonical names <;> simp

/-- A list has a normal form just if each of its names is one of a language. -/
theorem exists_canonical_iff :
    (∃ targets, canonical names = .ok targets) ↔ names.find? isUnknown = none := by
  constructor
  · rintro ⟨targets, resolved⟩
    by_contra some_unknown
    obtain ⟨name, unknown⟩ := Option.ne_none_iff_exists'.mp some_unknown
    have stops : canonical names = .error name := canonicalAfter_eq_error_iff.mpr unknown
    rw [resolved] at stops
    cases stops
  · intro none
    cases resolved : canonical names with
    | ok targets => exact ⟨targets, rfl⟩
    | error name =>
      rw [canonicalAfter_eq_error_iff.mp resolved] at none
      cases none

theorem IsNormalForm.filled {ids : List String} (h : IsNormalForm names ids)
    (known : names.find? isUnknown = none) (filled : names ≠ []) : ids ≠ [] := by
  obtain ⟨name, there⟩ := List.exists_mem_of_ne_nil _ filled
  have meant := List.find?_eq_none.mp known name there
  obtain ⟨target, resolved⟩ : ∃ target, resolve? name = some target := by
    simpa [isUnknown, Option.ne_none_iff_exists'] using meant
  have named : means target.id name = true := by
    rw [means_of_resolve? resolved, decide_eq_true rfl]
  exact List.ne_nil_of_mem ((h.mem_iff target.id).mpr ⟨name, there, named⟩)

/-- The normal form of a list is its own normal form, and it is not empty if the list is not. -/
theorem canonicalLanguages_again {ids : List String} (h : canonicalLanguages names = .ok ids) :
    canonicalLanguages ids = .ok ids ∧ (names ≠ [] → ids ≠ []) := by
  obtain ⟨targets, resolved, rfl⟩ := canonicalLanguages_eq_ok_iff.mp h
  exact ⟨canonicalLanguages_eq_ok_iff.mpr ⟨targets, canonical_ids resolved, rfl⟩,
    (isNormalForm_of_canonical resolved).filled (exists_canonical_iff.mp ⟨targets, resolved⟩)⟩

/-! ## 4. Checked configurations -/

theorem GenerateSection.check_of_check {generate checked : GenerateSection}
    (h : generate.check = .ok checked) : checked.check = .ok checked := by
  obtain ⟨output, filled, service, package, address, ids, known, rfl⟩ := check_eq_ok_iff.mp h
  obtain ⟨again, some_id⟩ := canonicalLanguages_again known
  exact check_eq_ok_iff.mpr ⟨output, some_id filled, service, package, address, ids, again, rfl⟩

/-- **A configuration that the check has passed is passed as it is.** -/
theorem check_of_check {config checked : Config} (h : config.check = .ok checked) :
    checked.check = .ok checked := by
  obtain ⟨contract, plan, guarded, generate, generated, rfl⟩ := check_eq_ok_iff.mp h
  exact check_eq_ok_iff.mpr ⟨contract, plan, guarded, generate,
    GenerateSection.check_of_check generated, rfl⟩

/-- **Lists of languages have one normal form.** If a list has a name of no language, the first such
name is the error of the list for the command line and for a configuration; else both give the same
ids, which are the normal form of the list and their own normal form. And a configuration that was
checked is not changed by checking it again. -/
theorem languages_normal_form (names : List String) (config : Config) :
    (match names.find? isUnknown with
      | some name => canonical names = .error name ∧
          canonicalLanguages names = .error (.unknownLanguage name)
      | none => ∃ targets, canonical names = .ok targets ∧
          canonicalLanguages names = .ok (targets.map Target.id) ∧
          IsNormalForm names (targets.map Target.id) ∧
          canonical (targets.map Target.id) = .ok targets ∧
          canonicalLanguages (targets.map Target.id) = .ok (targets.map Target.id)) ∧
      ∀ checked, config.check = .ok checked → checked.check = .ok checked := by
  refine ⟨?_, fun checked => check_of_check⟩
  cases known : names.find? isUnknown with
  | some name =>
    have stops : canonical names = .error name := canonicalAfter_eq_error_iff.mpr known
    exact ⟨stops, by rw [canonicalLanguages, stops]⟩
  | none =>
    obtain ⟨targets, resolved⟩ := exists_canonical_iff.mpr known
    have ids : canonicalLanguages names = .ok (targets.map Target.id) :=
      canonicalLanguages_eq_ok_iff.mpr ⟨targets, resolved, rfl⟩
    exact ⟨targets, resolved, ids, isNormalForm_of_canonical resolved, canonical_ids resolved,
      (canonicalLanguages_again ids).1⟩

end Covenant.Config
