import Covenant.Proofs.Client.Context
import Covenant.Proofs.Naming.Identifier
/-!
# Contexts after overrides

Service name, package name and base URL of a context may be set in any order and any number of
times, each to any text.

* `Override` is one such setting, and `EmitContext.setAll` a row of them.
* `IsKebab`: what a service name looks like; `isKebab_setAll`: it does after every row of settings.
* `segmentsAfter` and `packageName_setAll`: the package name is made of the segments that were set
  last, or of the service name if none were since that was set.
* `overrides_keep_names`: what holds of the names of a context after any settings. The parts of the
  package name are identifiers unless it was set to one with a part that begins with a digit.
-/

namespace Covenant.Client

open Covenant.Contract Covenant.Naming Covenant.Text

/-! ## 1. Settings -/

/-- A setting of one part of a context. -/
inductive Override where
  | service (name : String)
  | package (name : String)
  | url (url : String)
deriving Repr, DecidableEq

/-- The context with one part set. -/
def EmitContext.set (context : EmitContext) : Override → EmitContext
  | .service name => context.withServiceName name
  | .package name => context.withPackageName name
  | .url url => context.withBaseUrl url

/-- The context with parts set one after the other. -/
def EmitContext.setAll (context : EmitContext) (overrides : List Override) : EmitContext :=
  overrides.foldl EmitContext.set context

variable {document : Document} {context : EmitContext} {overrides : List Override}

theorem EmitContext.Of.set (h : Of document context) (override : Override) :
    Of document (context.set override) := by
  cases override with
  | service name => exact h.service name
  | package name => exact h.package name
  | url url => exact h.url url

/-- Whatever is set, the context is one of the contract. -/
theorem EmitContext.Of.setAll (h : Of document context) (overrides : List Override) :
    Of document (context.setAll overrides) := by
  induction overrides generalizing context with
  | nil => exact h
  | cons override rest ih => exact ih (h.set override)

@[simp] theorem serviceName_withPackageName (context : EmitContext) (name : String) :
    (context.withPackageName name).serviceName = context.serviceName := by
  unfold EmitContext.withPackageName
  split <;> rfl

@[simp] theorem serviceName_withBaseUrl (context : EmitContext) (url : String) :
    (context.withBaseUrl url).serviceName = context.serviceName := by
  unfold EmitContext.withBaseUrl
  dsimp only
  split <;> rfl

@[simp] theorem packageName_withBaseUrl (context : EmitContext) (url : String) :
    (context.withBaseUrl url).packageName = context.packageName := by
  unfold EmitContext.withBaseUrl
  dsimp only
  split <;> rfl

/-! ## 2. Service names -/

/-- Words of small letters and digits with single hyphens between them. -/
def IsKebab (name : String) : Prop :=
  ∃ words : List String, words ≠ [] ∧
    (∀ word ∈ words, word ≠ "" ∧ word.toList.all isSmall = true) ∧
    name = joinStrings "-" words

/-- **A name in kebab case is words with hyphens between them**, if there is anything in it. -/
theorem isKebab_kebabCase {name : String} (filled : (kebabCase name).isEmpty = false) :
    IsKebab (kebabCase name) := by
  have some_words := words_ne_nil_of_kebabCase filled
  refine ⟨(words name.toList).map .ofList, by simpa using some_words, fun word hw => ?_, ?_⟩
  · obtain ⟨text, ht, rfl⟩ := List.mem_map.mp hw
    have filled := (isWord_of_mem_words ht).filled
    rw [String.toList_ofList]
    exact ⟨by simpa using filled, List.all_eq_true.mpr (isSmall_of_mem_words ht)⟩
  · rw [kebabCase, ← String.toList_inj, String.toList_ofList, joinWith_eq_intercalate,
      joinStrings, String.toList_intercalate, List.map_map]
    simp [Function.comp_def]

theorem isKebab_serviceNameOf (title : String) : IsKebab (EmitContext.serviceNameOf title) := by
  unfold EmitContext.serviceNameOf
  dsimp only
  split
  · exact ⟨["api", "client"], by simp, by decide, by decide⟩
  · rename_i filled
    exact isKebab_kebabCase (by simpa using filled)

theorem isKebab_ofDocument (document : Document) :
    IsKebab (EmitContext.ofDocument document).serviceName := by
  simp only [EmitContext.ofDocument]
  exact isKebab_serviceNameOf _

theorem isKebab_of_set (h : IsKebab context.serviceName) (override : Override) :
    IsKebab (context.set override).serviceName := by
  cases override with
  | service name =>
    unfold EmitContext.set EmitContext.withServiceName
    dsimp only
    split
    · exact h
    · rename_i filled
      exact isKebab_kebabCase (by simpa using filled)
  | package name | url url => simpa [EmitContext.set] using h

theorem isKebab_setAll (h : IsKebab context.serviceName) :
    IsKebab (context.setAll overrides).serviceName := by
  induction overrides generalizing context with
  | nil => exact h
  | cons override rest ih => exact ih (isKebab_of_set h override)

/-! ## 3. Package names -/

/-- The segments of a package name that count after a setting, if these counted before. Without
segments the package name follows the service name. -/
def Override.segmentsAfter (before : List String) : Override → List String
  | .service name => if (kebabCase name).isEmpty then before else []
  | .package name =>
    if EmitContext.packageSegments name = [] then before else EmitContext.packageSegments name
  | .url _ => before

/-- The segments of a package name that count after some settings. -/
def segmentsAfter (overrides : List Override) : List String :=
  overrides.foldl Override.segmentsAfter []

/-- A package name is made of the segments that count, or follows the service name. -/
def EmitContext.HasPackage (context : EmitContext) (segments : List String) : Prop :=
  context.packageName =
    if segments = [] then EmitContext.packageNameOf context.serviceName
    else joinStrings "." segments

/-- A contract alone gives a package name that follows the service name. -/
theorem hasPackage_ofDocument (document : Document) :
    (EmitContext.ofDocument document).HasPackage [] := by
  rw [EmitContext.HasPackage, if_pos rfl]
  simp only [EmitContext.ofDocument]

/-- **One setting** changes the package name as it changes the segments that count. -/
theorem EmitContext.HasPackage.set {segments : List String} (h : context.HasPackage segments)
    (override : Override) :
    (context.set override).HasPackage (override.segmentsAfter segments) := by
  cases override with
  | service name =>
    unfold EmitContext.set EmitContext.withServiceName Override.segmentsAfter
    dsimp only
    split
    · exact h
    · rfl
  | package name =>
    unfold EmitContext.set EmitContext.withPackageName Override.segmentsAfter
    dsimp only
    split
    · rename_i none
      rwa [if_pos none]
    · rename_i filled
      rw [if_neg filled, HasPackage, if_neg filled]
  | url url => simpa [EmitContext.set, HasPackage, Override.segmentsAfter] using h

theorem EmitContext.HasPackage.setAll {segments : List String} (h : context.HasPackage segments) :
    (context.setAll overrides).HasPackage (overrides.foldl Override.segmentsAfter segments) := by
  induction overrides generalizing context segments with
  | nil => exact h
  | cons override rest ih => exact ih (h.set override)

/-- A package name that follows the service name has identifiers between its dots. -/
theorem isIdentifier_packageNameOf {service : String}
    (h : ∃ c ∈ service.toList, c.isAlphanum = true) :
    ∀ part ∈ packageParts (EmitContext.packageNameOf service), IsIdentifier part := by
  obtain ⟨leaf, filled, chars, start, name⟩ := packageNameOf_eq h
  have leaf_identifier := (isIdentifier_iff filled chars).mpr start
  have parts : ∀ part ∈ ["com", "example", leaf], IsIdentifier part := by
    simp only [List.forall_mem_cons]
    exact ⟨by decide, by decide, leaf_identifier, by simp⟩
  rw [name, packageParts_joinStrings (by simp) fun part hp => (parts part hp).chars]
  exact parts

/-- The segments that count are words. -/
theorem word_of_mem_segmentsAfter {segments : List String}
    (h : ∀ segment ∈ segments, segment ≠ "" ∧ OfWordChars segment) (overrides : List Override) :
    ∀ segment ∈ overrides.foldl Override.segmentsAfter segments,
      segment ≠ "" ∧ OfWordChars segment := by
  induction overrides generalizing segments with
  | nil => exact h
  | cons override rest ih =>
    refine ih fun segment hs => ?_
    cases override with
    | service name =>
      simp only [Override.segmentsAfter] at hs
      split at hs
      · exact h segment hs
      · cases hs
    | package name =>
      simp only [Override.segmentsAfter] at hs
      split at hs
      · exact h segment hs
      · exact word_of_mem_packageSegments hs
    | url url => exact h segment hs

/-! ## 4. All names -/

/-- What a class name is: letters and digits, the first of them a capital, and an ending that says
what the class is. -/
structure IsClassName (name : String) : Prop where
  capital : ∃ c, name.toList.head? = some c ∧ c.isUpper = true
  alphanumeric : ∀ c ∈ name.toList, c.isAlphanum = true
  suffix : "Api".toList <:+ name.toList ∨ "API".toList <:+ name.toList

theorem isClassName_apiClassName (title : String) : IsClassName (apiClassName title) :=
  ⟨apiClassName_head title, (apiClassName_isWord title).1.chars, apiClassName_suffix title⟩

/-- The names of a context are as they should be, if these are the segments of its package name that
count. -/
structure EmitContext.KeepsNames (context : EmitContext) (segments : List String) : Prop where
  service : IsKebab context.serviceName
  className : context.className = apiClassName context.title
  isClassName : IsClassName context.className
  package : IsPackage context.packageName
  identifiers : (∀ part ∈ packageParts context.packageName, IsIdentifier part) ↔
    ∀ segment ∈ segments, segment.toList.head?.any Char.isDigit = false

theorem EmitContext.HasPackage.identifiers {segments : List String}
    (h : context.HasPackage segments) (named : context.WellFormed)
    (words : ∀ segment ∈ segments, segment ≠ "" ∧ OfWordChars segment) :
    (∀ part ∈ packageParts context.packageName, IsIdentifier part) ↔
      ∀ segment ∈ segments, segment.toList.head?.any Char.isDigit = false := by
  rw [HasPackage] at h
  by_cases none : segments = []
  · rw [h, if_pos none, none]
    exact iff_of_true (isIdentifier_packageNameOf named.service) fun _ no => nomatch no
  · rw [h, if_neg none, packageParts_joinStrings none fun segment hs => (words segment hs).2]
    exact forall₂_congr fun segment hs => isIdentifier_iff (words segment hs).1 (words segment hs).2

/-- **What holds of the names of a context, whatever was set.** The service name is in kebab case,
the class name is that of the title, and the package name is a row of words. These are identifiers
just if the package name was not set to one with a word that begins with a digit, or the service
name was set after that. -/
theorem overrides_keep_names (document : Document) (overrides : List Override) :
    ((EmitContext.ofDocument document).setAll overrides).KeepsNames (segmentsAfter overrides) := by
  have of : EmitContext.Of document ((EmitContext.ofDocument document).setAll overrides) :=
    EmitContext.Of.given.setAll overrides
  have service : IsKebab ((EmitContext.ofDocument document).setAll overrides).serviceName :=
    isKebab_setAll (isKebab_ofDocument document)
  have package : ((EmitContext.ofDocument document).setAll overrides).HasPackage
      (segmentsAfter overrides) := (hasPackage_ofDocument document).setAll
  have words : ∀ segment ∈ segmentsAfter overrides, segment ≠ "" ∧ OfWordChars segment :=
    word_of_mem_segmentsAfter (fun _ none => by cases none) overrides
  generalize (EmitContext.ofDocument document).setAll overrides = context at of service package ⊢
  have class_name : context.className = apiClassName context.title := by
    rw [of.named.className, of.named.title]
  exact ⟨service, class_name, class_name ▸ isClassName_apiClassName _, of.wellFormed.package,
    package.identifiers of.wellFormed words⟩

/-- A document without paths. -/
def barePets : Document where
  openapi := none
  info := ⟨"Pets", "1", none⟩
  servers := []
  paths := []
  schemas := .empty

/-- A package name may be set to one with a word that begins with a digit. -/
theorem digit_package_kept :
    ((EmitContext.ofDocument barePets).setAll [.package "2pets.api"]).packageName =
        "2pets.api" ∧
      "2pets" ∈ packageParts "2pets.api" ∧ ¬IsIdentifier "2pets" := by
  decide

end Covenant.Client
