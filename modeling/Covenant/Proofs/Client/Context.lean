import Covenant.Client.Context
import Covenant.Proofs.Naming.Words
import Mathlib.Data.List.DropRight
/-!
# Contexts of a contract

* `EmitContext.Of document`: the contexts that a contract gives, whatever is set instead and in
  whatever order.
* `IsPackage`: a package name is a row of words with dots between them.
* `EmitContext.Of.wellFormed`: whatever the texts are from which a context was made, its own texts
  are inline and its names are made of words.
* `EmitContext.Of.named`: its names are in small letters, and its title, version and class name are
  those of the contract.
-/

namespace Covenant.Client

open Covenant.Contract Covenant.Naming Covenant.Text

/-! ## 1. Contexts -/

/-- The contexts that a contract gives: the one made from it, and those with a service name, a
package name or a base URL set after that. -/
inductive EmitContext.Of (document : Document) : EmitContext → Prop
  | given : Of document (.ofDocument document)
  | service {context : EmitContext} (h : Of document context) (name : String) :
      Of document (context.withServiceName name)
  | package {context : EmitContext} (h : Of document context) (name : String) :
      Of document (context.withPackageName name)
  | url {context : EmitContext} (h : Of document context) (url : String) :
      Of document (context.withBaseUrl url)

/-- What is set all at once is set one by one. -/
theorem EmitContext.Of.override {document : Document} {context : EmitContext}
    (h : Of document context) (service package url : Option String) :
    Of document (context.override service package url) := by
  unfold EmitContext.override
  have set : ∀ {change : EmitContext → String → EmitContext}, (∀ {context}, Of document context →
      ∀ text, Of document (change context text)) → ∀ {context}, Of document context →
      ∀ text : Option String, Of document ((text.map (change context)).getD context) := by
    intro change each context h text
    cases text with
    | none => exact h
    | some text => exact each h text
  exact set .url (set .package (set .service h service) package) url

/-- A row of words with dots between them. -/
def IsPackage (name : String) : Prop :=
  ∃ parts : List String, parts ≠ [] ∧ (∀ part ∈ parts, part ≠ "" ∧ OfWordChars part) ∧
    name = joinStrings "." parts

/-- What stands between the dots of a package name. -/
def packageParts (name : String) : List String := (splitAtChar '.' name.toList).map .ofList

theorem packageParts_joinStrings {parts : List String} (filled : parts ≠ [])
    (words : ∀ part ∈ parts, OfWordChars part) : packageParts (joinStrings "." parts) = parts := by
  have split : splitAtChar '.' (joinStrings "." parts).toList = parts.map String.toList := by
    rw [joinStrings, String.toList_intercalate, splitAtChar, splitWhere_eq]
    refine List.splitOn_intercalate '.' (fun piece hp => ?_) (by simpa using filled)
    obtain ⟨part, hm, rfl⟩ := List.mem_map.mp hp
    exact fun dot => absurd (words part hm _ dot) (by decide)
  simp [packageParts, split, Function.comp_def]

/-- What holds of the texts and names of a context, whatever it was made from. -/
structure EmitContext.WellFormed (context : EmitContext) : Prop where
  title : IsInline context.title.toList
  version : IsInline context.version.toList
  baseUrl : IsInline context.baseUrl.toList
  className : IsWord context.className.toList
  not_entry : context.className ≠ "Main"
  service : ∃ c ∈ context.serviceName.toList, c.isAlphanum = true
  package : IsPackage context.packageName

theorem EmitContext.WellFormed.ofWordChars {context : EmitContext} (h : context.WellFormed) :
    OfWordChars context.className :=
  fun c hc => isWordChar_of_alphanum (h.className.chars c hc)

/-! ## 2. Names -/

theorem words_ne_nil_of_kebabCase {name : String} (h : (kebabCase name).isEmpty = false) :
    words name.toList ≠ [] := by
  intro none
  simp [kebabCase, none, joinWith] at h

/-- A service name that is not empty has a letter or digit. -/
theorem exists_alphanum_kebabCase {name : String} (h : (kebabCase name).isEmpty = false) :
    ∃ c ∈ (kebabCase name).toList, c.isAlphanum = true := by
  rw [kebabCase, String.toList_ofList]
  exact exists_alphanum_joinedWords ['-'] (words_ne_nil_of_kebabCase h)

/-- The package name of a service ends in its words, run together and with no digit in front. -/
theorem packageNameOf_eq {service : String} (h : ∃ c ∈ service.toList, c.isAlphanum = true) :
    ∃ leaf : String, leaf ≠ "" ∧ OfWordChars leaf ∧
      leaf.toList.head?.any Char.isDigit = false ∧
      EmitContext.packageNameOf service = joinStrings "." ["com", "example", leaf] := by
  obtain ⟨c, hc, counts⟩ := h
  obtain ⟨d, hd, letter⟩ := exists_alphanum_joinedWords ['_'] (words_ne_nil hc counts)
  have chars := ofWordChars_snakeCase service
  have kept : (snakeCase service).toList.filter (· != '_') ≠ [] := by
    refine List.ne_nil_of_mem (a := d) (List.mem_filter.mpr ⟨?_, ?_⟩)
    · rw [snakeCase, String.toList_ofList]
      exact hd
    · simpa using fun e : d = '_' => absurd (e ▸ letter) (by decide)
  have word : ∀ c ∈ (snakeCase service).toList.filter (· != '_'), isWordChar c = true :=
    fun c hc => chars c (List.mem_of_mem_filter hc)
  have name : ∀ leaf : List Char, EmitContext.packageRoot ++ "." ++ .ofList leaf =
      joinStrings "." ["com", "example", .ofList leaf] := fun leaf =>
    String.toList_inj.mp (by simp [joinStrings, EmitContext.packageRoot])
  refine ⟨_, ?_, ?_, ?_, name _⟩
  · split <;> simp [kept]
  · rw [OfWordChars, String.toList_ofList]
    split
    · exact List.forall_mem_cons.mpr ⟨rfl, word⟩
    · exact word
  · rw [String.toList_ofList]
    split
    · rfl
    · rename_i other
      simpa using other

/-- **The package name of a service is a row of words.** -/
theorem isPackage_packageNameOf {service : String}
    (h : ∃ c ∈ service.toList, c.isAlphanum = true) :
    IsPackage (EmitContext.packageNameOf service) := by
  obtain ⟨leaf, filled, chars, _, name⟩ := packageNameOf_eq h
  refine ⟨["com", "example", leaf], by simp, ?_, name⟩
  simp only [List.forall_mem_cons]
  exact ⟨by decide, by decide, ⟨filled, chars⟩, by simp⟩

/-- The segments of a package name are words. -/
theorem word_of_mem_packageSegments {name segment : String}
    (h : segment ∈ EmitContext.packageSegments name) : segment ≠ "" ∧ OfWordChars segment := by
  obtain ⟨mapped, filled⟩ := List.mem_filter.mp h
  obtain ⟨piece, _, rfl⟩ := List.mem_map.mp mapped
  exact ⟨by simpa using filled, ofWordChars_snakeCase _⟩

theorem isPackage_withPackageName {context : EmitContext} (h : IsPackage context.packageName)
    (name : String) : IsPackage (context.withPackageName name).packageName := by
  unfold EmitContext.withPackageName
  split
  · exact h
  · rename_i filled
    exact ⟨_, filled, fun _ => word_of_mem_packageSegments, rfl⟩

/-! ## 3. Well-formed contexts -/

theorem isInline_trimSlashes {url : String} (h : IsInline url.toList) :
    IsInline (EmitContext.trimSlashes url).toList := by
  rw [EmitContext.trimSlashes, String.toList_ofList]
  exact h.of_infix (List.rdropWhile_prefix _ _).isInfix

theorem exists_alphanum_serviceNameOf (title : String) :
    ∃ c ∈ (EmitContext.serviceNameOf title).toList, c.isAlphanum = true := by
  unfold EmitContext.serviceNameOf
  dsimp only
  split
  · exact ⟨'a', by decide, rfl⟩
  · rename_i filled
    exact exists_alphanum_kebabCase (by simpa using filled)

theorem wellFormed_ofDocument (document : Document) :
    (EmitContext.ofDocument document).WellFormed := by
  have class_name := apiClassName_isWord (inlineText document.info.title)
  have service := exists_alphanum_serviceNameOf (inlineText document.info.title)
  have package := isPackage_packageNameOf service
  constructor <;> simp only [EmitContext.ofDocument]
  · exact inlineText_isInline document.info.title
  · exact inlineText_isInline document.info.version
  · exact inlineText_isInline _
  · exact class_name.1
  · exact class_name.2
  · exact service
  · exact package

theorem wellFormed_withServiceName {context : EmitContext} (h : context.WellFormed)
    (name : String) : (context.withServiceName name).WellFormed := by
  unfold EmitContext.withServiceName
  dsimp only
  split
  · exact h
  · rename_i filled
    have service := exists_alphanum_kebabCase (by simpa using filled)
    exact ⟨h.title, h.version, h.baseUrl, h.className, h.not_entry, service,
      isPackage_packageNameOf service⟩

theorem wellFormed_withPackageName {context : EmitContext} (h : context.WellFormed)
    (name : String) : (context.withPackageName name).WellFormed := by
  have package := isPackage_withPackageName h.package name
  unfold EmitContext.withPackageName at package ⊢
  split at package
  · exact h
  · exact ⟨h.title, h.version, h.baseUrl, h.className, h.not_entry, h.service, package⟩

theorem wellFormed_withBaseUrl {context : EmitContext} (h : context.WellFormed) (url : String) :
    (context.withBaseUrl url).WellFormed := by
  unfold EmitContext.withBaseUrl
  dsimp only
  split
  · exact h
  · have baseUrl := isInline_trimSlashes (inlineText_isInline url)
    exact ⟨h.title, h.version, baseUrl, h.className, h.not_entry, h.service, h.package⟩

/-- **Whatever a context is made from, its texts are inline and its names are made of words.** -/
theorem EmitContext.Of.wellFormed {document : Document} {context : EmitContext}
    (h : Of document context) : context.WellFormed := by
  induction h with
  | given => exact wellFormed_ofDocument document
  | service _ name ih => exact wellFormed_withServiceName ih name
  | package _ name ih => exact wellFormed_withPackageName ih name
  | url _ url ih => exact wellFormed_withBaseUrl ih url

/-! ## 4. Letters of names -/

/-- A name in small letters and digits, with these characters between its words. -/
def IsSmallName (between : List Char) (name : String) : Prop :=
  ∀ c ∈ name.toList, isSmall c = true ∨ c ∈ between

instance (between : List Char) (name : String) : Decidable (IsSmallName between name) :=
  List.decidableBAll _ name.toList

theorem IsSmallName.mono {between more : List Char} {name : String} (h : IsSmallName between name)
    (within : between ⊆ more) : IsSmallName more name :=
  fun c hc => (h c hc).imp_right fun joins => within joins

/-- The names of a context are in small letters, and its title, version and class are those of the
contract. -/
structure EmitContext.Named (document : Document) (context : EmitContext) : Prop where
  title : context.title = inlineText document.info.title
  version : context.version = inlineText document.info.version
  className : context.className = apiClassName (inlineText document.info.title)
  service : IsSmallName ['-'] context.serviceName
  package : IsSmallName ['_', '.'] context.packageName

theorem isSmallName_kebabCase (name : String) : IsSmallName ['-'] (kebabCase name) := by
  intro c hc
  rw [kebabCase, String.toList_ofList] at hc
  exact (joinedWords_small hc).symm

theorem isSmallName_snakeCase (name : String) : IsSmallName ['_'] (snakeCase name) := by
  intro c hc
  rw [snakeCase, String.toList_ofList] at hc
  exact (joinedWords_small hc).symm

theorem isSmallName_serviceNameOf (title : String) :
    IsSmallName ['-'] (EmitContext.serviceNameOf title) := by
  unfold EmitContext.serviceNameOf
  dsimp only
  split
  · decide
  · exact isSmallName_kebabCase title

theorem isSmallName_packageNameOf (service : String) :
    IsSmallName ['_', '.'] (EmitContext.packageNameOf service) := by
  have root : IsSmallName ['_', '.'] EmitContext.packageRoot := by decide
  have point : IsSmallName ['_', '.'] "." := by decide
  have leaf : ∀ c ∈ (snakeCase service).toList.filter (· != '_'),
      isSmall c = true ∨ c ∈ ['_', '.'] := fun c hc =>
    (isSmallName_snakeCase service).mono (by simp) c (List.mem_of_mem_filter hc)
  unfold EmitContext.packageNameOf IsSmallName
  simp only [String.toList_append, String.toList_ofList, List.forall_mem_append]
  refine ⟨⟨root, point⟩, ?_⟩
  split
  · exact List.forall_mem_cons.mpr ⟨.inr (.head _), leaf⟩
  · exact leaf

theorem isSmallName_packageSegments (name : String) :
    IsSmallName ['_', '.'] (joinStrings "." (EmitContext.packageSegments name)) := by
  intro c hc
  rw [joinStrings, String.toList_intercalate] at hc
  rcases mem_intercalate hc with rfl | ⟨_, hp, hc⟩
  · exact .inr (.tail _ (.head _))
  · obtain ⟨segment, hs, rfl⟩ := List.mem_map.mp hp
    obtain ⟨piece, _, rfl⟩ := List.mem_map.mp (List.mem_of_mem_filter hs)
    exact (isSmallName_snakeCase _).mono (by simp) c hc

theorem named_ofDocument (document : Document) :
    (EmitContext.ofDocument document).Named document := by
  constructor <;> simp only [EmitContext.ofDocument]
  · exact isSmallName_serviceNameOf _
  · exact isSmallName_packageNameOf _

/-- **Whatever is set instead, the names of a context are in small letters.** -/
theorem EmitContext.Of.named {document : Document} {context : EmitContext}
    (h : Of document context) : context.Named document := by
  induction h with
  | given => exact named_ofDocument document
  | service _ name ih =>
    unfold EmitContext.withServiceName
    dsimp only
    split
    · exact ih
    · exact ⟨ih.title, ih.version, ih.className, isSmallName_kebabCase name,
        isSmallName_packageNameOf _⟩
  | package _ name ih =>
    unfold EmitContext.withPackageName
    split
    · exact ih
    · exact ⟨ih.title, ih.version, ih.className, ih.service, isSmallName_packageSegments name⟩
  | url _ url ih =>
    unfold EmitContext.withBaseUrl
    dsimp only
    split
    · exact ih
    · exact ⟨ih.title, ih.version, ih.className, ih.service, ih.package⟩

end Covenant.Client
