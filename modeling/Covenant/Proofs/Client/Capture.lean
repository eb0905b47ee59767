import Covenant.Proofs.Client.Contained
import Covenant.Proofs.Client.Signature
/-!
# Names that a method uses

The code of a method uses values by name, besides those that its slots bring: its own locals,
helpers of the client and what the language brings along. An argument of the same name would be
used in their place.

* `Target.valueNames` are read off the templates of a method; `mentioned_iff` says which words are
  left out.
* `captured_iff`: an argument takes such a name just if the name is one of `Target.exposed` and is
  what the name of a parameter is converted to; all others are reserved, or begin with a capital, as
  no argument does.
-/

namespace Covenant.Client

open Covenant.Contract Covenant.Json Covenant.Naming Covenant.Text

/-! ## 1. Names in the code of templates -/

/-- A template with both rows of each choice, one after the other. -/
def Template.bothRows (template : Template) : List Fragment :=
  template.flatMap fun
    | .text text => [.text text]
    | .slot name => [.slot name]
    | .choice _ yes no => yes ++ no

/-- The setting takes a character for code. -/
def Setting.isCode (setting : Setting) : Bool := setting = .code || setting = .slash

/-- A text with a space for each character that is not code. -/
def codeIn (hash : Bool) : Setting → List Char → List Char
  | _, [] => []
  | setting, c :: rest =>
    let next := setting.next hash c
    (if setting.isCode && next.isCode then c else ' ') :: codeIn hash next rest

/-- A text in stretches with a space for each character that is not code, and for each slot. -/
def codeOfWoven (hash : Bool) : Setting → Woven → List Char
  | _, [] => []
  | setting, .own text :: rest =>
    codeIn hash setting text ++ codeOfWoven hash (text.foldl (Setting.next hash) setting) rest
  | setting, .taken _ :: rest => ' ' :: codeOfWoven hash setting rest

/-- `next` of a setting that is told apart first: an evaluation goes on with the setting, and not
with how it was come by. -/
def Setting.known {α : Type} (setting : Setting) (next : Setting → α) : α :=
  match setting with
  | .code => next .code
  | .slash => next .slash
  | .quoted => next .quoted
  | .escaped => next .escaped
  | .line => next .line
  | .block => next .block
  | .star => next .star

@[simp] theorem Setting.known_eq {α : Type} (setting : Setting) (next : Setting → α) :
    setting.known next = next setting := by
  cases setting <;> rfl

/-- `codeIn`, for evaluation. -/
def knownCodeIn (hash : Bool) : Setting → List Char → List Char
  | _, [] => []
  | setting, c :: rest => (setting.next hash c).known fun next =>
    (if setting.isCode && next.isCode then c else ' ') :: knownCodeIn hash next rest

theorem knownCodeIn_eq (hash : Bool) (setting : Setting) (text : List Char) :
    knownCodeIn hash setting text = codeIn hash setting text := by
  induction text generalizing setting with
  | nil => rfl
  | cons c rest ih => simp only [knownCodeIn, codeIn, Setting.known_eq, ih]

/-- `codeOfWoven`, for evaluation. -/
def knownCode (hash : Bool) : Setting → Woven → List Char
  | _, [] => []
  | setting, .own text :: rest => knownCodeIn hash setting text ++
    (text.foldl (Setting.next hash) setting).known fun next => knownCode hash next rest
  | setting, .taken _ :: rest => ' ' :: knownCode hash setting rest

theorem knownCode_eq (hash : Bool) (setting : Setting) (woven : Woven) :
    knownCode hash setting woven = codeOfWoven hash setting woven := by
  induction woven generalizing setting with
  | nil => rfl
  | cons stretch rest ih =>
    cases stretch <;> simp only [knownCode, codeOfWoven, knownCodeIn_eq, Setting.known_eq, ih]

/-- The character goes on with a name or with a member of what is named, as in `path.replace` and
`Vec::new`, or is part of a lifetime, as in `'static`. -/
def continuesName (c : Char) : Bool := isWordChar c || c == '.' || c == ':' || c == '\''

/-- The names with which the chains of members in a code begin. -/
def namesIn (code : List Char) : List String :=
  ((splitWhere (fun c => !continuesName c) code).map fun chain =>
    String.ofList (chain.takeWhile isWordChar)).filter fun name => decide (IsIdentifier name)

/-- What the chains of members in a code begin with. -/
def headsIn (code : List Char) : List (List Char) :=
  (splitWhere (fun c => !continuesName c) code).map fun chain => chain.takeWhile isWordChar

theorem mem_namesIn {code : List Char} {name : String} :
    name ∈ namesIn code ↔ name.toList ∈ headsIn code ∧ IsIdentifier name := by
  rw [namesIn, List.mem_filter, List.mem_map, headsIn, List.mem_map, decide_eq_true_iff]
  refine and_congr_left fun _ => exists_congr fun chain => and_congr_right fun _ => ?_
  rw [← String.toList_inj, String.toList_ofList]

/-- The templates from which a method is made. -/
def TemplateSet.ofMethod (templates : TemplateSet) : List Template :=
  [templates.method, templates.pathParam, templates.queryParam, templates.headerParam]

/-- The words that the code of a template mentions and that its slots do not bring. -/
def Target.wordsOf (target : Target) (template : Template) : List String :=
  namesIn (codeOfWoven target.hash .code (outline template.bothRows))

/-- The words that mean no value where a method mentions them: `safe` names an argument of `quote`,
`str` and `string` are types, `format` is the macro, and `async` stands before a function. -/
def Target.otherWords : Target → List String
  | .python => ["safe"]
  | .rust => ["str", "format"]
  | .typescript => ["async", "string"]
  | .go | .java => []

/-- The names that the code of a template mentions and that its slots do not bring. -/
def Target.namesOf (target : Target) (template : Template) : List String :=
  (target.wordsOf template).filter fun name => !target.otherWords.contains name

/-- The names of values that a method mentions and that its slots do not bring. -/
def Target.valueNames (target : Target) : List String :=
  target.dialect.templates.ofMethod.flatMap target.namesOf

/-- The names that nothing keeps from an argument. -/
def Target.exposed : Target → List String
  | .go => ["encodeQuery"]
  | .java => []
  | .python => ["str"]
  | .rust => ["param_text", "encode_component"]
  | .typescript => ["undefined", "encodeURIComponent"]

/-- A template with both rows of each choice, its texts spelled out. -/
theorem outline_bothRows {template : Template} {woven : Woven}
    (spelled : Spelled (fun _ => true) (template.bothRows.map Fragment.piece) woven) :
    outline template.bothRows = woven := by
  have row := row_pieces (fun _ => true) template.bothRows []
  rw [List.append_nil] at row
  rw [← spelled.outline_eq, row]
  simp [Template.row]

/-- Words in the order in which a template mentions them are found by one walk along its texts
spelled out. -/
theorem subset_wordsOf {target : Target} {template : Template} {woven : Woven}
    {words : List String}
    (spelled : Spelled (fun _ => true) (template.bothRows.map Fragment.piece) woven)
    (found : (words.map String.toList).Sublist (headsIn (knownCode target.hash .code woven)))
    (identifiers : ∀ word ∈ words, IsIdentifier word) : words ⊆ target.wordsOf template := by
  intro word hw
  rw [Target.wordsOf, outline_bothRows spelled, ← knownCode_eq]
  exact mem_namesIn.mpr ⟨found.subset (List.mem_map_of_mem hw), identifiers word hw⟩

/-- A word of the template of a query parameter that is not left out is the name of a value. -/
theorem mem_valueNames_of_query {target : Target} {name : String}
    (there : name ∈ target.wordsOf target.dialect.templates.queryParam)
    (value : name ∉ target.otherWords) : name ∈ target.valueNames :=
  List.mem_flatMap.mpr ⟨_, .tail _ (.tail _ (.head _)),
    List.mem_filter.mpr ⟨there, by simpa using value⟩⟩

/-- Exposed names are names of values that a method mentions. -/
theorem exposed_subset (target : Target) : target.exposed ⊆ target.valueNames := by
  have sent : target.exposed ⊆ target.wordsOf target.dialect.templates.queryParam := by
    cases target
    all_goals
      apply subset_wordsOf
      · repeat first | exact .nil | apply Spelled.slot | apply Spelled.text rfl
      · decide +kernel
      · decide
  have values : ∀ name ∈ target.exposed, name ∉ target.otherWords := by cases target <;> decide
  exact fun name exposed => mem_valueNames_of_query (sent exposed) (values name exposed)

/-- What is left out of the names of values is mentioned by a template. -/
theorem mentioned_of_mem_otherWords (target : Target) : ∀ word ∈ target.otherWords,
    ∃ template ∈ target.dialect.templates.ofMethod, word ∈ target.wordsOf template := by
  -- in the template of a query parameter, or in that of a method
  let sent : List String := ["safe", "format"]
  have query : target.otherWords.filter (sent.contains ·) ⊆
      target.wordsOf target.dialect.templates.queryParam := by
    cases target
    all_goals
      apply subset_wordsOf
      · repeat first | exact .nil | apply Spelled.slot | apply Spelled.text rfl
      · decide +kernel
      · decide
  have method : target.otherWords.filter (!sent.contains ·) ⊆
      target.wordsOf target.dialect.templates.method := by
    cases target
    all_goals
      apply subset_wordsOf
      · repeat first | exact .nil | apply Spelled.slot | apply Spelled.text rfl
      · decide +kernel
      · decide
  intro word hw
  by_cases there : sent.contains word = true
  · exact ⟨_, .tail _ (.tail _ (.head _)), query (List.mem_filter.mpr ⟨hw, there⟩)⟩
  · exact ⟨_, .head _, method (List.mem_filter.mpr ⟨hw, by simpa using there⟩)⟩

/-- **The words that a method mentions** are the names of values, and those left out for meaning
none where they stand. -/
theorem mentioned_iff (target : Target) (word : String) :
    (∃ template ∈ target.dialect.templates.ofMethod, word ∈ target.wordsOf template) ↔
      word ∈ target.valueNames ∨ word ∈ target.otherWords := by
  constructor
  · rintro ⟨template, ht, hw⟩
    by_cases other : word ∈ target.otherWords
    · exact .inr other
    · have value : word ∈ target.namesOf template :=
        List.mem_filter.mpr ⟨hw, by simpa using other⟩
      exact .inl (List.mem_flatMap.mpr ⟨template, ht, value⟩)
  · rintro (value | other)
    · obtain ⟨template, ht, hw⟩ := List.mem_flatMap.mp value
      exact ⟨template, ht, (List.mem_filter.mp hw).1⟩
    · exact mentioned_of_mem_otherWords target word other

/-- What is said of the names in a row may be said of its texts spelled out. -/
theorem forall_namesOf_of_spelled {target : Target} {template : Template} {woven : Woven}
    {P : String → Prop}
    (spelled : Spelled (fun _ => true) (template.bothRows.map Fragment.piece) woven)
    (all : ∀ name ∈ namesIn (knownCode target.hash .code woven),
      target.otherWords.contains name = true ∨ P name) :
    ∀ name ∈ target.namesOf template, P name := by
  intro name hn
  obtain ⟨there, other⟩ := List.mem_filter.mp hn
  rw [Target.wordsOf, outline_bothRows spelled, ← knownCode_eq] at there
  exact (all name there).resolve_left (by simpa using other)

/-- A name that a method mentions shows no change, and it is kept from arguments or exposed. -/
structure Settled (target : Target) (name : String) : Prop where
  unchanged : Unchanged name
  own : name ≠ "arg" ∧ name ≠ "body"
  kept : name.toList.head?.any Char.isUpper = true ∨ name ∈ target.exposed ∨
    name ∈ target.dialect.reserved

instance (target : Target) (name : String) : Decidable (Settled target name) :=
  decidable_of_iff (_ ∧ _ ∧ _) ⟨fun h => ⟨h.1, h.2.1, h.2.2⟩, fun h => ⟨h.1, h.2, h.3⟩⟩

theorem settled_valueNames (target : Target) : ∀ name ∈ target.valueNames, Settled target name := by
  refine List.forall_mem_flatMap.mpr ?_
  simp only [TemplateSet.ofMethod, List.forall_mem_cons]
  refine ⟨?_, ?_, ?_, ?_, fun _ none => nomatch none⟩ <;> cases target
  all_goals
    apply forall_namesOf_of_spelled
    · repeat first | exact .nil | apply Spelled.slot | apply Spelled.text rfl
    · decide +kernel

/-- An exposed name is spelled as it is. -/
theorem spell_exposed (target : Target) :
    ∀ name ∈ target.exposed, spell target.dialect.reserved "arg" name = name := by
  cases target <;> decide

/-! ## 2. Arguments by their names -/

/-- No argument is converted to a name that begins with a capital. -/
theorem argumentCase_head (target : Target) (name : String) :
    (target.dialect.argumentCase name).toList.head?.any Char.isUpper = false := by
  have small : ∀ c, (target.dialect.argumentCase name).toList.head? = some c →
      c.isUpper = false := by
    cases target with
    | go | java | typescript => exact fun _ => camelCase_head
    | python | rust => exact fun _ => snakeCase_head
  cases head : (target.dialect.argumentCase name).toList.head? with
  | none => rfl
  | some c => exact small c head

/-- What a parameter is spelled as is a name in its method, if not its own. -/
theorem spelled_mem_nameParameters (dialect : Dialect) (taken : Scope)
    {parameters : List Parameter} {parameter : Parameter} (hp : parameter ∈ parameters) :
    spell dialect.reserved "arg" (dialect.argumentCase parameter.name) ∈
      (nameParameters dialect taken parameters).2 := by
  induction parameters generalizing taken with
  | nil => cases hp
  | cons first rest ih =>
    rcases List.mem_cons.mp hp with rfl | later
    · have here := spelled_mem_claim dialect.reserved "arg" (dialect.argumentCase parameter.name)
        taken
      show _ ∈ (nameParameters dialect (claim dialect.reserved "arg"
        (dialect.argumentCase parameter.name) taken).2 rest).2
      rw [nameParameters_scope]
      exact List.mem_append_right _ here
    · exact ih _ later

/-- The names of the arguments of a method are those of its parameters, and that of the body. -/
theorem exists_argument_iff (target : Target) {operation : Operation} (formed : Formed operation)
    (scope : Scope) {name : String} (other : name ≠ "body") :
    (∃ argument ∈ (Method.ofOperation target.dialect operation scope).1.arguments,
        argument.name = name) ↔
      name ∈ (nameParameters target.dialect [] (operation.parameters.filter takesName)).2 := by
  have perm := (ordered_ofOperation target formed scope).perm
    (pathRequired_ofOperation target formed scope)
  rw [nameParameters_scope, List.append_nil, List.mem_reverse, List.mem_map]
  constructor
  · rintro ⟨argument, ha, rfl⟩
    rcases List.mem_append.mp (perm.mem_iff.mp ha) with body | parameter
    · exact absurd (optional_bodyArgument argument body).1 other
    · obtain ⟨named, hn, rfl⟩ := List.mem_map.mp parameter
      exact ⟨named, hn, rfl⟩
  · rintro ⟨named, hn, rfl⟩
    exact ⟨_, perm.mem_iff.mpr (List.mem_append_right _ (List.mem_map_of_mem hn)), rfl⟩

/-! ## 3. Captured names -/

/-- **An argument takes the name of a value that its method mentions** just if nothing keeps it and
a parameter is called so. -/
theorem captured_iff {document : Document} {filter : Option TextSet} {operation : Operation}
    (h : operation ∈ document.extract filter) (target : Target) (scope : Scope) {name : String}
    (mentioned : name ∈ target.valueNames) :
    (∃ argument ∈ (Method.ofOperation target.dialect operation scope).1.arguments,
        argument.name = name) ↔
      name ∈ target.exposed ∧ ∃ parameter ∈ operation.parameters, takesName parameter = true ∧
        target.dialect.argumentCase parameter.name = name := by
  have settled := settled_valueNames target name mentioned
  rw [exists_argument_iff target (formed_of_extract h) scope settled.own.2]
  constructor
  · intro there
    rw [nameParameters_scope, List.append_nil, List.mem_reverse] at there
    obtain ⟨named, hn, rfl⟩ := List.mem_map.mp there
    obtain ⟨hp, scope, claimed⟩ := exists_claim_of_named hn
    obtain ⟨declared, takes⟩ := List.mem_filter.mp hp
    have converted : target.dialect.argumentCase named.parameter.name = named.name :=
      settled.unchanged.of_claim settled.own.1.symm claimed.symm
    refine ⟨?_, named.parameter, declared, takes, converted⟩
    rcases settled.kept with capital | exposed | reserved
    · rw [← converted, argumentCase_head] at capital
      cases capital
    · exact exposed
    · exact absurd reserved (clear_nameParameters target hn).2
  · rintro ⟨exposed, parameter, hp, takes, rfl⟩
    have there := spelled_mem_nameParameters target.dialect [] (List.mem_filter.mpr ⟨hp, takes⟩)
    rwa [spell_exposed target _ exposed] at there

/-- The operation of `petDocument`. -/
def petOperation (name : String) : Operation where
  id := "getPet"
  verb := .get
  path := "/pets/\x7bid\x7d"
  summary := none
  tags := []
  hasBody := false
  bodyType := none
  parameters := [⟨name, .unknown, .path, true⟩]
  reply := .void

/-- A parameter called like a helper that is reserved takes another name. -/
theorem encode_not_captured :
    petOperation "encode" ∈ (petDocument "encode").extract none ∧
      "encode" ∈ Target.java.valueNames ∧
      ¬∃ argument ∈ (Method.ofOperation Target.java.dialect (petOperation "encode") []).1.arguments,
        argument.name = "encode" := by
  have extracted : petOperation "encode" ∈ (petDocument "encode").extract none := .head _
  have sent : ["encode"] ⊆ Target.java.wordsOf Target.java.dialect.templates.queryParam := by
    apply subset_wordsOf
    · repeat first | exact .nil | apply Spelled.slot | apply Spelled.text rfl
    · decide +kernel
    · decide
  have mentioned : "encode" ∈ Target.java.valueNames :=
    mem_valueNames_of_query (sent (.head _)) List.not_mem_nil
  refine ⟨extracted, mentioned, fun captured => ?_⟩
  exact nomatch ((captured_iff extracted .java [] mentioned).mp captured).1

/-- **A parameter called `str` takes the place of the function that makes a text of it.** -/
theorem str_captured :
    petOperation "str" ∈ (petDocument "str").extract none ∧
      "str" ∈ Target.python.valueNames ∧
      ∃ argument ∈ (Method.ofOperation Target.python.dialect (petOperation "str") []).1.arguments,
        argument.name = "str" :=
  ⟨.head _, exposed_subset .python (.head _), _, .head _, by decide⟩

end Covenant.Client
