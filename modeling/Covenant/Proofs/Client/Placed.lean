import Covenant.Proofs.Client.Context
import Covenant.Proofs.Client.Listing
import Covenant.Proofs.Client.Setting
/-!
# Where texts of a contract stand

Whatever a contract says, its texts stand in strings and comments of the client module as inline
texts and as words, but for one: a placeholder holds the name of a path parameter as it is declared.

* `forall_pathParam_iff` and `forall_wire`: what stands in the statements that send parameters.
* `method_placed`: the texts of a method, but for its placeholders, are inline or code.
* `client_placed`: so are those of a client module.
-/

namespace Covenant.Client

open Covenant.Contract Covenant.Json Covenant.Naming Covenant.Text

/-! ## 1. Rows -/

section

variable {hash : Bool} {slots : Setting → List String} {row : List Fragment}
  {into : String → Woven} {P : Setting × String → Prop}

/-- What holds of the texts that come into each slot holds of all texts of a filled row. -/
theorem Keeps.forall_placed (h : Keeps hash slots (outline row))
    (steady : ∀ setting, ∀ name ∈ slots setting, ending hash setting (into name) = setting)
    (all : ∀ setting, ∀ name ∈ slots setting, ∀ site ∈ placed hash setting (into name), P site) :
    ∀ site ∈ placed hash .code (weave into row), P site := by
  rw [(h.placed_weave steady).1]
  intro site hs
  obtain ⟨slot, found, within⟩ := List.mem_flatMap.mp hs
  exact all _ _ (h.sites slot found) site within

/-- If one slot is left open, it decides. -/
theorem Keeps.forall_placed_iff (h : Keeps hash slots (outline row))
    (steady : ∀ setting, ∀ name ∈ slots setting, ending hash setting (into name) = setting)
    {name : String} (used : .slot name ∈ row) (setting : Setting)
    (alone : ∀ found, name ∈ slots found → found = setting)
    (others : ∀ found, ∀ other ∈ slots found, other ≠ name →
      ∀ site ∈ placed hash found (into other), P site) :
    (∀ site ∈ placed hash .code (weave into row), P site) ↔
      ∀ site ∈ placed hash setting (into name), P site := by
  constructor
  · intro all site hs
    obtain ⟨found, there⟩ : ∃ found, (found, name) ∈ placed hash .code (outline row) :=
      exists_placed_of_slot used
    obtain rfl := alone found (h.sites _ there)
    refine all site ?_
    rw [(h.placed_weave steady).1]
    exact List.mem_flatMap.mpr ⟨_, there, hs⟩
  · intro all
    refine h.forall_placed steady fun found other ho => ?_
    by_cases same : other = name
    · subst same
      obtain rfl := alone found ho
      exact all
    · exact others found other ho same

end

/-! ## 2. Statements that send parameters -/

section

variable {hash : Bool} {slots : Setting → List String} {template : Template}
  (keeps : ∀ chosen, Keeps hash slots (outline (template.row chosen)))
include keeps

theorem ending_sending (parameters : List NamedParameter) :
    ending hash .code (sending template parameters) = .code :=
  ending_flatMap fun _ _ => ((keeps _).placed_weave fun _ _ _ => rfl).2

theorem forall_sending_iff {P : Setting × String → Prop} (parameters : List NamedParameter) :
    (∀ site ∈ placed hash .code (sending template parameters), P site) ↔
      ∀ named ∈ parameters, ∀ site ∈ placed hash .code (template.weave named.bindings []),
        P site := by
  have each : ∀ named ∈ parameters,
      ending hash .code (template.weave named.bindings []) = .code :=
    fun _ _ => ((keeps _).placed_weave fun _ _ _ => rfl).2
  rw [sending, placed_flatMap each, List.forall_mem_flatMap]

end

section

variable {P : Setting × String → Prop} (code : ∀ text, P (.code, text))
include code

/-- The placeholder of a path parameter stands between quotes; everything else is code. -/
theorem forall_pathParam_iff (target : Target) (named : NamedParameter) :
    (∀ site ∈ placed target.hash .code
        (target.dialect.templates.pathParam.weave named.bindings []), P site) ↔
      P (.quoted, "\x7b" ++ named.parameter.name ++ "\x7d") := by
  have used : .slot "placeholder" ∈ target.dialect.templates.pathParam := by
    cases target <;> decide
  have keeps := keeps_pathParam target (chosenBy named.bindings)
  refine (keeps.forall_placed_iff (fun _ _ _ => rfl) (slot_mem_row used _) .quoted ?_ ?_).trans ?_
  · intro found
    cases found <;> simp [sendingSlots]
  · intro found other ho different
    cases found <;> simp_all [sendingSlots, boundTo, placed]
  · simp [boundTo, NamedParameter.bindings, placed, TextMap.lookup_cons_eq_ite, slotText]

variable (inline : ∀ setting (text : String), IsInline text.toList → P (setting, text))
include inline

/-- A parameter of a query or a header is sent by its inlined name. -/
theorem forall_wire {hash : Bool} {template : Template}
    (keeps : ∀ chosen, Keeps hash (sendingSlots "wire") (outline (template.row chosen)))
    (named : NamedParameter) :
    ∀ site ∈ placed hash .code (template.weave named.bindings []), P site := by
  refine (keeps _).forall_placed (fun _ _ _ => rfl) fun setting name hn => ?_
  cases setting with
  | code => simp [boundTo, placed, code]
  | quoted =>
    obtain rfl := List.mem_singleton.mp hn
    have wire := inline .quoted _ (inlineText_isInline named.parameter.name)
    simpa [boundTo, NamedParameter.bindings, placed, TextMap.lookup_cons_eq_ite, slotText]
      using wire
  | slash | escaped | line | block | star => cases hn

end

/-! ## 3. Methods -/

/-- The texts of a method are inline. -/
structure Method.Inlined (method : Method) : Prop where
  name : IsInline method.name.toList
  doc : IsInline method.doc.toList
  path : IsInline method.path.toList
  verb : IsInline method.verb.toList

theorem ofWordChars_methodCase (target : Target) (name : String) :
    OfWordChars (target.dialect.methodCase name) := by
  cases target with
  | go => exact ofWordChars_pascalCase name
  | java | typescript => exact ofWordChars_camelCase name
  | python | rust => exact ofWordChars_snakeCase name

/-- A method says what it does in a summary or by its verb and path. -/
theorem isInline_methodDoc (operation : Operation) : IsInline (methodDoc operation).toList := by
  unfold methodDoc
  cases said : summaryText? operation with
  | some summary => exact isInline_summaryText said
  | none =>
    have spaced := (isInline_verb operation.verb).spaced (inlineText_isInline operation.path)
    simpa using spaced

/-- **The texts of every method are inline.** -/
theorem inlined_ofOperation (target : Target) (operation : Operation) (scope : Scope) :
    (Method.ofOperation target.dialect operation scope).1.Inlined where
  name := (ofWordChars_claim (ofWordChars_methodCase target _) (by decide) _).isInline
  doc := isInline_methodDoc operation
  path := inlineText_isInline operation.path
  verb := isInline_verb operation.verb

theorem map_parameter_nameParameters (dialect : Dialect) (taken : Scope)
    (parameters : List Parameter) :
    (nameParameters dialect taken parameters).1.map (·.parameter) = parameters := by
  induction parameters generalizing taken with
  | nil => rfl
  | cons first rest ih => exact congrArg (first :: ·) (ih _)

/-- The parameters of a method at a location, but for cookies, are those of its operation. -/
theorem map_parameter_atLocation (dialect : Dialect) (operation : Operation) (scope : Scope)
    {location : Location} (sent : location ≠ .cookie) :
    (atLocation location (Method.ofOperation dialect operation scope).1.parameters).map
      (·.parameter) = operation.parametersIn location := by
  have named : (Method.ofOperation dialect operation scope).1.parameters =
      (nameParameters dialect [] (operation.parameters.filter takesName)).1 := rfl
  have takes : ∀ parameter ∈ operation.parameters,
      (parameter.location == location && takesName parameter) =
        (parameter.location == location) := by
    intro parameter _
    by_cases here : parameter.location = location
    · simpa [takesName, here] using sent
    · simp [here]
  have located : ∀ named : List NamedParameter, (atLocation location named).map (·.parameter) =
      (named.map (·.parameter)).filter (·.location == location) := fun named => by
    rw [atLocation, List.filter_map]
    rfl
  rw [located, named, map_parameter_nameParameters, List.filter_filter, Operation.parametersIn]
  exact List.filter_congr takes

/-- What holds of the method of an operation holds of all methods. -/
theorem forall_methodsOf_iff {P : Method → Prop} {Q : Operation → Prop} {dialect : Dialect}
    (h : ∀ operation scope, P (Method.ofOperation dialect operation scope).1 ↔ Q operation)
    {scope : Scope} {operations : List Operation} :
    (∀ method ∈ methodsOf dialect scope operations, P method) ↔
      ∀ operation ∈ operations, Q operation := by
  induction operations generalizing scope with
  | nil => simp [methodsOf]
  | cons first rest ih => simp only [methodsOf, List.forall_mem_cons, h, ih]

section

variable {P : Setting × String → Prop} (code : ∀ text, P (.code, text))
  (inline : ∀ setting (text : String), IsInline text.toList → P (setting, text))

/-- What comes into the slots of a method leaves the setting as it is. -/
theorem method_steady (target : Target) (method : Method) (bindings : Bindings) :
    ∀ setting, ∀ name ∈ methodSlots setting,
      ending target.hash setting
        (boundTo bindings (method.sendings target.dialect.templates) name) = setting := by
  intro setting name hn
  cases setting with
  | code =>
    rcases boundTo_cases bindings (method.sendings target.dialect.templates) name with given | taken
    · simp only [Method.sendings, List.mem_cons, Prod.mk.injEq, List.not_mem_nil, or_false] at given
      rcases given with ⟨_, woven⟩ | ⟨_, woven⟩ | ⟨_, woven⟩ <;> rw [Method.sendings, woven]
      · exact ending_sending (keeps_pathParam target) _
      · exact ending_sending (keeps_queryParam target) _
      · exact ending_sending (keeps_headerParam target) _
    · rw [taken]
      rfl
  | quoted | line | block =>
    simp only [methodSlots, List.mem_cons, List.not_mem_nil, or_false] at hn
    rcases hn with rfl | rfl | rfl <;> rfl
  | slash | escaped | star => cases hn

include code inline

/-- Texts of a method that are no statement of a path parameter stand safe where they stand. -/
theorem method_others (target : Target) (context : EmitContext) {method : Method}
    (inlined : method.Inlined) (path query header : String) :
    ∀ found, ∀ other ∈ methodSlots found, other ≠ "path_params" →
      ∀ site ∈ placed target.hash found
        (boundTo (method.bindings target.dialect context path query header)
          (method.sendings target.dialect.templates) other), P site := by
  intro found other ho different
  have taken : ∀ name ∈ ["name", "doc", "path", "verb"], ∃ text : String, IsInline text.toList ∧
      boundTo (method.bindings target.dialect context path query header)
        (method.sendings target.dialect.templates) name = [.taken text] := by
    simp only [List.forall_mem_cons]
    exact ⟨⟨_, inlined.name, rfl⟩, ⟨_, inlined.doc, rfl⟩, ⟨_, inlined.path, rfl⟩,
      ⟨_, inlined.verb, rfl⟩, fun _ none => nomatch none⟩
  have safe : ∀ name ∈ ["name", "doc", "path", "verb"], ∀ site ∈ placed target.hash found
      (boundTo (method.bindings target.dialect context path query header)
        (method.sendings target.dialect.templates) name), P site := by
    intro name hn
    obtain ⟨text, inlined, one⟩ := taken name hn
    simp [one, placed, inline _ _ inlined]
  cases found with
  | code =>
    rcases boundTo_cases (method.bindings target.dialect context path query header)
      (method.sendings target.dialect.templates) other with given | one
    · simp only [Method.sendings, List.mem_cons, Prod.mk.injEq, List.not_mem_nil, or_false] at given
      rcases given with ⟨path, _⟩ | ⟨_, woven⟩ | ⟨_, woven⟩
      · exact absurd path different
      · rw [Method.sendings, woven]
        exact (forall_sending_iff (keeps_queryParam target) _).mpr fun named _ =>
          forall_wire code inline (keeps_queryParam target) named
      · rw [Method.sendings, woven]
        exact (forall_sending_iff (keeps_headerParam target) _).mpr fun named _ =>
          forall_wire code inline (keeps_headerParam target) named
    · simp [one, placed, code]
  | quoted =>
    have listed : ["doc", "path", "verb"] ⊆ ["name", "doc", "path", "verb"] := by decide
    exact safe other (listed ho)
  | line | block =>
    have listed : ["name", "doc"] ⊆ ["name", "doc", "path", "verb"] := by decide
    exact safe other (listed ho)
  | slash | escaped | star => cases ho

/-- **The texts of a method stand safe where they stand, but for its placeholders.** -/
theorem method_placed (target : Target) (context : EmitContext) {method : Method}
    (inlined : method.Inlined) :
    ((∀ site ∈ placed target.hash .code (trimmed (method.weave target.dialect context)), P site) ↔
      ∀ named ∈ atLocation .path method.parameters,
        P (.quoted, "\x7b" ++ named.parameter.name ++ "\x7d")) ∧
    ending target.hash .code (trimmed (method.weave target.dialect context)) = .code := by
  obtain ⟨path, query, header, woven⟩ : ∃ path query header,
      method.weave target.dialect context = target.dialect.templates.method.weave
        (method.bindings target.dialect context path query header)
        (method.sendings target.dialect.templates) :=
    ⟨_, _, _, rfl⟩
  generalize bound : method.bindings target.dialect context path query header = bindings at woven
  obtain ⟨shorter, trims, same⟩ := (endsSolid_method target (chosenBy bindings)).exists_trimmed
  have keeps := keeps_method target (chosenBy bindings)
  rw [outline, trims] at keeps
  rw [woven, Template.weave, trims]
  have used : .slot "path_params" ∈ target.dialect.templates.method := by
    cases target <;> decide
  have steady := method_steady target method bindings
  have others := bound ▸ method_others code inline target context inlined path query header
  refine ⟨(keeps.forall_placed_iff steady (same _ (slot_mem_row used _)) .code ?_ others).trans ?_,
    (keeps.placed_weave steady).2⟩
  · intro found
    cases found <;> simp [methodSlots]
  · have statements : boundTo bindings (method.sendings target.dialect.templates) "path_params" =
        sending target.dialect.templates.pathParam (atLocation .path method.parameters) := rfl
    rw [statements, forall_sending_iff (keeps_pathParam target)]
    simp only [forall_pathParam_iff code]

/-! ## 4. Client modules -/

omit code inline in
/-- What is put between stretches that end in code, and is code, does not change where they
stand. -/
theorem placed_intercalate {hash : Bool} {sep : List Char}
    (stays : sep.foldl (Setting.next hash) .code = .code) {wovens : List Woven}
    (each : ∀ woven ∈ wovens, ending hash .code woven = .code) :
    placed hash .code ([Stretch.own sep].intercalate wovens) =
        wovens.flatMap (placed hash .code) ∧
      ending hash .code ([Stretch.own sep].intercalate wovens) = .code := by
  induction wovens with
  | nil => exact ⟨rfl, rfl⟩
  | cons first rest ih =>
    obtain ⟨texts, last⟩ := ih fun woven hw => each woven (List.mem_cons_of_mem _ hw)
    have here := each first List.mem_cons_self
    cases rest with
    | nil => simp [here]
    | cons second more =>
      rw [List.intercalate_cons_cons]
      simp [here, placed, ending, stays, texts, last]

theorem methods_placed (target : Target) (context : EmitContext) (operations : List Operation) :
    ((∀ site ∈ placed target.hash .code (weaveMethods target.dialect context
        (methodsOf target.dialect [] operations)), P site) ↔
      ∀ operation ∈ operations, ∀ parameter ∈ operation.parametersIn .path,
        P (.quoted, "\x7b" ++ parameter.name ++ "\x7d")) ∧
    ending target.hash .code (weaveMethods target.dialect context
      (methodsOf target.dialect [] operations)) = .code := by
  have stays : ∀ hash, ['\n', '\n'].foldl (Setting.next hash) .code = .code := by decide
  have inlined : ∀ method ∈ methodsOf target.dialect [] operations, method.Inlined :=
    (forall_methodsOf_iff fun operation scope =>
      ⟨fun _ => trivial, fun _ => inlined_ofOperation target operation scope⟩).mpr
      fun _ _ => trivial
  have each : ∀ woven ∈ (methodsOf target.dialect [] operations).map fun method =>
      trimmed (method.weave target.dialect context), ending target.hash .code woven = .code := by
    simp only [List.forall_mem_map]
    exact fun method hm => (method_placed code inline target context (inlined method hm)).2
  obtain ⟨texts, last⟩ := placed_intercalate (stays target.hash) each
  refine ⟨?_, last⟩
  rw [weaveMethods, texts, List.forall_mem_flatMap, List.forall_mem_map]
  refine forall_methodsOf_iff fun operation scope => ?_
  rw [(method_placed code inline target context (inlined_ofOperation target operation scope)).1,
    ← map_parameter_atLocation target.dialect operation scope (by decide), List.forall_mem_map]

omit code in
theorem aliases_placed (target : Target) {names : List String}
    (words : ∀ name ∈ names, OfWordChars name) :
    (∀ site ∈ placed target.hash .code (weaveAliases target names), P site) ∧
      ending target.hash .code (weaveAliases target names) = .code := by
  have keeps := keeps_alias target
  have each : ∀ name ∈ names, ending target.hash .code
      (weave (fun _ => [.taken name]) target.aliasRow) = .code :=
    fun name _ => (keeps.placed_weave fun _ _ _ => rfl).2
  have closed : target.aliasEnd.foldl (Setting.next target.hash) .code = .code := by
    cases target <;> decide
  unfold weaveAliases
  split
  · exact ⟨fun _ none => (nomatch none), rfl⟩
  · rw [placed_append, ending_append, placed_flatMap each, ending_flatMap each]
    refine ⟨?_, closed⟩
    simp only [placed, List.append_nil, List.forall_mem_flatMap]
    refine fun name hn => keeps.forall_placed (fun _ _ _ => rfl) fun setting _ _ => ?_
    simp [placed, inline _ _ (words name hn).isInline]

omit code inline in
/-- What comes into the slots of a client module leaves the setting as it is. -/
theorem client_steady (target : Target) (context : EmitContext) (bindings : Bindings)
    {operations : List Operation}
    (words : ∀ name ∈ (referencedNames operations).toList, OfWordChars name) :
    ∀ setting, ∀ name ∈ clientSlots setting, ending target.hash setting
      (boundTo bindings (fileParts target operations context) name) = setting := by
  intro setting name hn
  cases setting with
  | code =>
    rcases boundTo_cases bindings (fileParts target operations context) name with given | taken
    · simp only [fileParts, List.mem_cons, Prod.mk.injEq, List.not_mem_nil, or_false] at given
      rcases given with ⟨_, woven⟩ | ⟨_, woven⟩ <;> rw [fileParts, woven]
      · exact (methods_placed (P := fun _ => True) (fun _ => trivial) (fun _ _ _ => trivial) target
          context operations).2
      · exact (aliases_placed (P := fun _ => True) (fun _ _ _ => trivial) target words).2
    · rw [taken]
      rfl
  | quoted =>
    obtain rfl := List.mem_singleton.mp hn
    rfl
  | line | block =>
    simp only [clientSlots, List.mem_cons, List.not_mem_nil, or_false] at hn
    rcases hn with rfl | rfl | rfl | rfl <;> rfl
  | slash | escaped | star => cases hn

/-- Texts of a client module that are no methods stand safe where they stand. -/
theorem client_others (target : Target) {context : EmitContext} (well : context.WellFormed)
    {operations : List Operation}
    (words : ∀ name ∈ (referencedNames operations).toList, OfWordChars name)
    (methods : List String) :
    ∀ found, ∀ other ∈ clientSlots found, other ≠ "methods" →
      ∀ site ∈ placed target.hash found
        (boundTo (fileBindings target.dialect operations context methods)
          (fileParts target operations context) other), P site := by
  intro found other ho different
  have taken : ∀ name ∈ ["title", "version", "class_name", "base_url"],
      ∃ text : String, IsInline text.toList ∧
        boundTo (fileBindings target.dialect operations context methods)
          (fileParts target operations context) name = [.taken text] := by
    simp only [List.forall_mem_cons]
    exact ⟨⟨_, well.title, rfl⟩, ⟨_, well.version, rfl⟩, ⟨_, well.ofWordChars.isInline, rfl⟩,
      ⟨_, well.baseUrl, rfl⟩, fun _ none => nomatch none⟩
  have safe : ∀ name ∈ ["title", "version", "class_name", "base_url"],
      ∀ site ∈ placed target.hash found
        (boundTo (fileBindings target.dialect operations context methods)
          (fileParts target operations context) name), P site := by
    intro name hn
    obtain ⟨text, inlined, one⟩ := taken name hn
    simp [one, placed, inline _ _ inlined]
  cases found with
  | code =>
    rcases boundTo_cases (fileBindings target.dialect operations context methods)
      (fileParts target operations context) other with given | one
    · simp only [fileParts, List.mem_cons, Prod.mk.injEq, List.not_mem_nil, or_false] at given
      rcases given with ⟨methods, _⟩ | ⟨_, woven⟩
      · exact absurd methods different
      · rw [fileParts, woven]
        exact (aliases_placed inline target words).1
    · simp [one, placed, code]
  | quoted =>
    obtain rfl := List.mem_singleton.mp ho
    exact safe "base_url" (by decide)
  | line | block => exact safe other ho
  | slash | escaped | star => cases ho

/-- **The texts of a client module stand safe where they stand, but for placeholders.** -/
theorem client_placed (target : Target) {context : EmitContext} (well : context.WellFormed)
    {operations : List Operation}
    (words : ∀ name ∈ (referencedNames operations).toList, OfWordChars name) :
    (∀ site ∈ placed target.hash .code
        (weaveFile target operations context target.dialect.templates.client), P site) ↔
      ∀ operation ∈ operations, ∀ parameter ∈ operation.parametersIn .path,
        P (.quoted, "\x7b" ++ parameter.name ++ "\x7d") := by
  have used : .slot "methods" ∈ target.dialect.templates.client := by
    cases target <;> decide
  refine ((keeps_client target _).forall_placed_iff (client_steady target context _ words)
    (slot_mem_row used _) .code ?_ (client_others code inline target well words _)).trans ?_
  · intro found
    cases found <;> simp [clientSlots]
  · exact (methods_placed code inline target context operations).1

end

/-- A placeholder stands between quotes as the parameter is declared, inline or not. -/
theorem placeholder_placed (target : Target) {context : EmitContext} (well : context.WellFormed)
    {operations : List Operation}
    (words : ∀ name ∈ (referencedNames operations).toList, OfWordChars name)
    {operation : Operation} (ho : operation ∈ operations) {parameter : Parameter}
    (hp : parameter ∈ operation.parametersIn .path)
    (loose : ¬IsInline ("\x7b" ++ parameter.name ++ "\x7d").toList) :
    (.quoted, "\x7b" ++ parameter.name ++ "\x7d") ∈ placed target.hash .code
      (weaveFile target operations context target.dialect.templates.client) := by
  by_contra absent
  have different : ∀ site ∈ placed target.hash .code
      (weaveFile target operations context target.dialect.templates.client),
      site ≠ (.quoted, "\x7b" ++ parameter.name ++ "\x7d") := fun site hs same => absent (same ▸ hs)
  refine (client_placed (fun _ => by simp) ?_ target well words).mp different operation ho parameter
    hp rfl
  rintro setting text inlined same
  exact loose ((Prod.mk.inj same).2 ▸ inlined)

end Covenant.Client
