import Covenant.Proofs.Client.Placed
import Covenant.Proofs.Naming.Identifier
/-!
# Signatures

Whatever a contract calls its operations and parameters, the methods of its client can be declared
and called.

* `Formed` is what extraction makes sure of: a parameter has a known location, and one in a path is
  required.
* `nameParameters_nodup`: the names in one method are different, and `methodsOf_names` the same of
  the methods of a client.
* `Sends` is said of the statement for one parameter: it names the parameter, uses the argument and
  asks first whether the argument is there just if it may be absent.
* `IsSignature` is said of a method and its operation, and `methodsOf_signed` of every client.
-/

namespace Covenant.Client

open Covenant.Contract Covenant.Json Covenant.Naming Covenant.Text

/-! ## 1. Extracted operations -/

/-- The parameters of an operation have known locations, and those in the path are required. -/
structure Formed (operation : Operation) : Prop where
  known : ∀ parameter ∈ operation.parameters, parameter.location ≠ .other
  required : ∀ parameter ∈ operation.parameters,
    parameter.location = .path → parameter.required = true

theorem formed_ofDeclaration {declaration : ParameterDeclaration} {parameter : Parameter}
    (h : Parameter.ofDeclaration? declaration = some parameter) :
    parameter.location ≠ .other ∧ (parameter.location = .path → parameter.required = true) := by
  unfold Parameter.ofDeclaration? at h
  split at h
  · cases h
  · rename_i known _ _
    obtain rfl := Option.some.inj h
    refine ⟨fun other => known ?_, fun path => by simp_all⟩
    simp_all
  · cases h

/-- **What is extracted from a contract is formed.** -/
theorem formed_of_extract {document : Document} {filter : Option TextSet} {operation : Operation}
    (h : operation ∈ document.extract filter) : Formed operation := by
  obtain ⟨entry, _, declaration, _, made⟩ := exists_declaration_of_extract h
  have each : ∀ parameter ∈ operation.parameters,
      parameter.location ≠ .other ∧ (parameter.location = .path → parameter.required = true) := by
    intro parameter hp
    rw [made.parameters] at hp
    obtain ⟨_, _, declared⟩ := exists_declaration_of_merged hp
    exact formed_ofDeclaration declared
  exact ⟨fun parameter hp => (each parameter hp).1, fun parameter hp => (each parameter hp).2⟩

/-! ## 2. Names -/

theorem ofWordChars_argumentCase (target : Target) (name : String) :
    OfWordChars (target.dialect.argumentCase name) := by
  cases target with
  | go | java | typescript => exact ofWordChars_camelCase name
  | python | rust => exact ofWordChars_snakeCase name

theorem endsInLetter_reserved (target : Target) :
    (∀ word ∈ target.dialect.reserved, endsInLetter word = true) ∧
      ∀ word ∈ target.dialect.methodReserved, endsInLetter word = true := by
  cases target <;> decide +kernel

/-- No parameter can take the name of the body argument. -/
theorem body_reserved (target : Target) : "body" ∈ target.dialect.reserved := by
  cases target <;> decide

/-- The names of parameters are added to the scope, the latest first. -/
theorem nameParameters_scope (dialect : Dialect) (taken : Scope) (parameters : List Parameter) :
    (nameParameters dialect taken parameters).2 =
      ((nameParameters dialect taken parameters).1.map (·.name)).reverse ++ taken := by
  induction parameters generalizing taken with
  | nil => rfl
  | cons first rest ih =>
    simp only [nameParameters, List.map_cons, List.reverse_cons, List.append_assoc]
    exact ih _

/-- **All names of a scope stay different.** -/
theorem nameParameters_nodup (dialect : Dialect) {taken : Scope} (different : taken.Nodup)
    (parameters : List Parameter) : (nameParameters dialect taken parameters).2.Nodup := by
  induction parameters generalizing taken with
  | nil => exact different
  | cons first rest ih =>
    have fresh := claim_fresh dialect.reserved "arg" (dialect.argumentCase first.name) taken
    exact ih (List.nodup_cons.mpr ⟨fresh, different⟩)

/-- Each name was claimed for a parameter. -/
theorem exists_claim_of_named {dialect : Dialect} {taken : Scope} {parameters : List Parameter}
    {named : NamedParameter} (hn : named ∈ (nameParameters dialect taken parameters).1) :
    named.parameter ∈ parameters ∧ ∃ scope, named.name =
      (claim dialect.reserved "arg" (dialect.argumentCase named.parameter.name) scope).1 := by
  induction parameters generalizing taken with
  | nil => cases hn
  | cons first rest ih =>
    rcases List.mem_cons.mp hn with rfl | later
    · exact ⟨.head _, taken, rfl⟩
    · exact (ih later).imp (.tail _) id

/-- Parameters are named by identifiers that are not reserved. -/
theorem clear_nameParameters (target : Target) {taken : Scope} {parameters : List Parameter}
    {named : NamedParameter} (hn : named ∈ (nameParameters target.dialect taken parameters).1) :
    IsIdentifier named.name ∧ named.name ∉ target.dialect.reserved := by
  obtain ⟨_, scope, claimed⟩ := exists_claim_of_named hn
  rw [claimed]
  exact ⟨isIdentifier_claim (ofWordChars_argumentCase target _) (by decide) scope,
    claim_notMem_reserved (endsInLetter_reserved target).1 _ _ scope⟩

/-- The methods of a client have different names that are not taken. -/
theorem methodsOf_names (dialect : Dialect) {scope : Scope} (operations : List Operation) :
    ((methodsOf dialect scope operations).map (·.name)).Nodup ∧
      ∀ method ∈ methodsOf dialect scope operations, method.name ∉ scope := by
  induction operations generalizing scope with
  | nil => exact ⟨.nil, fun _ none => nomatch none⟩
  | cons first rest ih =>
    have fresh : (Method.ofOperation dialect first scope).1.name ∉ scope := claim_fresh _ _ _ _
    obtain ⟨different, others⟩ := @ih (Method.ofOperation dialect first scope).2
    -- the scope of the other methods is the present one with the name of the first
    have grown : ∀ method ∈ methodsOf dialect (Method.ofOperation dialect first scope).2 rest,
        method.name ≠ (Method.ofOperation dialect first scope).1.name ∧ method.name ∉ scope :=
      fun method hm => not_or.mp (List.mem_cons.not.mp (others method hm))
    refine ⟨List.nodup_cons.mpr ⟨fun again => ?_, different⟩,
      List.forall_mem_cons.mpr ⟨fresh, fun method hm => (grown method hm).2⟩⟩
    obtain ⟨method, hm, same⟩ := List.mem_map.mp again
    exact (grown method hm).1 same

/-! ## 3. Arguments -/

/-- The argument for the body of an operation. -/
def bodyArgument (target : Target) (operation : Operation) : List Argument :=
  if operation.hasBody then
    [⟨"body", target.dialect.types.render (operation.bodyType.getD .unknown), false⟩]
  else []

/-- **The body argument is called so in every method.** -/
theorem claim_body (target : Target) (parameters : List Parameter) :
    (claim [] "body" "body" (nameParameters target.dialect [] parameters).2).1 = "body" := by
  have scope := nameParameters_scope target.dialect [] parameters
  have free : "body" ∉ (nameParameters target.dialect [] parameters).2 := by
    rw [scope, List.append_nil, List.mem_reverse, List.mem_map]
    rintro ⟨named, hn, same⟩
    exact (clear_nameParameters target hn).2 (same ▸ body_reserved target)
  have spelled : spell [] "body" "body" = "body" := by decide
  show firstFree _ (spell [] "body" "body") = "body"
  rw [spelled, firstFree, if_neg (by simpa using free)]

section

variable (target : Target) (operation : Operation) (scope : Scope)

theorem arguments_ofOperation :
    (Method.ofOperation target.dialect operation scope).1.arguments =
      let method := (Method.ofOperation target.dialect operation scope).1
      let argument := NamedParameter.argument target.dialect.types
      let others := method.parameters.filter fun named =>
        named.parameter.location == .query || named.parameter.location == .header
      (atLocation .path method.parameters).map argument ++ bodyArgument target operation ++
        (others.filter (·.parameter.required)).map argument ++
        (others.filter (fun named => !named.parameter.required)).map argument := by
  have named := claim_body target (operation.parameters.filter takesName)
  unfold bodyArgument
  cases has : operation.hasBody <;>
    simp [Method.ofOperation, argumentsOf, has, named]

theorem body_ofOperation :
    (Method.ofOperation target.dialect operation scope).1.body =
      if operation.hasBody then some "body" else none := by
  have named := claim_body target (operation.parameters.filter takesName)
  cases has : operation.hasBody <;> simp [Method.ofOperation, has, named]

end

/-- The parameters of a method are sent in paths, queries and headers, and those in paths are
required. -/
theorem located_parameters (target : Target) {operation : Operation} (formed : Formed operation)
    (scope : Scope) :
    ∀ named ∈ (Method.ofOperation target.dialect operation scope).1.parameters,
      (named.parameter.location == .query || named.parameter.location == .header) =
          !(named.parameter.location == .path) ∧
        (named.parameter.required = false → (named.parameter.location == .path) = false) := by
  intro named hn
  have declared : named.parameter ∈ operation.parameters.filter takesName := by
    rw [← map_parameter_nameParameters target.dialect [] (operation.parameters.filter takesName)]
    exact List.mem_map_of_mem hn
  obtain ⟨there, taken⟩ := List.mem_filter.mp declared
  have known := formed.known _ there
  have required := formed.required _ there
  cases located : named.parameter.location <;> simp_all [takesName]

/-- In three groups nothing is lost. -/
theorem filter_groups_perm {α : Type} {first second : α → Bool} {items : List α}
    (apart : ∀ x ∈ items, second x = false → first x = false) :
    (items.filter first ++ (items.filter (fun x => !first x && second x)
      ++ items.filter (fun x => !second x))).Perm items := by
  have last : items.filter (fun x => !second x) =
      (items.filter fun x => !first x).filter fun x => !second x := by
    rw [List.filter_filter]
    refine List.filter_congr fun x hx => ?_
    cases also : second x
    · simp [apart x hx also]
    · rfl
  have middle : items.filter (fun x => !first x && second x) =
      (items.filter fun x => !first x).filter second := by
    simp [List.filter_filter, Bool.and_comm]
  rw [last, middle]
  exact ((List.filter_append_perm second _).append_left _).trans
    (List.filter_append_perm first items)

/-- What is not optional before what is. -/
theorem optional_last {first second : List Argument}
    (needed : ∀ argument ∈ first, argument.optional = false)
    (optional : ∀ argument ∈ second, argument.optional = true) :
    (first ++ second).Pairwise fun a b => a.optional = true → b.optional = true := by
  refine List.pairwise_append.mpr ⟨?_, ?_, fun a _ b hb _ => optional b hb⟩
  · refine List.pairwise_of_forall_mem_list fun a ha _ _ is => ?_
    rw [needed a ha] at is
    cases is
  · exact List.pairwise_of_forall_mem_list fun _ _ b hb _ => optional b hb

/-! ## 4. Statements -/

/-- What stands before and after the name of an argument where it is asked whether it is there. -/
def Target.guard : Target → String × String
  | .go => ("\tif ", " != nil \x7b\n")
  | .java => ("        if (", " != null) \x7b\n")
  | .python => ("        if ", " is not None:\n")
  | .rust => ("        if let Some(value) = &", " \x7b\n")
  | .typescript => ("    if (", " !== undefined) \x7b\n")

/-- The line that asks whether an argument is there. -/
def Target.guardLine (target : Target) (name : String) : String :=
  target.guard.1 ++ name ++ target.guard.2

/-- A statement that sends a parameter: the name by which it is sent stands in a string, the
argument stands in code, and the statement asks first whether the argument is there just if it may
be absent. -/
structure Sends (target : Target) (wire : Parameter → String) (named : NamedParameter)
    (statement : Woven) : Prop where
  wire : (.quoted, wire named.parameter) ∈ placed target.hash .code statement
  argument : (.code, named.name) ∈ placed target.hash .code statement
  guarded : (target.guardLine named.name).toList <+: statement.text.toList ↔
    named.parameter.required = false

/-- A text that comes into a slot stands where the slot does. -/
theorem mem_placed_weave {hash : Bool} {slots : Setting → List String} {row : List Fragment}
    (keeps : Keeps hash slots (outline row)) {into : String → Woven} {name text : String}
    {setting : Setting} (used : .slot name ∈ row)
    (alone : ∀ found, name ∈ slots found → found = setting) (one : into name = [.taken text])
    (steady : ∀ setting, ∀ name ∈ slots setting, ending hash setting (into name) = setting) :
    (setting, text) ∈ placed hash .code (weave into row) := by
  obtain ⟨found, there⟩ : ∃ found, (found, name) ∈ placed hash .code (outline row) :=
    exists_placed_of_slot used
  obtain rfl := alone found (keeps.sites _ there)
  rw [(keeps.placed_weave steady).1]
  exact List.mem_flatMap.mpr ⟨_, there, by simp [one, placed]⟩

section

variable (named : NamedParameter)

theorem chosenBy_optional :
    chosenBy named.bindings "optional" = !named.parameter.required := by
  simp [chosenBy, NamedParameter.bindings, TextMap.lookup_cons_eq_ite, isTruthy]

theorem boundTo_sending :
    boundTo named.bindings [] "ident" = [.taken named.name] ∧
      boundTo named.bindings [] "wire" = [.taken (inlineText named.parameter.name)] ∧
      boundTo named.bindings [] "placeholder" =
        [.taken ("\x7b" ++ named.parameter.name ++ "\x7d")] := by
  simp [boundTo, NamedParameter.bindings, TextMap.lookup_cons_eq_ite, slotText]

/-- A row that begins with the question for an argument. -/
theorem guard_prefix {target : Target} {row rest : List Fragment}
    (begins : row = .text target.guard.1 :: .slot "ident" :: .text target.guard.2 :: rest) :
    (target.guardLine named.name).toList <+:
      (weave (boundTo named.bindings []) row).text.toList := by
  subst begins
  have here : weave (boundTo named.bindings [])
      (.text target.guard.1 :: .slot "ident" :: .text target.guard.2 :: rest) =
      .own target.guard.1.toList :: boundTo named.bindings [] "ident" ++
        .own target.guard.2.toList :: weave (boundTo named.bindings []) rest := by simp [weave]
  rw [here, (boundTo_sending named).1]
  simp [Target.guardLine, Stretch.text]

/-- A row that begins otherwise. -/
theorem no_guard {target : Target} {row rest : List Fragment} {first : String}
    (begins : row = .text first :: rest)
    (other : ¬first.toList <+: target.guard.1.toList ∧ ¬target.guard.1.toList <+: first.toList) :
    ¬(target.guardLine named.name).toList <+:
      (weave (boundTo named.bindings []) row).text.toList := by
  subst begins
  intro guarded
  have here : (weave (boundTo named.bindings []) (.text first :: rest)).text.toList =
      first.toList ++ (weave (boundTo named.bindings []) rest).text.toList := by
    simp [weave, Stretch.text]
  rw [here, Target.guardLine, String.append_assoc, String.toList_append] at guarded
  rcases List.prefix_or_prefix_of_prefix ((List.prefix_append _ _).trans guarded)
    (List.prefix_append first.toList _) with shorter | longer
  · exact other.2 shorter
  · exact other.1 longer

end

theorem sends_pathParam (target : Target) (named : NamedParameter)
    (required : named.parameter.required = true) :
    Sends target (fun parameter => "\x7b" ++ parameter.name ++ "\x7d") named
      (target.dialect.templates.pathParam.weave named.bindings []) := by
  have used : .slot "placeholder" ∈ target.dialect.templates.pathParam ∧
      .slot "ident" ∈ target.dialect.templates.pathParam := by
    cases target <;> decide
  have keeps := keeps_pathParam target (chosenBy named.bindings)
  obtain ⟨ident, _, placeholder⟩ := boundTo_sending named
  refine ⟨?_, ?_, ?_⟩
  · exact mem_placed_weave keeps (slot_mem_row used.1 _)
      (fun found => by cases found <;> simp [sendingSlots]) placeholder fun _ _ _ => rfl
  · exact mem_placed_weave keeps (slot_mem_row used.2 _)
      (fun found => by cases found <;> simp [sendingSlots]) ident fun _ _ _ => rfl
  · simp only [required, Bool.true_eq_false, iff_false]
    cases target <;> exact no_guard named rfl (by decide)

/-- The statements for queries and headers are a choice between one that begins with the question
for the argument and one that begins otherwise. -/
theorem exists_choice (target : Target) {template : Template}
    (h : template ∈ [target.dialect.templates.queryParam,
      target.dialect.templates.headerParam]) :
    ∃ yes no, template = [.choice "optional" yes no] ∧
      (∀ row ∈ [yes, no], .slot "wire" ∈ row ∧ .slot "ident" ∈ row) ∧
      (∃ rest, yes = .text target.guard.1 :: .slot "ident" :: .text target.guard.2 :: rest) ∧
      ∃ first rest, no = .text first :: rest ∧
        ¬first.toList <+: target.guard.1.toList ∧ ¬target.guard.1.toList <+: first.toList := by
  simp only [List.mem_cons, List.not_mem_nil, or_false] at h
  rcases h with rfl | rfl <;> cases target
  all_goals exact ⟨_, _, rfl, by decide, ⟨_, rfl⟩, _, _, rfl, by decide⟩

theorem sends_wire (target : Target) {template : Template}
    (h : template ∈ [target.dialect.templates.queryParam, target.dialect.templates.headerParam])
    (keeps : ∀ chosen,
      Keeps target.hash (sendingSlots "wire") (outline (template.row chosen)))
    (named : NamedParameter) :
    Sends target (fun parameter => inlineText parameter.name) named
      (template.weave named.bindings []) := by
  obtain ⟨yes, no, rfl, used, ⟨_, asks⟩, _, _, sends, apart⟩ := exists_choice target h
  have row : Template.row (chosenBy named.bindings) [.choice "optional" yes no] =
      if named.parameter.required then no else yes := by
    simp only [Template.row, List.flatMap_singleton, Piece.row, chosenBy_optional]
    cases named.parameter.required <;> rfl
  have slots : .slot "wire" ∈ Template.row (chosenBy named.bindings) [.choice "optional" yes no] ∧
      .slot "ident" ∈ Template.row (chosenBy named.bindings) [.choice "optional" yes no] := by
    rw [row]
    split
    · exact used no (.tail _ (.head _))
    · exact used yes (.head _)
  obtain ⟨ident, wire, _⟩ := boundTo_sending named
  refine ⟨?_, ?_, ?_⟩
  · exact mem_placed_weave (keeps _) slots.1
      (fun found => by cases found <;> simp [sendingSlots]) wire fun _ _ _ => rfl
  · exact mem_placed_weave (keeps _) slots.2
      (fun found => by cases found <;> simp [sendingSlots]) ident fun _ _ _ => rfl
  · rw [Template.weave, row]
    cases required : named.parameter.required with
    | true => simpa using no_guard named sends apart
    | false => simpa using guard_prefix named asks

/-- The fragment of a method that sends the parameters at a location: a statement for each of them,
in the order of declaration. -/
structure Lists (target : Target) (operation : Operation) (method : Method) (location : Location)
    (kind : String) (template : Template) (wire : Parameter → String) : Prop where
  declared : (atLocation location method.parameters).map (·.parameter) =
    operation.parametersIn location
  statements : ∃ statements : List Woven,
    fillEach (templateId target kind) template
        ((atLocation location method.parameters).map (·.bindings)) =
      .ok (Woven.text statements.flatten) ∧
    List.Forall₂ (Sends target wire) (atLocation location method.parameters) statements

theorem lists_of_sends {target : Target} {operation : Operation} {scope : Scope}
    {location : Location} (sent : location ≠ .cookie) {kind : String} {template : Template}
    (h : template ∈ [target.dialect.templates.pathParam, target.dialect.templates.queryParam,
      target.dialect.templates.headerParam])
    {wire : Parameter → String}
    (sends : ∀ named ∈ atLocation location
        (Method.ofOperation target.dialect operation scope).1.parameters,
      Sends target wire named (template.weave named.bindings [])) :
    Lists target operation (Method.ofOperation target.dialect operation scope).1 location kind
      template wire where
  declared := map_parameter_atLocation target.dialect operation scope sent
  statements := by
    refine ⟨_, fillEach_eq_sending target _ h _, ?_⟩
    exact List.forall₂_map_right_iff.mpr (List.forall₂_same.mpr sends)

/-! ## 5. Groups of arguments -/

/-- The arguments come as path parameters, body, required parameters and optional ones. -/
def Ordered (target : Target) (operation : Operation) (method : Method) : Prop :=
  let argument := NamedParameter.argument target.dialect.types
  let inPath (named : NamedParameter) := named.parameter.location == .path
  method.arguments =
    (method.parameters.filter inPath).map argument ++ bodyArgument target operation ++
      (method.parameters.filter fun named => !inPath named && named.parameter.required).map
        argument ++
      (method.parameters.filter fun named => !named.parameter.required).map argument

/-- No parameter that may be absent is in the path. -/
def PathRequired (method : Method) : Prop :=
  ∀ named ∈ method.parameters, named.parameter.required = false →
    (named.parameter.location == .path) = false

section

variable {target : Target} {operation : Operation} {method : Method}

theorem optional_bodyArgument :
    ∀ argument ∈ bodyArgument target operation,
      argument.name = "body" ∧ argument.optional = false := by
  unfold bodyArgument
  split <;> simp

/-- Each parameter and the body has one argument. -/
theorem Ordered.perm (h : Ordered target operation method) (apart : PathRequired method) :
    method.arguments.Perm (bodyArgument target operation ++
      method.parameters.map (NamedParameter.argument target.dialect.types)) := by
  have groups := (filter_groups_perm apart).map (NamedParameter.argument target.dialect.types)
  simp only [List.map_append] at groups
  rw [h, List.append_assoc, List.append_assoc,
    ← List.append_assoc _ (bodyArgument target operation)]
  refine (List.perm_append_comm.append_right _).trans ?_
  rw [List.append_assoc]
  exact groups.append_left _

/-- **What may be absent comes last.** -/
theorem Ordered.optional_last (h : Ordered target operation method) (apart : PathRequired method) :
    method.arguments.Pairwise fun a b => a.optional = true → b.optional = true := by
  rw [h]
  refine Client.optional_last ?_ ?_
  · intro argument ha
    simp only [List.mem_append, List.mem_map, List.mem_filter] at ha
    rcases ha with (⟨named, ⟨hn, path⟩, rfl⟩ | body) | ⟨named, ⟨_, needed⟩, rfl⟩
    · cases required : named.parameter.required
      · exact absurd path (by simp [apart named hn required])
      · simp [NamedParameter.argument, required]
    · exact (optional_bodyArgument argument body).2
    · simpa [NamedParameter.argument] using And.right (by simpa using needed)
  · intro argument ha
    obtain ⟨named, hn, rfl⟩ := List.mem_map.mp ha
    exact (List.mem_filter.mp hn).2

end

/-! ## 6. Methods -/

/-- A method as it can be declared for an operation. -/
structure IsSignature (target : Target) (operation : Operation) (method : Method) : Prop where
  /-- Each parameter but for cookies is named once, in the order of declaration. -/
  named : method.parameters.map (·.parameter) = operation.parameters.filter takesName
  /-- The arguments are those of the body and of the named parameters. -/
  arguments : method.arguments.Perm
    (bodyArgument target operation ++
      method.parameters.map (NamedParameter.argument target.dialect.types))
  ordered : Ordered target operation method
  optional_last : method.arguments.Pairwise fun a b => a.optional = true → b.optional = true
  identifiers : ∀ argument ∈ method.arguments, IsIdentifier argument.name
  different : (method.arguments.map (·.name)).Nodup
  /-- No name of a parameter is reserved; the name of the body argument is, for the body. -/
  not_reserved : ∀ named ∈ method.parameters, named.name ∉ target.dialect.reserved
  body : method.body = if operation.hasBody then some "body" else none
  path : Lists target operation method .path "path_param" target.dialect.templates.pathParam
    fun parameter => "\x7b" ++ parameter.name ++ "\x7d"
  query : Lists target operation method .query "query_param" target.dialect.templates.queryParam
    fun parameter => inlineText parameter.name
  header : Lists target operation method .header "header_param"
    target.dialect.templates.headerParam fun parameter => inlineText parameter.name

section

variable (target : Target) {operation : Operation} (formed : Formed operation) (scope : Scope)
include formed

theorem ordered_ofOperation :
    Ordered target operation (Method.ofOperation target.dialect operation scope).1 := by
  have located := located_parameters target formed scope
  have arguments := arguments_ofOperation target operation scope
  generalize (Method.ofOperation target.dialect operation scope).1 = method at located arguments ⊢
  have needed : (method.parameters.filter fun named => named.parameter.required &&
      (named.parameter.location == .query || named.parameter.location == .header)) =
      method.parameters.filter fun named =>
        !(named.parameter.location == .path) && named.parameter.required :=
    List.filter_congr fun named hn => by rw [(located named hn).1, Bool.and_comm]
  have absent : (method.parameters.filter fun named => !named.parameter.required &&
      (named.parameter.location == .query || named.parameter.location == .header)) =
      method.parameters.filter fun named => !named.parameter.required := by
    refine List.filter_congr fun named hn => ?_
    rw [(located named hn).1]
    cases required : named.parameter.required
    · simp [(located named hn).2 required]
    · rfl
  simp only [List.filter_filter, needed, absent] at arguments
  exact arguments

theorem pathRequired_ofOperation :
    PathRequired (Method.ofOperation target.dialect operation scope).1 :=
  fun named hn => (located_parameters target formed scope named hn).2

/-- The arguments of a method have different names, which are identifiers. -/
theorem names_ofOperation :
    (∀ argument ∈ (Method.ofOperation target.dialect operation scope).1.arguments,
      IsIdentifier argument.name) ∧
    ((Method.ofOperation target.dialect operation scope).1.arguments.map (·.name)).Nodup := by
  have different := nameParameters_nodup target.dialect .nil (operation.parameters.filter takesName)
  rw [nameParameters_scope, List.append_nil, List.nodup_reverse] at different
  have perm := (ordered_ofOperation target formed scope).perm
    (pathRequired_ofOperation target formed scope)
  constructor
  · intro argument ha
    rcases List.mem_append.mp (perm.mem_iff.mp ha) with body | parameter
    · rw [(optional_bodyArgument argument body).1]
      decide
    · obtain ⟨named, hn, rfl⟩ := List.mem_map.mp parameter
      exact (clear_nameParameters target hn).1
  · refine ((perm.map (·.name)).nodup_iff).mpr ?_
    rw [List.map_append, List.map_map]
    refine List.nodup_append.mpr ⟨?_, different, ?_⟩
    · unfold bodyArgument
      split <;> simp
    · rintro _ body _ parameter rfl
      obtain ⟨argument, ha, same⟩ := List.mem_map.mp body
      obtain ⟨named, hn, again⟩ := List.mem_map.mp parameter
      rw [(optional_bodyArgument argument ha).1] at same
      refine (clear_nameParameters target hn).2 ?_
      have called : named.name = "body" := again.trans same.symm
      exact called ▸ body_reserved target

/-- **The method of an operation can be declared.** -/
theorem isSignature_ofOperation :
    IsSignature target operation (Method.ofOperation target.dialect operation scope).1 where
  named := map_parameter_nameParameters _ _ _
  arguments := (ordered_ofOperation target formed scope).perm
    (pathRequired_ofOperation target formed scope)
  ordered := ordered_ofOperation target formed scope
  optional_last := (ordered_ofOperation target formed scope).optional_last
    (pathRequired_ofOperation target formed scope)
  identifiers := (names_ofOperation target formed scope).1
  different := (names_ofOperation target formed scope).2
  not_reserved _ hn := (clear_nameParameters target hn).2
  body := body_ofOperation target operation scope
  path := lists_of_sends (by decide) (.head _) fun named hn => by
    obtain ⟨there, path⟩ := List.mem_filter.mp hn
    refine sends_pathParam target named ?_
    cases required : named.parameter.required
    · rw [pathRequired_ofOperation target formed scope named there required] at path
      cases path
    · rfl
  query := lists_of_sends (by decide) (.tail _ (.head _)) fun named _ =>
    sends_wire target (.head _) (keeps_queryParam target) named
  header := lists_of_sends (by decide) (.tail _ (.tail _ (.head _))) fun named _ =>
    sends_wire target (.tail _ (.head _)) (keeps_headerParam target) named

end

/-- What holds of each operation and its method holds along the methods of a client. -/
theorem forall₂_methodsOf {R : Operation → Method → Prop} {dialect : Dialect}
    {operations : List Operation}
    (each : ∀ operation ∈ operations, ∀ scope,
      R operation (Method.ofOperation dialect operation scope).1) (scope : Scope) :
    List.Forall₂ R operations (methodsOf dialect scope operations) := by
  induction operations generalizing scope with
  | nil => exact .nil
  | cons first rest ih =>
    obtain ⟨here, later⟩ := List.forall_mem_cons.mp each
    exact .cons (here scope) (ih later _)

/-- **Every client can be declared**: its methods have different names, which are identifiers and
not reserved, and each is declared for its operation. -/
theorem methodsOf_signed (document : Document) (filter : Option TextSet) (target : Target) :
    let operations := document.extract filter
    let methods := methodsOf target.dialect [] operations
    (methods.map (·.name)).Nodup ∧
      (∀ method ∈ methods,
        IsIdentifier method.name ∧ method.name ∉ target.dialect.methodReserved) ∧
      List.Forall₂ (IsSignature target) operations methods := by
  refine ⟨(methodsOf_names target.dialect _).1, ?_, ?_⟩
  · refine (forall_methodsOf_iff (Q := fun _ => True) fun operation scope => ?_).mpr
      fun _ _ => trivial
    refine iff_true_intro ⟨?_, claim_notMem_reserved (endsInLetter_reserved target).2 _ _ _⟩
    exact isIdentifier_claim (ofWordChars_methodCase target _) (by decide) _
  · exact forall₂_methodsOf
      (fun _ ho => isSignature_ofOperation target (formed_of_extract ho)) _

end Covenant.Client
