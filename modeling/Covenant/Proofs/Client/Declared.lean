import Covenant.Proofs.Client.Apart
import Covenant.Proofs.Text.Ordered
import Mathlib.Data.List.Count
/-!
# Names of types in a client

The types in a signature and the names for which a client declares aliases come from two walks over
the same types, and they agree.

* `TypeNames.weave`: a type in stretches, in which each name that is written stands alone.
* `WritesTypes` is said of an operation and its method: the types in the signature are those of the
  operation, as the language writes them.
* `HasAliases` is said of the client module and the names that it declares.
* `emit_rename`: the names of types have no effect on a project in Java.
* `types_declared`: where named types are written by name, each name in a signature is declared
  once, and the declarations rise byte by byte; where they are not, no name has any effect.
-/

/-! ## 1. Other names -/

namespace Covenant.Contract

/-- A type with other names. -/
def ApiType.rename (f : String → String) : ApiType → ApiType
  | .array item => .array (item.rename f)
  | .named name => .named (f name)
  | type => type

/-- A parameter with other names in its type. -/
def Parameter.rename (f : String → String) (parameter : Parameter) : Parameter :=
  { parameter with type := parameter.type.rename f }

/-- A reply with other names. -/
def Reply.rename (f : String → String) : Reply → Reply
  | .named name => .named (f name)
  | reply => reply

/-- An operation with other names in its types. -/
def Operation.rename (f : String → String) (operation : Operation) : Operation :=
  { operation with
    bodyType := operation.bodyType.map (·.rename f)
    parameters := operation.parameters.map (·.rename f)
    reply := operation.reply.rename f }

end Covenant.Contract

namespace Covenant.Client

open Covenant.Contract Covenant.Json Covenant.Naming Covenant.Text

/-! ## 2. Types in stretches -/

section

variable (names : TypeNames)

/-- A type as a language writes it, in stretches. -/
def TypeNames.weave : ApiType → Woven
  | .array item =>
    .own names.arrayOpen.toList :: TypeNames.weave item ++ [.own names.arrayClose.toList]
  | .named name =>
    match names.named with
    | .byName => [.taken name]
    | .fixed native => [.own native.toList]
  | type => [.own (names.render type).toList]

theorem TypeNames.text_weave (type : ApiType) : (names.weave type).text = names.render type := by
  induction type with
  | array item ih => simp [TypeNames.weave, TypeNames.render, Stretch.text, ih, String.append_assoc]
  | named name =>
    simp only [TypeNames.weave, TypeNames.render]
    cases names.named <;> simp [Stretch.text]
  | _ => simp [TypeNames.weave, Stretch.text]

/-- **A name that is written is the one that the type is declared for**, at whatever depth. -/
theorem TypeNames.taken_mem_weave {type : ApiType} {name : String} :
    .taken name ∈ names.weave type ↔ names.named = .byName ∧ type.name? = some name := by
  induction type with
  | array item ih => simpa [TypeNames.weave, ApiType.name?] using ih
  | named other =>
    cases form : names.named <;> simp [TypeNames.weave, ApiType.name?, form, eq_comm]
  | _ => simp [TypeNames.weave, ApiType.name?]

end

/-! ## 3. Types in signatures -/

/-- The types of the arguments of a method: those of the parameters that are sent, and of the
body. -/
def argumentTypes (operation : Operation) : List ApiType :=
  (operation.parameters.filter isSent).map (·.type) ++
    if operation.hasBody then [operation.bodyType.getD .unknown] else []

/-- The types in the signature of a method. -/
def signatureTypes (operation : Operation) : List ApiType :=
  argumentTypes operation ++ operation.reply.type?.toList

/-- The signature of a method has the types of its operation, as the language writes them. -/
structure WritesTypes (target : Target) (operation : Operation) (method : Method) : Prop where
  arguments : (method.arguments.map (·.type)).Perm
    ((argumentTypes operation).map fun type => (target.dialect.types.weave type).text)
  returns : method.returns =
    operation.reply.type?.map fun type => (target.dialect.types.weave type).text

/-- Each name in a signature is referred to. -/
theorem mem_referencedNames_of_signature {operations : List Operation} {operation : Operation}
    (ho : operation ∈ operations) {type : ApiType} (ht : type ∈ signatureTypes operation)
    {name : String} (named : type.name? = some name) :
    name ∈ (referencedNames operations).toList := by
  refine mem_referencedNames.mpr ⟨operation, ho, type, ?_, named⟩
  simp only [signatureTypes, argumentTypes, typesIn, List.mem_append, List.mem_map] at ht ⊢
  rcases ht with (⟨parameter, hp, rfl⟩ | body) | reply
  · exact .inl (.inl ⟨parameter, List.mem_of_mem_filter hp, rfl⟩)
  · refine .inl (.inr ?_)
    split at body
    · obtain rfl := List.mem_singleton.mp body
      cases described : operation.bodyType with
      | none => simp [described, ApiType.name?] at named
      | some type => simp
    · cases body
  · exact .inr reply

/-- The parameters that are sent are those in the path, and those that are required and those that
are not in queries and headers. -/
theorem filter_isSent_perm (parameters : List NamedParameter) :
    let others := parameters.filter fun named =>
      named.parameter.location == .query || named.parameter.location == .header
    (atLocation .path parameters ++ (others.filter (·.parameter.required) ++
        others.filter fun named => !named.parameter.required)).Perm
      (parameters.filter fun named => isSent named.parameter) := by
  intro others
  let sent := parameters.filter fun named => isSent named.parameter
  have path : sent.filter (fun named => named.parameter.location == .path) =
      atLocation .path parameters := by
    rw [List.filter_filter]
    refine List.filter_congr fun named _ => ?_
    unfold isSent
    cases named.parameter.location <;> rfl
  have further : sent.filter (fun named => !(named.parameter.location == .path)) = others := by
    rw [List.filter_filter]
    refine List.filter_congr fun named _ => ?_
    unfold isSent
    cases named.parameter.location <;> rfl
  have groups := List.filter_append_perm (fun named => named.parameter.location == .path) sent
  rw [path, further] at groups
  exact ((List.filter_append_perm _ others).append_left _).trans groups

/-- The parameters of a method that are sent are those of its operation. -/
theorem map_parameter_isSent (dialect : Dialect) (operation : Operation) (scope : Scope) :
    ((Method.ofOperation dialect operation scope).1.parameters.filter
      fun named => isSent named.parameter).map (·.parameter) =
        operation.parameters.filter isSent := by
  have taken : ∀ parameter, (isSent parameter && takesName parameter) = isSent parameter := by
    intro parameter
    unfold isSent takesName
    cases parameter.location <;> rfl
  have all : (Method.ofOperation dialect operation scope).1.parameters.map (·.parameter) =
      operation.parameters.filter takesName := map_parameter_nameParameters dialect [] _
  have sent := List.filter_map (l := (Method.ofOperation dialect operation scope).1.parameters)
    (f := (·.parameter)) (p := isSent)
  rw [all, List.filter_filter, funext taken] at sent
  exact sent.symm

/-- **Every method has the types of its operation in its signature.** -/
theorem writesTypes_ofOperation (target : Target) (operation : Operation) (scope : Scope) :
    WritesTypes target operation (Method.ofOperation target.dialect operation scope).1 := by
  have render : (fun type => (target.dialect.types.weave type).text) =
      target.dialect.types.render := funext target.dialect.types.text_weave
  have body : (bodyArgument target operation).map (·.type) =
      (if operation.hasBody then [operation.bodyType.getD .unknown] else []).map
        target.dialect.types.render := by
    unfold bodyArgument
    split <;> rfl
  have sent := filter_isSent_perm (Method.ofOperation target.dialect operation scope).1.parameters
  have types := sent.map fun named => target.dialect.types.render named.parameter.type
  refine ⟨?_, by rw [render]; rfl⟩
  rw [render, arguments_ofOperation, argumentTypes,
    ← map_parameter_isSent target.dialect operation scope]
  simp only [List.map_append, List.map_map, Function.comp_def, NamedParameter.argument] at types ⊢
  -- the body stands between the parameters in the path and the others
  rw [← body, List.append_assoc, List.append_assoc]
  refine (List.perm_append_comm.append_left _).trans ?_
  rw [← List.append_assoc]
  exact types.append_right _

/-! ## 4. Aliases -/

/-- The line that declares an alias. -/
def Target.aliasLine (target : Target) (name : String) : String :=
  (weave (fun _ => [.taken name]) target.aliasRow).text

/-- A line that declares an alias has the name after a text of its own, and what follows is longer
for a longer name, if it has the name again. -/
theorem exists_aliasLine {target : Target} (byName : target.dialect.types.named = .byName) :
    ∃ first : String, ∃ rest : String → String, ∃ constant times,
      ∀ name, target.aliasLine name = first ++ (name ++ rest name) ∧
        (rest name).length = constant + times * name.length := by
  have once : ∀ first last : String, (∀ name, target.aliasLine name = first ++ (name ++ last)) →
      ∃ first : String, ∃ rest : String → String, ∃ constant times,
        ∀ name, target.aliasLine name = first ++ (name ++ rest name) ∧
          (rest name).length = constant + times * name.length := fun first last line =>
    ⟨first, fun _ => last, last.length, 0, fun name => ⟨line name, by rw [Nat.zero_mul]; rfl⟩⟩
  cases target with
  | java => cases byName
  | go =>
    refine once "type " (" = " ++ (Target.go.typeNames.aliasTarget ++ "\n")) fun name => ?_
    simp [Target.aliasLine, Target.aliasRow, weave, Stretch.text]
  | python =>
    refine once "" (" = " ++ (Target.python.typeNames.aliasTarget ++ "\n")) fun name => ?_
    simp [Target.aliasLine, Target.aliasRow, weave, Stretch.text]
  | typescript =>
    refine once "export type " (" = " ++ (Target.typescript.typeNames.aliasTarget ++ ";\n"))
      fun name => ?_
    simp [Target.aliasLine, Target.aliasRow, weave, Stretch.text]
  | rust =>
    let last := " = " ++ (Target.rust.typeNames.aliasTarget ++ ";\n")
    refine ⟨"/// `", fun name => "` schema.\npub type " ++ (name ++ last),
      "` schema.\npub type ".length + last.length, 1, fun name => ⟨?_, ?_⟩⟩
    · simp [Target.aliasLine, Target.aliasRow, weave, Stretch.text, last]
    · simp only [String.length_append]
      omega

/-- Two names are declared by two lines. -/
theorem aliasLine_injective {target : Target} (byName : target.dialect.types.named = .byName) :
    Function.Injective target.aliasLine := by
  obtain ⟨first, rest, constant, times, line⟩ := exists_aliasLine byName
  intro name other same
  rw [(line name).1, (line other).1, String.append_right_inj] at same
  have long : name.length = other.length := by
    have lengths := congrArg String.length same
    rw [String.length_append, String.length_append, (line name).2, (line other).2] at lengths
    rcases Nat.lt_trichotomy name.length other.length with lt | eq | gt
    · have := Nat.mul_le_mul_left times lt.le
      omega
    · exact eq
    · have := Nat.mul_le_mul_left times gt.le
      omega
  have chars := congrArg String.toList same
  rw [String.toList_append, String.toList_append] at chars
  rw [← String.length_toList, ← String.length_toList] at long
  exact String.toList_inj.mp (List.append_inj chars long).1

/-- The client module of some operations declares these names: it is the template of the client with
their declarations, one after another, in its only slot for aliases. -/
def HasAliases (target : Target) (context : EmitContext) (operations : List Operation)
    (names : List String) : Prop :=
  ∃ files before after, ∃ first last : Template,
    target.dialect.emit operations context = .ok files ∧
      files.get? (target.dialect.layout context).client = some
        (before ++ aliasBlock target.aliasLine (.ofList target.aliasEnd) names ++ after) ∧
      target.dialect.templates.client = first ++ .slot "aliases" :: last ∧
      "aliases" ∉ first.slots ++ last.slots ∧
      first.fill (clientBindings target context operations) = .ok before ∧
      last.fill (clientBindings target context operations) = .ok after

/-- **A client declares the names that its operations refer to.** -/
theorem hasAliases_referencedNames {target : Target}
    (byName : target.dialect.types.named = .byName) (context : EmitContext)
    (operations : List Operation) :
    HasAliases target context operations (referencedNames operations).toList := by
  have once : .slot "aliases" ∈ target.dialect.templates.client ∧
      target.dialect.templates.client.slots.count "aliases" = 1 := by
    cases target with
    | java => cases byName
    | go | python | rust | typescript => decide +kernel
  obtain ⟨first, last, split, above, below⟩ := exists_split_client once.1 once.2
  obtain ⟨before, after, text, filled⟩ := client_around target context operations split
  have slot : (boundTo (clientBindings target context operations)
      (fileParts target operations context) "aliases").text =
        aliasBlock target.aliasLine (.ofList target.aliasEnd)
          (referencedNames operations).toList := by
    have given : boundTo (clientBindings target context operations)
        (fileParts target operations context) "aliases" =
          weaveAliases target (referencedNames operations).toList := by
      simp [boundTo, fileParts, TextMap.lookup_cons_eq_ite]
    rw [given, weaveAliases, aliasBlock]
    split
    · rfl
    · rw [Woven.text_append, text_flatMap, Woven.text_cons, Woven.text_nil, String.append_empty]
      rfl
  rw [slot] at text
  refine ⟨_, before, after, first, last, emit_eq_weave target operations context, text, split, ?_,
    filled⟩
  simp only [List.mem_append, not_or] at above below ⊢
  exact ⟨above.1, below.1⟩

/-! ## 5. Languages that write no names -/

/-- A named parameter with other names in its type. -/
def NamedParameter.rename (f : String → String) (named : NamedParameter) : NamedParameter :=
  { named with parameter := named.parameter.rename f }

/-- A method whose parameters have other names in their types. -/
def Method.rename (f : String → String) (method : Method) : Method :=
  { method with parameters := method.parameters.map (·.rename f) }

section

variable (dialect : Dialect) (f : String → String)

/-- The names of types make no difference to the text of a method. -/
theorem render_rename_method (context : EmitContext) (method : Method) :
    (method.rename f).render dialect context = method.render dialect context := by
  have sent : ∀ location, (atLocation location (method.rename f).parameters).map (·.bindings) =
      (atLocation location method.parameters).map (·.bindings) := by
    intro location
    simp only [Method.rename, atLocation, List.filter_map, List.map_map]
    rfl
  simp only [Method.render, sent]
  rfl

theorem nameParameters_rename (taken : Scope) (parameters : List Parameter) :
    nameParameters dialect taken (parameters.map (·.rename f)) =
      ((nameParameters dialect taken parameters).1.map (·.rename f),
        (nameParameters dialect taken parameters).2) := by
  induction parameters generalizing taken with
  | nil => rfl
  | cons first rest ih =>
    have here : (first.rename f).name = first.name := rfl
    simp only [List.map_cons, nameParameters, here, ih]
    rfl

end

section

variable {dialect : Dialect} {native : String} (fixed : dialect.types.named = .fixed native)
include fixed

theorem render_rename (f : String → String) (type : ApiType) :
    dialect.types.render (type.rename f) = dialect.types.render type := by
  induction type with
  | array item ih => simp [ApiType.rename, TypeNames.render, ih]
  | named name => simp [ApiType.rename, TypeNames.render, fixed]
  | _ => rfl

theorem argumentsOf_rename (f : String → String) (named : List NamedParameter)
    (body : Option (String × ApiType)) :
    argumentsOf dialect.types (named.map (·.rename f)) (body.map fun b => (b.1, b.2.rename f)) =
      argumentsOf dialect.types named body := by
  have argument : ∀ named : NamedParameter,
      (named.rename f).argument dialect.types = named.argument dialect.types := fun named =>
    congrArg (Argument.mk named.name · _) (render_rename fixed f named.parameter.type)
  simp only [argumentsOf, atLocation, List.filter_map, List.map_map, Option.map_map,
    Function.comp_def, argument, render_rename fixed]
  rfl

/-- **The method of an operation has the same signature under other names.** -/
theorem ofOperation_rename (f : String → String) (operation : Operation) (scope : Scope) :
    Method.ofOperation dialect (operation.rename f) scope =
      ((Method.ofOperation dialect operation scope).1.rename f,
        (Method.ofOperation dialect operation scope).2) := by
  have taken : (operation.rename f).parameters.filter takesName =
      (operation.parameters.filter takesName).map (·.rename f) := by
    simp only [Operation.rename, List.filter_map]
    rfl
  have returns : (operation.reply.rename f).type?.map dialect.types.render =
      operation.reply.type?.map dialect.types.render := by
    cases operation.reply with
    | named name => exact congrArg some (render_rename fixed f (.named name))
    | void | untyped => rfl
  have body : ((operation.bodyType.map (·.rename f)).getD .unknown) =
      (operation.bodyType.getD .unknown).rename f := by
    cases operation.bodyType <;> rfl
  have arguments := argumentsOf_rename fixed f
    (nameParameters dialect [] (operation.parameters.filter takesName)).1
    (if operation.hasBody then
      some ((claim [] "body" "body"
        (nameParameters dialect [] (operation.parameters.filter takesName)).2).1,
        operation.bodyType.getD .unknown)
    else none)
  simp only [Method.ofOperation, taken, nameParameters_rename]
  simp only [Operation.rename, returns, body, Method.rename, ← arguments]
  cases operation.hasBody <;> rfl

theorem methodsOf_rename (f : String → String) (scope : Scope) (operations : List Operation) :
    methodsOf dialect scope (operations.map (·.rename f)) =
      (methodsOf dialect scope operations).map (·.rename f) := by
  induction operations generalizing scope with
  | nil => rfl
  | cons first rest ih => simp only [List.map_cons, methodsOf, ofOperation_rename fixed, ih]

end

/-- **No name of a type has any effect on a project in Java.** -/
theorem emit_rename (context : EmitContext) (operations : List Operation) (f : String → String) :
    Target.java.dialect.emit (operations.map (·.rename f)) context =
      Target.java.dialect.emit operations context := by
  have methods : ((methodsOf Target.java.dialect [] operations).map (·.rename f)).mapM
      (·.render Target.java.dialect context) =
      (methodsOf Target.java.dialect [] operations).mapM
        (·.render Target.java.dialect context) := by
    rw [List.mapM_map]
    exact congrArg (List.mapM · _) (funext fun method => render_rename_method _ f context method)
  have comments : operationComments Target.java.dialect.comment (operations.map (·.rename f)) =
      operationComments Target.java.dialect.comment operations := by
    rw [operationComments, List.map_map]
    rfl
  have bindings : ∀ texts, fileBindings Target.java.dialect (operations.map (·.rename f)) context
      texts = fileBindings Target.java.dialect operations context texts := by
    intro texts
    simp only [fileBindings, comments]
    rfl
  have fixed : Target.java.dialect.types.named = .fixed "JsonNode" := rfl
  simp only [Dialect.emit, methodsOf_rename fixed, methods, bindings]

/-! ## 6. Names that are used and names that are declared -/

/-- Every name in a signature is declared by one line, and the declarations rise byte by byte. -/
structure DeclaresOnce (target : Target) (context : EmitContext) (operations : List Operation) :
    Prop where
  declared : HasAliases target context operations (referencedNames operations).toList
  rise : (referencedNames operations).toList.Pairwise fun a b => utf8Bytes a < utf8Bytes b
  once : ∀ operation ∈ operations, ∀ type ∈ signatureTypes operation, ∀ name,
    .taken name ∈ target.dialect.types.weave type →
      ((referencedNames operations).toList.map target.aliasLine).count (target.aliasLine name) = 1

/-- No name is in a signature, and other names make no other project. -/
structure HidesNames (target : Target) (context : EmitContext) (operations : List Operation) :
    Prop where
  absent : ∀ operation ∈ operations, ∀ type ∈ signatureTypes operation, ∀ name,
    .taken name ∉ target.dialect.types.weave type
  alike : ∀ f, target.dialect.emit (operations.map (·.rename f)) context =
    target.dialect.emit operations context

/-- **Every name that a client uses is declared once.** The signatures have the types of the
operations; where named types are written by name, each name in a signature has one declaration, and
where they are not, the names of types have no effect. -/
theorem types_declared (target : Target) (context : EmitContext) (operations : List Operation) :
    List.Forall₂ (WritesTypes target) operations (methodsOf target.dialect [] operations) ∧
      (target.dialect.types.named = .byName → DeclaresOnce target context operations) ∧
      (target.dialect.types.named ≠ .byName → HidesNames target context operations) := by
  refine ⟨forall₂_methodsOf (fun _ _ => writesTypes_ofOperation target _) [], fun byName => ?_,
    fun other => ?_⟩
  · refine ⟨hasAliases_referencedNames byName context operations, toList_utf8_rise _, ?_⟩
    intro operation ho type ht name used
    have named := (target.dialect.types.taken_mem_weave.mp used).2
    rw [List.count_map_of_injective _ _ (aliasLine_injective byName)]
    exact List.count_eq_one_of_mem (nodup_toList _) (mem_referencedNames_of_signature ho ht named)
  · refine ⟨fun operation _ type _ name used => ?_, fun f => ?_⟩
    · exact other (target.dialect.types.taken_mem_weave.mp used).1
    · cases target with
      | java => exact emit_rename context operations f
      | go | python | rust | typescript => exact absurd rfl other

/-- An operation that sends rows of rows of pets and gets an owner. -/
def ownerOperation : Operation :=
  { petOperation "id" with
    id := "getOwner"
    hasBody := true
    bodyType := some (.array (.array (.named "Pet")))
    reply := .named "Owner" }

/-- In TypeScript the pets are declared once, though two operations send them. -/
theorem owners_declared :
    let context := EmitContext.ofDocument (petDocument "id")
    let operations := [ownerOperation, { ownerOperation with id := "getOwners" }]
    DeclaresOnce .typescript context operations ∧
      .taken "Pet" ∈ Target.typescript.dialect.types.weave (.array (.array (.named "Pet"))) ∧
      ((referencedNames operations).toList.map Target.typescript.aliasLine).count
        "export type Pet = Record<string, any>;\n" = 1 := by
  intro context operations
  have declared := (types_declared .typescript context operations).2.1 rfl
  have used : .taken "Pet" ∈
      Target.typescript.dialect.types.weave (.array (.array (.named "Pet"))) := by decide +kernel
  have line : Target.typescript.aliasLine "Pet" = "export type Pet = Record<string, any>;\n" := by
    decide +kernel
  have sent : .array (.array (.named "Pet")) ∈ signatureTypes ownerOperation := by decide +kernel
  exact ⟨declared, used, line ▸ declared.once ownerOperation (.head _) _ sent "Pet" used⟩

end Covenant.Client
