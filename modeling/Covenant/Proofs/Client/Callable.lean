import Covenant.Proofs.Client.Apart
/-!
# Methods of Go clients

A method of a Go client can be called from other packages if its name begins with a capital, and it
can be declared if the client has no field of that name.

* `goFields`: the fields of the client, which its module declares (`goStruct_emitted`), and
  `block_begins`: each block of the module declares one method.
* `exported_iff`: the method of an operation begins with a capital if the first letter or digit of
  the id is a letter, whatever names are taken.
* `exists_method_iff`: a method has the name of a field if some id is converted to that name.
* `methods_callable_iff`: all methods of a client are callable if neither is in the way.
-/

namespace Covenant.Client

open Covenant.Contract Covenant.Json Covenant.Naming Covenant.Text

/-! ## 1. Declarations -/

/-- The fields of the client, each with what stands behind its name. -/
def goFields : List (String × String) := [
  ("BaseURL", "    string"),
  ("HTTPClient", " *http.Client")]

/-- The line that declares a field. -/
def goFieldLine (field : String × String) : String := "\t" ++ field.1 ++ field.2 ++ "\n"

/-- The part of the client module that declares its fields. -/
def goStruct : Template :=
  .text "type " :: .slot "class_name" :: .text " struct \x7b\n" ::
    goFields.map (fun field => .text (goFieldLine field)) ++ [.text "\x7d\n"]

/-- How the fields of a client are declared. -/
def goStructText (context : EmitContext) : String :=
  "type " ++ context.className ++ " struct \x7b\n" ++ .join (goFields.map goFieldLine) ++ "\x7d\n"

/-- How a method is declared, up to its arguments. -/
def goMethodStart (context : EmitContext) (method : Method) : String :=
  "// " ++ method.name ++ " " ++ method.doc ++ "\n" ++
    "func (c *" ++ context.className ++ ") " ++ method.name ++ "("

section

variable (context : EmitContext) (operations : List Operation)

/-- **Every client module declares the fields.** -/
theorem goStruct_emitted :
    ∃ files before after, Target.go.dialect.emit operations context = .ok files ∧
      files.get? (Target.go.dialect.layout context).client =
        some (before ++ goStructText context ++ after) := by
  obtain ⟨first, last, split⟩ : ∃ first last : Template, goClient = first ++ goStruct ++ last :=
    ⟨goClient.take 36, goClient.drop 42, rfl⟩
  let bindings := clientBindings .go context operations
  let parts := fileParts .go operations context
  have fields : (goStruct.weave bindings parts).text = goStructText context := by
    simp [goStruct, goFields, Template.weave, Template.row, Piece.row, weave, boundTo, parts,
      fileParts, bindings, clientBindings, fileBindings, TextMap.lookup_cons_eq_ite, Stretch.text,
      goStructText, slotText, String.append_assoc]
  refine ⟨_, (first.weave bindings parts).text, (last.weave bindings parts).text,
    emit_eq_weave .go operations context, ?_⟩
  have woven : (weaveFile .go operations context goClient).text =
      (first.weave bindings parts).text ++ goStructText context ++
        (last.weave bindings parts).text := by
    rw [weaveFile, split, Template.weave_append, Template.weave_append, Woven.text_append,
      Woven.text_append]
    exact congrArg (_ ++ · ++ _) fields
  rw [← woven]
  simp only [weaveProject, TextMap.get?_insert, client_ne_manifest, if_false, if_true]
  rfl

theorem trimmed_append {second : Woven} (filled : second ≠ []) (first : Woven) :
    trimmed (first ++ second) = first ++ trimmed second := by
  induction first with
  | nil => rfl
  | cons stretch rest ih =>
    obtain ⟨other, more, more_eq⟩ := List.exists_cons_of_ne_nil
      (List.append_ne_nil_of_right_ne_nil rest filled)
    rw [List.cons_append, List.cons_append, ← ih, more_eq]
    cases stretch <;> rfl

/-- **The block of a method declares it.** -/
theorem block_begins (method : Method) :
    ∃ rest, blockOf .go context method = goMethodStart context method ++ rest := by
  obtain ⟨bindings, woven, name, doc, owner⟩ : ∃ bindings,
      method.weave goDialect context =
        goMethod.weave bindings (method.sendings goDialect.templates) ∧
      bindings.lookup "name" = some (.text method.name) ∧
      bindings.lookup "doc" = some (.text method.doc) ∧
      bindings.lookup "owner" = some (.text context.className) :=
    ⟨_, rfl, rfl, rfl, rfl⟩
  let parts := method.sendings goDialect.templates
  have start : (Template.weave (goMethod.take 10) bindings parts).text =
      goMethodStart context method := by
    apply String.toList_inj.mp
    simp [goMethod, Template.weave, Template.row, Piece.row, weave, boundTo, parts,
      Method.sendings, TextMap.lookup_cons_eq_ite, name, doc, owner, Stretch.text, slotText,
      goMethodStart]
  have filled : Template.weave (goMethod.drop 10) bindings parts ≠ [] := by
    simp [goMethod, Template.weave, Template.row, Piece.row, weave]
  have split : goMethod.weave bindings parts =
      Template.weave (goMethod.take 10) bindings parts ++
        Template.weave (goMethod.drop 10) bindings parts := by
    rw [← Template.weave_append, List.take_append_drop]
  refine ⟨(trimmed (Template.weave (goMethod.drop 10) bindings parts)).text, ?_⟩
  rw [← start, ← Woven.text_append, ← trimmed_append filled, ← split, ← woven]
  rfl

end

/-! ## 2. Names -/

/-- A method of this name can be declared, and called from other packages. -/
structure IsCallable (name : String) : Prop where
  exported : beginsWithCapital name = true
  no_field : name ∉ goFields.map Prod.fst

instance (name : String) : Decidable (IsCallable name) :=
  decidable_of_iff (_ ∧ _) ⟨fun h => ⟨h.1, h.2⟩, fun h => ⟨h.exported, h.no_field⟩⟩

/-- **The method of an operation is exported** if the id begins with a letter, and only then. -/
theorem exported_iff (operation : Operation) (scope : Scope) :
    beginsWithCapital (Method.ofOperation goDialect operation scope).1.name = true ↔
      BeginsWithLetter operation.id := by
  rw [← beginsWithCapital_pascalCase_iff]
  exact Bool.eq_iff_iff.mp (beginsWithCapital_claim [] rfl (pascalCase operation.id) scope)

/-- What an operation's name is finished to is the name of a method, if not of its own. -/
theorem finishedName_mem_methodsOf (dialect : Dialect) {scope : Scope} {operations : List Operation}
    {operation : Operation} (ho : operation ∈ operations)
    (free : dialect.finishedName operation ∉ scope) :
    ∃ method ∈ methodsOf dialect scope operations,
      method.name = dialect.finishedName operation := by
  induction operations generalizing scope with
  | nil => cases ho
  | cons first rest ih =>
    by_cases here : dialect.finishedName operation =
        (Method.ofOperation dialect first scope).1.name
    · exact ⟨_, List.mem_cons_self, here.symm⟩
    · have other : dialect.finishedName operation ∉ (Method.ofOperation dialect first scope).2 :=
        List.not_mem_cons_of_ne_of_not_mem here free
      rcases List.mem_cons.mp ho with rfl | later
      · exact absurd (spelled_mem_claim dialect.methodReserved "operation" _ scope) other
      · obtain ⟨method, hm, same⟩ := ih later other
        exact ⟨method, List.mem_cons_of_mem _ hm, same⟩

/-! ## 3. Fields -/

theorem exists_of_mem_methodsOf {dialect : Dialect} {scope : Scope} {operations : List Operation}
    {method : Method} (hm : method ∈ methodsOf dialect scope operations) :
    ∃ operation ∈ operations, ∃ taken, method = (Method.ofOperation dialect operation taken).1 := by
  induction operations generalizing scope with
  | nil => cases hm
  | cons first rest ih =>
    rcases List.mem_cons.mp hm with rfl | later
    · exact ⟨first, List.mem_cons_self, scope, rfl⟩
    · obtain ⟨operation, ho, taken, same⟩ := ih later
      exact ⟨operation, List.mem_cons_of_mem _ ho, taken, same⟩

theorem unchanged_field : ∀ field ∈ goFields.map Prod.fst,
    Unchanged field ∧ "operation" ≠ field ∧ spell [] "operation" field = field := by
  decide

/-- **A method has the name of a field** if an id is converted to that, and only then. -/
theorem exists_method_iff (operations : List Operation) {field : String}
    (hf : field ∈ goFields.map Prod.fst) :
    (∃ method ∈ methodsOf goDialect [] operations, method.name = field) ↔
      ∃ operation ∈ operations, pascalCase operation.id = field := by
  obtain ⟨unchanged, other, spelled⟩ := unchanged_field field hf
  constructor
  · rintro ⟨method, hm, named⟩
    obtain ⟨operation, ho, taken, rfl⟩ := exists_of_mem_methodsOf hm
    exact ⟨operation, ho, unchanged.of_claim other named⟩
  · rintro ⟨operation, ho, rfl⟩
    obtain ⟨method, hm, same⟩ := finishedName_mem_methodsOf goDialect ho List.not_mem_nil
    exact ⟨method, hm, same.trans spelled⟩

/-- **All methods of a Go client are callable** if every id begins with a letter and none is
converted to the name of a field, and only then. The blocks of the client module declare the
methods, and the module declares the fields. -/
theorem methods_callable_iff (operations : List Operation) (context : EmitContext) :
    let methods := methodsOf goDialect [] operations
    ((∀ method ∈ methods, IsCallable method.name) ↔ ∀ operation ∈ operations,
      BeginsWithLetter operation.id ∧ pascalCase operation.id ∉ goFields.map Prod.fst) ∧
    (∃ blocks, HasMethods .go context operations blocks ∧
      List.Forall₂ (fun method block => ∃ rest, block = goMethodStart context method ++ rest)
        methods blocks) ∧
    ∃ files before after, Target.go.dialect.emit operations context = .ok files ∧
      files.get? (Target.go.dialect.layout context).client =
        some (before ++ goStructText context ++ after) := by
  intro methods
  have letters : (∀ method ∈ methods, beginsWithCapital method.name = true) ↔
      ∀ operation ∈ operations, BeginsWithLetter operation.id :=
    forall_methodsOf_iff exported_iff
  have fields : (∀ method ∈ methods, method.name ∉ goFields.map Prod.fst) ↔
      ∀ operation ∈ operations, pascalCase operation.id ∉ goFields.map Prod.fst := by
    constructor
    · intro none operation ho field
      obtain ⟨method, hm, same⟩ := (exists_method_iff operations field).mpr ⟨operation, ho, rfl⟩
      exact none method hm (same ▸ field)
    · intro none method hm field
      obtain ⟨operation, ho, same⟩ := (exists_method_iff operations field).mp ⟨method, hm, rfl⟩
      exact none operation ho (same ▸ field)
  refine ⟨?_, ⟨_, hasMethods_methodsOf .go context operations, ?_⟩,
    goStruct_emitted context operations⟩
  · constructor
    · intro callable operation ho
      exact ⟨letters.mp (fun method hm => (callable method hm).exported) operation ho,
        fields.mp (fun method hm => (callable method hm).no_field) operation ho⟩
    · intro plain method hm
      exact ⟨letters.mpr (fun operation ho => (plain operation ho).1) method hm,
        fields.mpr (fun operation ho => (plain operation ho).2) method hm⟩
  · exact List.forall₂_map_right_iff.mpr (List.forall₂_same.mpr fun method _ =>
      block_begins context method)

/-- An operation with this id. -/
def operationOf (id : String) : Operation := { petOperation "id" with id }

/-- The name of a field, one with an underscore before a digit, and the fallback. -/
theorem uncallable_methods :
    ["base_u_r_l", "2fa-setup", "?"].map
        (fun id => (methodsOf goDialect [] [operationOf id]).map (·.name)) =
      [["BaseURL"], ["_2faSetup"], ["operation"]] ∧
    ∀ name ∈ ["BaseURL", "_2faSetup", "operation"], ¬IsCallable name := by
  decide +kernel

end Covenant.Client
