import Covenant.Proofs.Client.Capture
import Covenant.Proofs.Contract.Extract
/-!
# Operations of one client

The methods of a client share nothing but the scope of their names. Where no two operations finish
with one name, each method is what it would be in a client of its own.

* `methodsOf_eq_map`: operations with different finished names take these names, in whatever scope
  holds none of them.
* `client_around`: what stands around a slot of a client module.
* `HasMethods` is said of operations and the blocks of their client module; `hasMethods_methodsOf`:
  every client module has its methods between two texts that depend on no method.
* `operations_apart`: the blocks of a client are those of its operations alone, and a filter leaves
  blocks out.
-/

namespace Covenant.Client

open Covenant.Contract Covenant.Json Covenant.Naming Covenant.Text

/-! ## 1. Names -/

/-- The name that the method of an operation has where no other method has it: the id, converted and
escaped. -/
def Dialect.finishedName (dialect : Dialect) (operation : Operation) : String :=
  spell dialect.methodReserved "operation" (dialect.methodCase operation.id)

/-- The method of an operation in a client of its own. -/
def Method.alone (dialect : Dialect) (operation : Operation) : Method :=
  (Method.ofOperation dialect operation []).1

section

variable (dialect : Dialect)

/-- A scope in which the name is free makes no difference to a method. -/
theorem ofOperation_of_free {operation : Operation} {scope : Scope}
    (free : dialect.finishedName operation ∉ scope) :
    Method.ofOperation dialect operation scope =
      (Method.alone dialect operation, dialect.finishedName operation :: scope) := by
  have claimed : ∀ {scope : Scope}, dialect.finishedName operation ∉ scope →
      claim dialect.methodReserved "operation" (dialect.methodCase operation.id) scope =
        (dialect.finishedName operation, dialect.finishedName operation :: scope) := by
    intro scope free
    have kept : firstFree scope (dialect.finishedName operation) =
        dialect.finishedName operation := if_neg (by simpa using free)
    exact congrArg (fun name => (name, name :: scope)) kept
  simp only [Method.alone, Method.ofOperation, claimed free, claimed List.not_mem_nil]

/-- **Operations with different finished names have the methods that each has alone.** -/
theorem methodsOf_eq_map {operations : List Operation} {scope : Scope}
    (distinct : (operations.map dialect.finishedName).Nodup)
    (free : ∀ operation ∈ operations, dialect.finishedName operation ∉ scope) :
    methodsOf dialect scope operations = operations.map (Method.alone dialect) := by
  induction operations generalizing scope with
  | nil => rfl
  | cons first rest ih =>
    obtain ⟨other, distinct⟩ := List.nodup_cons.mp distinct
    obtain ⟨here, later⟩ := List.forall_mem_cons.mp free
    -- the name of the first operation is added to the scope, and no other has it
    have grown : ∀ operation ∈ rest,
        dialect.finishedName operation ∉ dialect.finishedName first :: scope := by
      intro operation ho taken
      rcases List.mem_cons.mp taken with same | before
      · exact other (same ▸ List.mem_map_of_mem ho)
      · exact later operation ho before
    simp only [methodsOf, ofOperation_of_free dialect here, ih distinct grown, List.map_cons]

end

/-! ## 2. Templates -/

/-- The names by which a template chooses. -/
def Template.conditions (template : Template) : List String :=
  template.filterMap fun
    | .choice name _ _ => some name
    | _ => none

theorem row_congr {chosen other : String → Bool} {template : Template}
    (same : ∀ name ∈ template.conditions, chosen name = other name) :
    template.row chosen = template.row other := by
  refine List.flatMap_congr fun piece hp => ?_
  cases piece with
  | text text => rfl
  | slot name => rfl
  | choice name yes no =>
    have decided := same name (List.mem_filterMap.mpr ⟨_, hp, rfl⟩)
    rw [Piece.row, Piece.row, decided]

theorem fillRow_congr {bindings others : Bindings} {row : List Fragment}
    (same : ∀ name, .slot name ∈ row → bindings.lookup name = others.lookup name) :
    fillRow bindings row = fillRow others row := by
  induction row with
  | nil => rfl
  | cons fragment rest ih =>
    have later := ih fun name hn => same name (List.mem_cons_of_mem _ hn)
    cases fragment with
    | text text => simp only [fillRow, Fragment.fill, later]
    | slot name =>
      simp only [fillRow, Fragment.fill, fillSlot, same name List.mem_cons_self, later]

/-- **A template is filled by its slots and the names by which it chooses.** -/
theorem fill_congr {bindings others : Bindings} {template : Template}
    (same : ∀ name ∈ template.slots ++ template.conditions,
      bindings.lookup name = others.lookup name) :
    template.fill bindings = template.fill others := by
  have row : template.row (chosenBy bindings) = template.row (chosenBy others) :=
    row_congr fun name hn => by simp only [chosenBy, same name (List.mem_append_right _ hn)]
  rw [fill_eq_fillRow, fill_eq_fillRow, row]
  exact fillRow_congr fun name hn => same name (List.mem_append_left _ (mem_slots_of_row hn))

theorem Template.weave_append (first second : Template) (bindings : Bindings)
    (given : List (String × Woven)) :
    Template.weave (first ++ second) bindings given =
      first.weave bindings given ++ second.weave bindings given := by
  simp [Template.weave, Template.row, Client.weave]

/-- The client module chooses nothing, so a slot that it has once parts it in two. -/
theorem exists_split_client {target : Target} {slot : String}
    (used : .slot slot ∈ target.dialect.templates.client)
    (once : target.dialect.templates.client.slots.count slot = 1) :
    ∃ first last : Template, target.dialect.templates.client = first ++ .slot slot :: last ∧
      slot ∉ first.slots ++ first.conditions ∧ slot ∉ last.slots ++ last.conditions := by
  have none : target.dialect.templates.client.conditions = [] := by
    cases target <;> rfl
  obtain ⟨first, last, split⟩ : ∃ first last : Template,
      target.dialect.templates.client = first ++ .slot slot :: last := List.append_of_mem used
  have slots : target.dialect.templates.client.slots = first.slots ++ slot :: last.slots := by
    rw [split]
    simp [Template.slots]
  have conditions : first.conditions = [] ∧ last.conditions = [] := by
    rw [split] at none
    simpa [Template.conditions] using none
  rw [slots, List.count_append, List.count_cons_self] at once
  refine ⟨first, last, split, ?_, ?_⟩
  · rw [conditions.1, List.append_nil, ← List.count_eq_zero]
    omega
  · rw [conditions.2, List.append_nil, ← List.count_eq_zero]
    omega

/-! ## 3. Blocks -/

/-- The texts of the methods of a client, as they stand in its module. -/
def methodBlocks (dialect : Dialect) (context : EmitContext) (operations : List Operation) :
    Except TemplateError (List String) := do
  let methods ← (methodsOf dialect [] operations).mapM (·.render dialect context)
  return methods.map fun method => .ofList (trimEndOf '\n' method.toList)

/-- The client module of some operations has these blocks as its methods, with an empty line between
neighbours: it is the template of the client with the blocks in their slot. -/
structure HasMethods (target : Target) (context : EmitContext) (operations : List Operation)
    (blocks : List String) : Prop where
  rendered : methodBlocks target.dialect context operations = .ok blocks
  emitted : ∃ files before after, ∃ first last : Template,
    target.dialect.emit operations context = .ok files ∧
      files.get? (target.dialect.layout context).client =
        some (before ++ joinStrings "\n\n" blocks ++ after) ∧
      target.dialect.templates.client = first ++ .slot "methods" :: last ∧
      first.fill (fileBindings target.dialect operations context []) = .ok before ∧
      last.fill (fileBindings target.dialect operations context []) = .ok after

/-- The block of a method. -/
def blockOf (target : Target) (context : EmitContext) (method : Method) : String :=
  (trimmed (method.weave target.dialect context)).text

section

variable (target : Target) (context : EmitContext) (operations : List Operation)

theorem methodBlocks_eq :
    methodBlocks target.dialect context operations =
      .ok ((methodsOf target.dialect [] operations).map (blockOf target context)) := by
  have rendered := mapM_render_eq target context (methodsOf target.dialect [] operations)
  have block : ∀ method, blockOf target context method =
      .ofList (trimEndOf '\n' (method.weave target.dialect context).text.toList) :=
    fun method => (endsSolid_method target _).text_trimmed _
  simp [methodBlocks, rendered, block, bind, Except.bind, pure, Except.pure, Function.comp_def]

/-- The client module and the manifest are different files. -/
theorem client_ne_manifest :
    (target.dialect.layout context).client ≠ (target.dialect.layout context).manifest := by
  cases target with
  | go => exact (by decide : "client/client.go" ≠ "go.mod")
  | java => exact javaFile_ne_pom _
  | python => exact (by decide : "api_client.py" ≠ "requirements.txt")
  | rust => exact (by decide : "src/client.rs" ≠ "Cargo.toml")
  | typescript => exact (by decide : "src/api.ts" ≠ "package.json")

/-- The bindings of the client module of some operations. -/
def clientBindings : Bindings :=
  fileBindings target.dialect operations context
    ((methodsOf target.dialect [] operations).map fun method =>
      (method.weave target.dialect context).text)

/-- **What stands around a slot of a client module** are the parts of its template before and after
the slot, filled. -/
theorem client_around {slot : String} {first last : Template}
    (split : target.dialect.templates.client = first ++ .slot slot :: last) :
    ∃ before after,
      (weaveProject target operations context).get? (target.dialect.layout context).client =
        some (before ++ (boundTo (clientBindings target context operations)
          (fileParts target operations context) slot).text ++ after) ∧
      first.fill (clientBindings target context operations) = .ok before ∧
      last.fill (clientBindings target context operations) = .ok after := by
  let bindings := clientBindings target context operations
  let parts := fileParts target operations context
  have slots : target.dialect.templates.client.slots = first.slots ++ slot :: last.slots := by
    rw [split]
    simp [Template.slots]
  have filled : ∀ part : Template, (∀ name ∈ part.slots,
      name ∈ target.dialect.templates.client.slots) →
      part.fill bindings = .ok (part.weave bindings parts).text := by
    intro part within
    have bound := bound_file target _ (.tail _ (.head _))
    refine fill_eq_weave (fun name hn => bound name (within name hn)) ?_
    simp [parts, bindings, clientBindings, fileParts, fileBindings, TextMap.lookup_cons_eq_ite,
      aliases_eq, joinMethods_eq]
  have woven : weaveFile target operations context target.dialect.templates.client =
      first.weave bindings parts ++ boundTo bindings parts slot ++ last.weave bindings parts := by
    have alone : Template.weave [.slot slot] bindings parts = boundTo bindings parts slot := by
      simp [Template.weave, Template.row, Piece.row, weave]
    rw [← alone, ← Template.weave_append, ← Template.weave_append, ← List.append_cons, ← split]
    rfl
  refine ⟨_, _, ?_, filled first ?_, filled last ?_⟩
  · simp only [weaveProject, TextMap.get?_insert, client_ne_manifest, if_false, if_true, woven,
      Woven.text_append]
    rfl
  · exact fun name hn => slots ▸ List.mem_append_left _ hn
  · exact fun name hn => slots ▸ List.mem_append_right _ (.tail _ hn)

/-- **Every client module has its methods** between two texts that depend on none of them. -/
theorem hasMethods_methodsOf :
    HasMethods target context operations
      ((methodsOf target.dialect [] operations).map (blockOf target context)) := by
  have once : .slot "methods" ∈ target.dialect.templates.client ∧
      target.dialect.templates.client.slots.count "methods" = 1 := by
    cases target <;> decide +kernel
  obtain ⟨first, last, split, above, below⟩ := exists_split_client once.1 once.2
  obtain ⟨before, after, text, filled⟩ := client_around target context operations split
  -- a part of the template without the slot is filled whatever the methods are
  have alike : ∀ part : Template, "methods" ∉ part.slots ++ part.conditions →
      part.fill (fileBindings target.dialect operations context []) =
        part.fill (clientBindings target context operations) := by
    refine fun part absent => fill_congr fun name hn => ?_
    have other : name ≠ "methods" := fun same => absent (same ▸ hn)
    simp [clientBindings, fileBindings, TextMap.lookup_cons_eq_ite, other]
  have slot : boundTo (clientBindings target context operations)
      (fileParts target operations context) "methods" =
        weaveMethods target.dialect context (methodsOf target.dialect [] operations) := by
    simp [boundTo, fileParts]
  refine ⟨methodBlocks_eq target context operations, weaveProject target operations context,
    before, after, first, last, emit_eq_weave target operations context, ?_, split,
    (alike first above).trans filled.1, (alike last below).trans filled.2⟩
  rw [slot, weaveMethods, text_intercalate, List.map_map] at text
  exact text

end

/-! ## 4. Operations apart -/

/-- Operations with different finished names have the blocks that each has alone. -/
theorem hasMethods_alone (target : Target) (context : EmitContext) {operations : List Operation}
    (distinct : (operations.map target.dialect.finishedName).Nodup) :
    HasMethods target context operations (operations.map fun operation =>
      blockOf target context (.alone target.dialect operation)) := by
  have blocks := hasMethods_methodsOf target context operations
  rwa [methodsOf_eq_map target.dialect distinct fun _ _ => List.not_mem_nil, List.map_map] at blocks

/-- **Operations with different finished names do not touch each other's methods.** Each has one
block, which it has alone too, and a filter takes whole blocks out of the client module. -/
theorem operations_apart (target : Target) (context : EmitContext) {operations : List Operation}
    (distinct : (operations.map target.dialect.finishedName).Nodup) :
    ∃ block : Operation → String,
      (∀ operation ∈ operations, HasMethods target context [operation] [block operation]) ∧
      HasMethods target context operations (operations.map block) ∧
      (∀ keep : Operation → Bool, HasMethods target context (operations.filter keep)
        ((operations.filter keep).map block)) ∧
      ∀ (document : Document) (filter : Option TextSet), document.extract none = operations →
        HasMethods target context (document.extract filter)
          ((operations.filter fun operation => admits filter operation.id).map block) := by
  have kept : ∀ keep : Operation → Bool,
      ((operations.filter keep).map target.dialect.finishedName).Nodup := fun keep =>
    distinct.sublist ((List.filter_sublist).map _)
  refine ⟨fun operation => blockOf target context (.alone target.dialect operation), ?_,
    hasMethods_alone target context distinct,
    fun keep => hasMethods_alone target context (kept keep), fun document filter whole => ?_⟩
  · intro operation _
    exact hasMethods_alone target context (List.nodup_singleton _)
  · rw [extract_eq_filter, whole]
    exact hasMethods_alone target context (kept _)

/-- An operation without parameters. -/
def listOperation : Operation :=
  { petOperation "id" with id := "list-pets", path := "/pets", parameters := [] }

/-- Two operations in Go, of which one is left out. -/
theorem pets_apart :
    let context := EmitContext.ofDocument (petDocument "id")
    let operations := [listOperation, petOperation "id"]
    (operations.map Target.go.dialect.finishedName).Nodup ∧
      ∃ list get, HasMethods .go context operations [list, get] ∧
        HasMethods .go context [listOperation] [list] ∧
        HasMethods .go context (operations.filter fun operation => operation.id == "getPet")
          [get] := by
  have distinct :
      ([listOperation, petOperation "id"].map Target.go.dialect.finishedName).Nodup := by
    decide +kernel
  obtain ⟨block, alone, both, filtered, _⟩ :=
    operations_apart .go (.ofDocument (petDocument "id")) distinct
  exact ⟨distinct, block listOperation, block (petOperation "id"), both, alone _ (.head _),
    filtered fun operation => operation.id == "getPet"⟩

end Covenant.Client
