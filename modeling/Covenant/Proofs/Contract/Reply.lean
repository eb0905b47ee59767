import Covenant.Proofs.Contract.Extract
/-!
# What decides a reply

Of the responses of an operation only the JSON of status 200 counts, or else that of 201.

* `OperationDeclaration.jsonAt`: the JSON of the response to a status; `deciding?` is the first of
  200 or else of 201.
* `IsReplyOf declaration reply`: the reply is what the deciding JSON says (`isReplyOf_replyOf`).
* `Document.AlikeInJson`: two documents declare the same but for what does not count: responses to
  other statuses, media types other than JSON, and descriptions.
* `extract_congr`: the same operations are extracted from both.
-/

namespace Covenant.Contract

open Covenant.Text

/-! ## 1. Deciding JSON -/

/-- The JSON of a content: its media types of JSON, in order, with their schemas. -/
def jsonPart (content : Content) : List (String × Option Json.Value) :=
  content.toList.filter fun entry => isJsonMediaType entry.1

namespace OperationDeclaration

/-- The JSON of the response to a status; there is none where there is no response. -/
def jsonAt (declaration : OperationDeclaration) (status : String) :
    List (String × Option Json.Value) :=
  ((declaration.responses.get? status).map fun response => jsonPart response.content).getD []

/-- The JSON that decides: the first of status 200, or else of 201. -/
def deciding? (declaration : OperationDeclaration) : Option (String × Option Json.Value) :=
  (declaration.jsonAt "200" ++ declaration.jsonAt "201").head?

end OperationDeclaration

/-- The reply that JSON with a schema, or without one, stands for. -/
def replyOfSchema (schema : Option Json.Value) : Reply :=
  match schema.map ApiType.ofSchema with
  | some (.named name) => .named name
  | _ => .untyped

theorem replyOfSchema_eq_named_iff {schema : Option Json.Value} {name : String} :
    replyOfSchema schema = .named name ↔ schema.map ApiType.ofSchema = some (.named name) := by
  unfold replyOfSchema
  rcases schema.map ApiType.ofSchema with _ | type
  · simp
  · cases type <;> simp

theorem replyOfSchema_eq_untyped_iff {schema : Option Json.Value} :
    replyOfSchema schema = .untyped ↔
      ∀ name, schema.map ApiType.ofSchema ≠ some (.named name) := by
  unfold replyOfSchema
  rcases schema.map ApiType.ofSchema with _ | type
  · simp
  · cases type <;> simp

theorem replyOfSchema_ne_void (schema : Option Json.Value) : replyOfSchema schema ≠ .void := by
  unfold replyOfSchema
  split <;> simp

theorem bind_replyOf? (declaration : OperationDeclaration) (status : String) :
    (declaration.responses.get? status).bind replyOf? =
      (declaration.jsonAt status).head?.map fun entry => replyOfSchema entry.2 := by
  unfold OperationDeclaration.jsonAt
  cases declaration.responses.get? status with
  | none => rfl
  | some response =>
    rw [Option.map_some, Option.getD_some, jsonPart, List.head?_filter, Option.bind_some, replyOf?,
      jsonSchema?, Option.map_map]
    rfl

/-- **The reply is decided by the JSON of 200, or else of 201.** -/
theorem replyOf_eq (declaration : OperationDeclaration) :
    replyOf declaration =
      (declaration.deciding?.map fun entry => replyOfSchema entry.2).getD .void := by
  rw [replyOf, replyStatuses, OperationDeclaration.deciding?, List.head?_append, Option.map_or,
    ← bind_replyOf?, ← bind_replyOf?]
  rw [List.findSome?_cons, List.findSome?_singleton]
  cases (declaration.responses.get? "200").bind replyOf? <;> rfl

/-- **The reply is what the deciding JSON says**: a named type just if its schema is mapped to this
type, JSON of no name just if it has another schema or none, and nothing just if there is no
JSON. -/
structure IsReplyOf (declaration : OperationDeclaration) (reply : Reply) : Prop where
  named : ∀ name, reply = .named name ↔ ∃ mediaType schema,
    declaration.deciding? = some (mediaType, some schema) ∧ ApiType.ofSchema schema = .named name
  untyped : reply = .untyped ↔ ∃ mediaType schema,
    declaration.deciding? = some (mediaType, schema) ∧
      ∀ name, schema.map ApiType.ofSchema ≠ some (.named name)
  void : reply = .void ↔ declaration.jsonAt "200" = [] ∧ declaration.jsonAt "201" = []

theorem isReplyOf_replyOf (declaration : OperationDeclaration) :
    IsReplyOf declaration (replyOf declaration) := by
  have none_iff : declaration.deciding? = none ↔
      declaration.jsonAt "200" = [] ∧ declaration.jsonAt "201" = [] := by
    rw [OperationDeclaration.deciding?, List.head?_eq_none_iff, List.append_eq_nil_iff]
  rw [replyOf_eq]
  cases decided : declaration.deciding? with
  | none =>
    refine ⟨fun name => ?_, ?_, iff_of_true rfl (none_iff.mp decided)⟩ <;> simp [decided]
  | some entry =>
    obtain ⟨mediaType, schema⟩ := entry
    have some_json := none_iff.not.mp (by simp [decided])
    refine ⟨fun name => ?_, ?_, iff_of_false (replyOfSchema_ne_void schema) some_json⟩
    · rw [decided, Option.map_some, Option.getD_some, replyOfSchema_eq_named_iff]
      simp [Option.map_eq_some_iff]
    · rw [decided, Option.map_some, Option.getD_some, replyOfSchema_eq_untyped_iff]
      simp

/-! ## 2. Documents that are alike -/

/-- Operations are declared alike but for what does not decide the reply: what is answered under
other statuses, in other media types than JSON, and descriptions. -/
structure OperationDeclaration.AlikeInJson (first second : OperationDeclaration) : Prop where
  operationId : first.operationId = second.operationId
  summary : first.summary = second.summary
  tags : first.tags = second.tags
  parameters : first.parameters = second.parameters
  requestBody : first.requestBody = second.requestBody
  ok : first.jsonAt "200" = second.jsonAt "200"
  created : first.jsonAt "201" = second.jsonAt "201"

/-- Paths declare alike operations under the same verbs. -/
structure PathEntry.AlikeInJson (first second : PathEntry) : Prop where
  template : first.template = second.template
  parameters : first.item.parameters = second.item.parameters
  operations : ∀ verb, Option.Rel OperationDeclaration.AlikeInJson (first.item.operation? verb)
    (second.item.operation? verb)

/-- **Documents declare alike paths in the same order**; whatever else they say may differ. -/
def Document.AlikeInJson (first second : Document) : Prop :=
  List.Forall₂ PathEntry.AlikeInJson first.paths second.paths

theorem replyOf_congr {first second : OperationDeclaration} (h : first.AlikeInJson second) :
    replyOf first = replyOf second := by
  rw [replyOf_eq, replyOf_eq, OperationDeclaration.deciding?, OperationDeclaration.deciding?, h.ok,
    h.created]

theorem describe?_congr {first second : PathEntry} (h : first.AlikeInJson second) (verb : Verb) :
    first.describe? verb = second.describe? verb := by
  have body : ∀ {first second : OperationDeclaration}, first.requestBody = second.requestBody →
      bodyType? first = bodyType? second := fun same => by rw [bodyType?, bodyType?, same]
  have there := h.operations verb
  unfold PathEntry.describe?
  generalize first.item.operation? verb = one, second.item.operation? verb = other at there ⊢
  cases there with
  | none => rfl
  | some alike =>
    simp only [Option.bind_some, Operation.ofDeclaration?, alike.operationId, alike.summary,
      alike.tags, alike.parameters, alike.requestBody, body alike.requestBody, replyOf_congr alike,
      h.template, h.parameters]

/-- **The same operations are extracted from documents that are alike.** -/
theorem extract_congr {first second : Document} (h : first.AlikeInJson second)
    (filter : Option TextSet) : first.extract filter = second.extract filter := by
  have entries : ∀ document : Document, document.extract none =
      document.paths.flatMap fun entry => Verb.all.filterMap entry.describe? :=
    fun document => congrArg document.paths.flatMap (funext extract_entry)
  rw [extract_eq_filter first, extract_eq_filter second, entries, entries]
  refine congrArg (List.filter _) ?_
  unfold Document.AlikeInJson at h
  generalize first.paths = paths, second.paths = others at h
  induction h with
  | nil => rfl
  | cons alike _ ih =>
    rw [List.flatMap_cons, List.flatMap_cons, ih, funext (describe?_congr alike)]

/-! ## 3. Replies of operations -/

/-- **Only the JSON of status 200, or else of 201, decides the reply.** From documents that differ
in nothing but responses to other statuses, media types other than JSON and descriptions the same
operations are extracted, or it is the same error. Each operation has the reply that the first JSON
of 200 stands for, or if 200 has none, that of 201. -/
theorem success_json_decides (document : Document) (filter : Option TextSet) :
    (∀ other : Document, document.AlikeInJson other →
      document.operations filter = other.operations filter ∧
        document.extract filter = other.extract filter) ∧
    ∀ operation ∈ document.extract filter, ∃ entry ∈ document.paths, ∃ declaration,
      entry.item.operation? operation.verb = some declaration ∧
        IsReplyOf declaration operation.reply := by
  refine ⟨fun other alike => ?_, fun operation ho => ?_⟩
  · have same := extract_congr alike filter
    refine ⟨?_, same⟩
    unfold Document.operations
    rw [same]
  · obtain ⟨entry, listed, declaration, declares, made⟩ := exists_declaration_of_extract ho
    exact ⟨entry, listed, declaration, declares, made.reply ▸ isReplyOf_replyOf declaration⟩

/-- A contract with one operation, which gives these responses. -/
def answering (description : Option String) (responses : List (String × Response)) : Document where
  openapi := none
  info := ⟨"Pets", "1", description⟩
  servers := []
  paths := [⟨"/pet", ⟨some ⟨some "getPet", none, [], [], none, .ofList responses⟩,
    none, none, none, none, []⟩⟩]
  schemas := .empty

/-- A content that is a pet in JSON, and other media types. -/
def petContent (others : List (String × Option Json.Value)) : Content :=
  .ofList (("application/json", some (.members [("$ref", .text "#/components/schemas/Pet")])) ::
    others)

/-- A contract that answers with a pet in JSON and says nothing else. -/
def tersePet : Document := answering none [("200", ⟨none, petContent []⟩)]

/-- A contract that also answers with a pet in HTML and with an error, and describes both. -/
def wordyPet : Document :=
  answering (some "All pets") [("200", ⟨some "A pet", petContent [("text/html", none)]⟩),
    ("404", ⟨some "No pet", .ofList [("application/json", none)]⟩)]

/-- The same operation is extracted from both, and it answers with a pet. -/
theorem wordyPet_extracted : tersePet.AlikeInJson wordyPet ∧
    tersePet.extract none = wordyPet.extract none ∧
    ∃ operation ∈ tersePet.extract none, operation.reply = .named "Pet" := by
  have alike : tersePet.AlikeInJson wordyPet := by
    refine .cons ⟨rfl, rfl, fun verb => ?_⟩ .nil
    cases verb with
    | get => exact .some ⟨rfl, rfl, rfl, rfl, rfl, rfl, rfl⟩
    | post | put | patch | delete => exact .none
  exact ⟨alike, ((success_json_decides tersePet none).1 wordyPet alike).2, _, .head _,
    by decide +kernel⟩

end Covenant.Contract
