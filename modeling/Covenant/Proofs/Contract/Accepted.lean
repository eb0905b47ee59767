import Covenant.Contract.Load
import Covenant.Proofs.Contract.Fields
import Covenant.Proofs.Json.Grammar
/-!
# Which JSON is a contract

* The forms of the records of a contract, of which `Form.document` is the form of the whole.
  `accepts_document`: a contract is read from what has this form, and from nothing else.
* `parse_json_iff`: so a JSON text is a contract if it is not too large and has this form. One
  without a title or without paths is none, but for records that are written as arrays.
-/

namespace Covenant.Contract

open Covenant.Json Covenant.Record

/-! ## 1. The records of a contract -/

/-- What one media type holds. -/
def Form.media : Form := .record [.may "schema" (.orNull .schema)]

theorem accepts_media : Accepts jsonSource.readMedia Form.media :=
  accepts_record (by decide) (fun _ => rfl) fun found => by
    simpa using exists_optional_iff found "schema" accepts_schema.opt

/-- A parameter. -/
def Form.parameter : Form := .record [
  .may "name" (.orNull .text),
  .may "in" (.orNull .word),
  .may "required" .flag,
  .may "schema" (.orNull .schema),
  .may "$ref" (.orNull .text)]

theorem accepts_parameter : Accepts jsonSource.readParameter Form.parameter :=
  accepts_record (by decide) (fun _ => rfl) fun found =>
    then_fields (exists_optional_iff found "name" accepts_text.opt) fun _ =>
    then_fields (exists_optional_iff found "in" accepts_location.opt) fun _ =>
    then_fields (exists_withDefault_iff found "required" accepts_flag false) fun _ =>
    then_fields (exists_optional_iff found "schema" accepts_schema.opt) fun _ =>
    then_fields (exists_optional_iff found "$ref" accepts_text.opt) fun _ => no_fields _

/-- The content of a body or a response, by media type. -/
def FieldForm.content : FieldForm := .may "content" (.mapOf .media)

theorem exists_readContent_iff (found : Fields Json.Part) :
    (∃ content, jsonSource.readContent found = .ok content) ↔ FieldForm.content.Holds found :=
  exists_withDefault_iff found "content" accepts_media.mapOf .empty

/-- A request body. -/
def Form.body : Form := .record [.content, .may "required" .flag]

theorem accepts_body : Accepts jsonSource.readBody Form.body :=
  accepts_record (by decide) (fun _ => rfl) fun found =>
    then_fields (exists_readContent_iff found) fun _ =>
    then_fields (exists_withDefault_iff found "required" accepts_flag false) fun _ => no_fields _

/-- A response. -/
def Form.response : Form := .record [.may "description" (.orNull .text), .content]

theorem accepts_response : Accepts jsonSource.readResponse Form.response :=
  accepts_record (by decide) (fun _ => rfl) fun found =>
    then_fields (exists_optional_iff found "description" accepts_text.opt) fun _ =>
    then_fields (exists_readContent_iff found) fun _ => no_fields _

theorem accepts_responses : Accepts jsonSource.readResponses Form.response.mapOf :=
  accepts_response.entries _

/-- An operation. -/
def Form.operation : Form := .record [
  .may "operationId" (.orNull .text),
  .may "summary" (.orNull .text),
  .may "tags" (.listOf .text),
  .may "parameters" (.listOf .parameter),
  .may "requestBody" (.orNull .body),
  .may "responses" (.mapOf .response)]

theorem accepts_operation : Accepts jsonSource.readOperation Form.operation :=
  accepts_record (by decide) (fun _ => rfl) fun found =>
    then_fields (exists_optional_iff found "operationId" accepts_text.opt) fun _ =>
    then_fields (exists_optional_iff found "summary" accepts_text.opt) fun _ =>
    then_fields (exists_withDefault_iff found "tags" accepts_text.listOf []) fun _ =>
    then_fields (exists_withDefault_iff found "parameters" accepts_parameter.listOf []) fun _ =>
    then_fields (exists_optional_iff found "requestBody" accepts_body.opt) fun _ =>
    then_fields (exists_withDefault_iff found "responses" accepts_responses .empty) fun _ =>
    no_fields _

/-- What is declared for one path. -/
def Form.item : Form := .record [
  .may "get" (.orNull .operation),
  .may "post" (.orNull .operation),
  .may "put" (.orNull .operation),
  .may "patch" (.orNull .operation),
  .may "delete" (.orNull .operation),
  .may "parameters" (.listOf .parameter)]

theorem accepts_item : Accepts jsonSource.readItem Form.item :=
  accepts_record (by decide) (fun _ => rfl) fun found =>
    then_fields (exists_optional_iff found "get" accepts_operation.opt) fun _ =>
    then_fields (exists_optional_iff found "post" accepts_operation.opt) fun _ =>
    then_fields (exists_optional_iff found "put" accepts_operation.opt) fun _ =>
    then_fields (exists_optional_iff found "patch" accepts_operation.opt) fun _ =>
    then_fields (exists_optional_iff found "delete" accepts_operation.opt) fun _ =>
    then_fields (exists_withDefault_iff found "parameters" accepts_parameter.listOf []) fun _ =>
    no_fields _

theorem accepts_paths : Accepts jsonSource.readPaths Form.item.mapOf :=
  accepts_item.entries _

/-- What a contract says about itself. -/
def Form.info : Form := .record [
  .must "title" .text,
  .may "version" .text,
  .may "description" (.orNull .text)]

theorem accepts_info : Accepts jsonSource.readInfo Form.info :=
  accepts_record (by decide) (fun _ => rfl) fun found =>
    then_fields (exists_required_iff found "title" accepts_text) fun _ =>
    then_fields (exists_withDefault_iff found "version" accepts_text "") fun _ =>
    then_fields (exists_optional_iff found "description" accepts_text.opt) fun _ => no_fields _

/-- A server. -/
def Form.server : Form := .record [.must "url" .text, .may "description" (.orNull .text)]

theorem accepts_server : Accepts jsonSource.readServer Form.server :=
  accepts_record (by decide) (fun _ => rfl) fun found =>
    then_fields (exists_required_iff found "url" accepts_text) fun _ =>
    then_fields (exists_optional_iff found "description" accepts_text.opt) fun _ => no_fields _

/-- The components of a contract. -/
def Form.components : Form := .record [.may "schemas" (.mapOf .schema)]

theorem accepts_components : Accepts jsonSource.readComponents Form.components :=
  accepts_record (by decide) (fun _ => rfl) fun found => by
    simpa using exists_withDefault_iff found "schemas" accepts_schema.mapOf .empty

/-- A contract. -/
def Form.document : Form := .record [
  .may "openapi" (.orNull .text),
  .must "info" .info,
  .may "servers" (.listOf .server),
  .must "paths" (.mapOf .item),
  .may "components" .components]

/-- **A contract is read from what has the form of a contract**, and from nothing else. -/
theorem accepts_document : Accepts jsonSource.readDocument Form.document :=
  accepts_record (by decide) (fun _ => rfl) fun found =>
    then_fields (exists_optional_iff found "openapi" accepts_text.opt) fun _ =>
    then_fields (exists_required_iff found "info" accepts_info) fun _ =>
    then_fields (exists_withDefault_iff found "servers" accepts_server.listOf []) fun _ =>
    then_fields (exists_required_iff found "paths" accepts_paths) fun _ =>
    then_fields (exists_withDefault_iff found "components" accepts_components .empty) fun _ =>
    no_fields _

/-! ## 2. Texts -/

/-- An object with a title in its `info` and with paths. -/
structure HasMinimum (raw : Raw) : Prop where
  title : ∃ pairs info title, raw = .members pairs ∧ (some "info", .members info) ∈ pairs ∧
    (some "title", .text (some title)) ∈ info
  paths : ∃ pairs paths, raw = .members pairs ∧ (some "paths", .members paths) ∈ pairs

/-- The document or its `info` is written as an array. -/
def InRows (raw : Raw) : Prop :=
  (∃ raws, raw = .items raws) ∨
    ∃ pairs raws, raw = .members pairs ∧ (some "info", .items raws) ∈ pairs

/-- The field of an object that must be there. -/
theorem IsObject.exists_formed {fields : List FieldForm} {depth : Nat}
    {pairs : List (Option String × Raw)} (h : IsObject fields depth pairs) (name : String)
    {form : Form} (hf : .must name form ∈ fields) :
    ∃ raw, (some name, raw) ∈ pairs ∧ form ⟨depth, raw⟩ := by
  obtain ⟨⟨key, raw⟩, there, rfl⟩ := List.mem_map.mp (h.there _ hf rfl)
  exact ⟨raw, there, h.formed _ hf raw there⟩

theorem hasMinimum_or_inRows {raw : Raw} (h : Form.document (.whole raw)) :
    HasMinimum raw ∨ InRows raw := by
  cases raw with
  | items raws => exact .inr (.inl ⟨raws, rfl⟩)
  | members pairs =>
    have object : IsObject _ _ pairs := h
    obtain ⟨info, there, formed⟩ := object.exists_formed "info" (.tail _ (.head _))
    obtain ⟨paths, listed, _, _, same, _⟩ := object.exists_formed "paths"
      (.tail _ (.tail _ (.tail _ (.head _))))
    cases same
    cases info with
    | items raws => exact .inr (.inr ⟨pairs, raws, rfl, there⟩)
    | members members =>
      have inside : IsObject _ _ members := formed
      obtain ⟨_, titled, title, same⟩ := inside.exists_formed "title" (.head _)
      cases same
      exact .inl ⟨⟨pairs, members, title, rfl, there, titled⟩, ⟨pairs, _, rfl, listed⟩⟩
    | _ => cases formed
  | _ => cases h

/-- **A JSON text is a contract** if it is at most 8 MiB long and has the form of a contract, and
only then. One without a title or without paths is an error, unless a record in it is written as an
array. -/
theorem parse_json_iff {text : String} {raw : Raw} (json : IsJson raw text.toList) :
    ((∃ document, parse .json text = .ok document) ↔
      text.utf8ByteSize ≤ maxBytes ∧ Form.document (.whole raw)) ∧
    (¬HasMinimum raw → ¬InRows raw → ∃ error, parse .json text = .error error) := by
  have accepted : (∃ document, parse .json text = .ok document) ↔
      text.utf8ByteSize ≤ maxBytes ∧ Form.document (.whole raw) := by
    have read : ofJson text.toList = jsonSource.readDocument (.whole raw) := by
      rw [ofJson, read?_of_isJson json]
    rw [← accepts_document, parse]
    split
    · exact iff_of_false (by rintro ⟨_, ⟨⟩⟩) (by omega)
    · simp only [read, mapError_eq_ok_iff]
      exact (and_iff_right (by omega)).symm
  refine ⟨accepted, fun lacking objects => ?_⟩
  cases parsed : parse .json text with
  | error error => exact ⟨error, rfl⟩
  | ok document =>
    have formed := (accepted.mp ⟨document, parsed⟩).2
    exact absurd (hasMinimum_or_inRows formed) (not_or.mpr ⟨lacking, objects⟩)

/-- A contract with a server, an operation, and a member that no record has. -/
def petsText : String :=
  "\x7b\"info\":\x7b\"title\":\"T\"\x7d,\"servers\":[\x7b\"url\":\"/\"\x7d]," ++
    "\"paths\":\x7b\"/pets\":\x7b\"get\":\x7b\"operationId\":\"pets\"\x7d\x7d\x7d," ++
    "\"pages\":[true]\x7d"

/-- What it says. -/
def petsRaw : Raw := .members [
  (some "info", .members [(some "title", .text (some "T"))]),
  (some "servers", .items [.members [(some "url", .text (some "/"))]]),
  (some "paths", .members [(some "/pets", .members [(some "get", .members [
    (some "operationId", .text (some "pets"))])])]),
  (some "pages", .items [.flag true])]

/-- It is a contract. -/
theorem pets_accepted : IsJson petsRaw petsText.toList ∧
    ∃ document, parse .json petsText = .ok document := by
  have info : Written (.value (.members [(some "title", .text (some "T"))])) _ :=
    .members (.lastBare (by simp) (.bareText (by simp)))
  have server : Written (.value (.members [(some "url", .text (some "/"))])) _ :=
    .members (.lastBare (by simp) (.bareText (by simp)))
  have operation : Written (.value (.members [(some "operationId", .text (some "pets"))])) _ :=
    .members (.lastBare (by simp) (.bareText (by simp)))
  have item : Written (.value (.members [(some "get", _)])) _ :=
    .members (.lastBare (by simp) operation)
  have pages : Written (.members [(some "pages", .items [.flag true])]) _ :=
    .lastBare (by simp) (.items (.lastItem .yes (.refl _)))
  have json : IsJson petsRaw petsText.toList :=
    ⟨_, .members (.nextBare (by simp) info (.nextBare (by simp)
      (.items (.lastItem server (.refl _))) (.nextBare (by simp)
      (.members (.lastBare (by simp) item)) pages))), .refl _⟩
  refine ⟨json, (parse_json_iff json).1.mpr ⟨by decide +kernel, ?_⟩⟩
  rw [← accepts_document]
  exact ⟨_, rfl⟩

/-- A contract with a server that has no address. -/
def namelessText : String :=
  "\x7b\"info\":\x7b\"title\":\"T\"\x7d,\"paths\":\x7b\x7d," ++
    "\"servers\":[\x7b\"description\":\"x\"\x7d]\x7d"

/-- What it says. -/
def namelessRaw : Raw := .members [
  (some "info", .members [(some "title", .text (some "T"))]),
  (some "paths", .members []),
  (some "servers", .items [.members [(some "description", .text (some "x"))]])]

/-- A server needs its address. -/
theorem nameless_server_refused :
    read? namelessText.toList = some namelessRaw ∧ HasMinimum namelessRaw ∧
      namelessText.utf8ByteSize ≤ maxBytes ∧ (parse .json namelessText).isOk = false :=
  ⟨rfl, ⟨⟨_, _, _, rfl, .head _, .head _⟩, ⟨_, _, rfl, .tail _ (.head _)⟩⟩, by decide +kernel,
    by decide +kernel⟩

end Covenant.Contract
