import Covenant.Proofs.Client.Capture
import Covenant.Proofs.Client.Declared
/-!
# Aliases with names that are taken

The client module declares its aliases beside names of its own: the class of the client, other types
and classes, and what it imports.

* `Target.keywords` are read off the reserved words, and `Target.moduleNames` off the template of the
  client; `reserved_iff` and `mem_clientNames_iff` say what is left out.
* `Target.IsTaken`: an alias of this name has no place in the client module, or hides what the
  module uses.
* `Document.referringTo`: a contract with one operation, whose reply is of a named type.
* `alias_iff_referred`: the aliases of a module are exactly the names that the operations refer to,
  and nothing keeps a name that is taken from being one.
-/

namespace Covenant.Client

open Covenant.Contract Covenant.Json Covenant.Naming Covenant.Text

/-! ## 1. Names in the client module -/

/-- The names in the code of a client module, besides those that its slots bring. -/
def Target.clientNames (target : Target) : List String :=
  target.wordsOf target.dialect.templates.client

/-- The words that a dialect keeps from identifiers although its language does not reserve them
everywhere: members of the client, helpers, locals of its methods, and what the language
predeclares. -/
def Target.freeWords : Target → List String
  | .go => ["append", "body", "bool", "bytes", "c", "data", "err", "error", "false", "fmt",
      "headers", "http", "int", "io", "json", "len", "nil", "path", "query", "result", "status",
      "string", "strings", "time", "true", "url"]
  | .java => ["body", "encode", "getBaseUrl", "headers", "path", "query", "requestJson",
      "requestText", "send"]
  | .python => ["base_url", "body", "headers", "path", "query", "quote", "requests", "self",
      "session", "timeout"]
  | .rust => ["base_url", "body", "body_json", "headers", "new", "path", "query", "request_json",
      "request_text", "send", "value"]
  | .typescript => ["await", "body", "headers", "path", "query"]

/-- The words that a language reserves and that its dialect does not keep from identifiers. -/
def Target.missedWords : Target → List String
  | .rust => ["Self"]
  | .go | .java | .python | .typescript => []

/-- The words that a language keeps for itself. -/
def Target.keywords (target : Target) : List String :=
  (target.dialect.reserved.filter fun word => !target.freeWords.contains word) ++
    target.missedWords

/-- **The words that a dialect keeps from identifiers** are keywords of its language, and those left
out for being none; one keyword is missed, in Rust. -/
theorem reserved_iff (target : Target) (word : String) :
    word ∈ target.dialect.reserved ↔
      word ∈ target.keywords ∧ word ∉ target.missedWords ∨ word ∈ target.freeWords := by
  have free : ∀ word ∈ target.freeWords, word ∈ target.dialect.reserved := by
    cases target <;> decide
  have missed : ∀ word ∈ target.missedWords, word ∉ target.dialect.reserved := by
    cases target <;> decide
  simp only [Target.keywords, List.mem_append, List.mem_filter]
  by_cases other : word ∈ target.freeWords
  · simp [other, free word other]
  · by_cases miss : word ∈ target.missedWords
    · simp [other, miss, missed word miss]
    · simp [other, miss]

theorem isIdentifier_of_mem_keywords (target : Target) :
    ∀ name ∈ target.keywords, IsIdentifier name := by
  cases target <;> decide

/-- The names in the code of a client module that are neither keywords nor types, classes or
imports: parts of the paths of imports, attributes, functions and their type parameters, members,
variants, locals, and the macros and values that the language brings. -/
def Target.innerNames : Target → List String
  | .go => ["client", "Status", "Body", "e", "Error", "BaseURL", "HTTPClient", "New", "baseURL",
      "Timeout", "encodeQuery", "name", "value", "c", "send", "method", "path", "body", "headers",
      "reader", "nil", "payload", "err", "req", "resp", "data"]
  | .java => ["com", "java", "DEFAULT_BASE_URL", "baseUrl", "http", "mapper", "getBaseUrl",
      "status", "body", "getStatus", "getBody", "encode", "value", "send", "method", "path",
      "headers", "publisher", "builder", "header", "response", "e", "T", "requestJson", "type",
      "requestText"]
  | .python => ["typing", "urllib", "__init__", "self", "status", "body", "super", "f", "base_url",
      "timeout", "_send", "method", "path", "headers", "kwargs", "response", "_request_json",
      "_request_text"]
  | .rust => ["allow", "dead_code", "unused_mut", "derive", "Status", "status", "body",
      "Transport", "Json", "f", "write", "err", "base_url", "http", "DEFAULT_BASE_URL", "new",
      "send", "method", "path", "headers", "request", "format", "name", "value", "Some",
      "response", "text", "Err", "Ok", "None", "request_json", "T", "_", "request_text",
      "param_text", "other", "encode_component", "out", "byte", "matches", "b"]
  | .typescript => ["readonly", "status", "body", "constructor", "request", "failed", "baseUrl",
      "async", "send", "method", "path", "headers", "init", "undefined", "JSON", "response",
      "await", "fetch", "requestJson", "T", "text", "as", "requestText"]

/-- The types, classes and imports that a client module declares or uses by name. -/
def Target.moduleNames (target : Target) : List String :=
  target.clientNames.filter fun name =>
    !target.keywords.contains name && !target.innerNames.contains name

/-- What is left out of them is in the code of the client module. -/
theorem innerNames_subset (target : Target) : target.innerNames ⊆ target.clientNames := by
  cases target
  all_goals
    apply subset_wordsOf
    · repeat first | exact .nil | apply Spelled.slot | apply Spelled.text rfl
    · decide +kernel
    · decide

/-- **The names in the code of a client module** are those of types, classes and imports, keywords,
and those left out for being none of these. -/
theorem mem_clientNames_iff (target : Target) (name : String) :
    name ∈ target.clientNames ↔
      name ∈ target.moduleNames ∨ name ∈ target.innerNames ∨
        name ∈ target.clientNames ∧ name ∈ target.keywords := by
  have inner := @innerNames_subset target name
  rw [Target.moduleNames, List.mem_filter]
  by_cases there : name ∈ target.clientNames
  · by_cases other : name ∈ target.innerNames
    · simp [there, other]
    · by_cases word : name ∈ target.keywords <;> simp [there, other, word]
  · have outer : name ∉ target.innerNames := fun within => there (inner within)
    simp [there, outer]

/-- The error class of TypeScript is one of them. -/
theorem apiError_mem_moduleNames : "ApiError" ∈ Target.typescript.moduleNames := by
  have declared : ["ApiError"] ⊆ Target.typescript.clientNames := by
    apply subset_wordsOf
    · repeat first | exact .nil | apply Spelled.slot | apply Spelled.text rfl
    · decide +kernel
    · decide
  exact List.mem_filter.mpr ⟨declared (.head _), by decide +kernel⟩

/-- **The name is taken**: by the class of the client, by another type, class or import of its
module, or by the language. -/
def Target.IsTaken (target : Target) (context : EmitContext) (name : String) : Prop :=
  name = context.className ∨ name ∈ target.moduleNames ∨ name ∈ target.keywords

theorem isIdentifier_of_isTaken {document : Document} {context : EmitContext}
    (of : context.Of document) {target : Target} {name : String}
    (taken : target.IsTaken context name) : IsIdentifier name := by
  rcases taken with rfl | own | word
  · rw [of.named.className]
    exact isIdentifier_apiClassName _
  · exact (mem_namesIn.mp (List.mem_filter.mp own).1).2
  · exact isIdentifier_of_mem_keywords target name word

/-! ## 2. Contracts that refer to a name -/

/-- A reference to a schema with an identifier for its name names a type so. -/
theorem ofReference_schemas {name : String} (h : IsIdentifier name) :
    ApiType.ofReference ("#/components/schemas/" ++ name) = .named name := by
  have no_slash : '/' ∉ name.toList := fun slash => absurd (h.chars _ slash) (by decide)
  have last : ApiType.lastSegment ("#/components/schemas/" ++ name).toList = name.toList := by
    have split : ("#/components/schemas/" ++ name).toList =
        "#/components/schemas".toList ++ '/' :: name.toList := by
      rw [String.toList_append]
      rfl
    rw [ApiType.lastSegment, split, splitAtChar_append, splitAtChar_eq_singleton no_slash]
    simp
  have kept : name.toList.filter ApiType.isNameChar = name.toList :=
    List.filter_eq_self.mpr h.chars
  obtain ⟨c, first, letter⟩ := h.start
  obtain ⟨rest, text⟩ := List.head?_eq_some_iff.mp first
  rw [ApiType.ofReference, last, kept, text]
  simp [letter, ← text]

/-- The operation of a contract with a reply of a named type, as it is declared. -/
def referringDeclaration (name : String) : OperationDeclaration where
  operationId := some "getItem"
  summary := none
  tags := []
  parameters := []
  requestBody := none
  responses := .ofList [("200", ⟨none, .ofList [("application/json",
    some (.members [("$ref", .text ("#/components/schemas/" ++ name))]))]⟩)]

/-- The operation that is extracted from it. -/
def referringOperation (name : String) : Operation where
  id := "getItem"
  verb := .get
  path := "/item"
  summary := none
  tags := []
  hasBody := false
  bodyType := none
  parameters := []
  reply := .named name

/-- The contract with this operation for all others. -/
def referringTo (document : Document) (name : String) : Document :=
  { document with
    paths := [⟨"/item", ⟨some (referringDeclaration name), none, none, none, none, []⟩⟩] }

theorem replyOf_referringDeclaration {name : String} (h : IsIdentifier name) :
    replyOf (referringDeclaration name) = .named name := by
  let schema : Value := .members [("$ref", .text ("#/components/schemas/" ++ name))]
  have named : ApiType.ofSchema schema = .named name := ofReference_schemas h
  have response : (referringDeclaration name).responses.get? "200" =
      some ⟨none, .ofList [("application/json", some schema)]⟩ := rfl
  have json : jsonSchema? (.ofList [("application/json", some schema)]) = some (some schema) := by
    have said : isJsonMediaType "application/json" = true := by decide
    simp [jsonSchema?, TextMap.ofList, TextMap.insert, TextMap.empty, insertPair, said]
  simp [replyOf, replyStatuses, response, replyOf?, json, named]

theorem extract_referringTo (document : Document) {name : String} (h : IsIdentifier name) :
    (referringTo document name).extract none = [referringOperation name] := by
  have extracted : (referringTo document name).extract none =
      [{ referringOperation name with reply := replyOf (referringDeclaration name) }] := rfl
  rw [extracted, replyOf_referringDeclaration h]
  rfl

/-- The name is the only one that the contract refers to. -/
theorem referencedNames_referringTo (document : Document) {name : String} (h : IsIdentifier name) :
    (referencedNames ((referringTo document name).extract none)).toList = [name] := by
  rw [extract_referringTo document h]
  rfl

/-- The names of a context do not depend on the operations. -/
theorem EmitContext.Of.referringTo {document : Document} {context : EmitContext}
    (of : context.Of document) (name : String) : context.Of (referringTo document name) := by
  induction of with
  | given => exact .given
  | service _ name ih => exact ih.service name
  | package _ name ih => exact ih.package name
  | url _ url ih => exact ih.url url

/-! ## 3. Aliases -/

/-- **The aliases of a client module are the names that its operations refer to**, whatever is
taken.
Among the contracts that give one and the same context, each identifier is referred to by one, and
no other name is by any. So for each name that is taken there is one whose client module declares
an alias of this name. -/
theorem alias_iff_referred {document : Document} {context : EmitContext} (of : context.Of document)
    {target : Target} (byName : target.dialect.types.named = .byName) :
    (∀ filter, HasAliases target context (document.extract filter)
        (referencedNames (document.extract filter)).toList ∧
      ∀ name, name ∈ (referencedNames (document.extract filter)).toList ↔
        ∃ operation ∈ document.extract filter, ∃ type ∈ typesIn operation,
          type.name? = some name) ∧
    (∀ name, (∃ other : Document, context.Of other ∧
        name ∈ (referencedNames (other.extract none)).toList) ↔ IsIdentifier name) ∧
    ∀ name, target.IsTaken context name → ∃ other : Document, context.Of other ∧
      HasAliases target context (other.extract none) [name] := by
  refine ⟨fun filter => ⟨hasAliases_referencedNames byName context _, fun _ => mem_referencedNames⟩,
    fun name => ⟨?_, fun identifier => ?_⟩, fun name taken => ?_⟩
  · rintro ⟨other, _, referred⟩
    obtain ⟨operation, ho, type, ht, named⟩ := mem_referencedNames.mp referred
    exact namesIdentifiers_of_extract ho type ht name named
  · refine ⟨referringTo document name, of.referringTo name, ?_⟩
    rw [referencedNames_referringTo document identifier]
    exact List.mem_singleton_self name
  · have identifier := isIdentifier_of_isTaken of taken
    refine ⟨referringTo document name, of.referringTo name, ?_⟩
    have declared := hasAliases_referencedNames byName context
      ((referringTo document name).extract none)
    rwa [referencedNames_referringTo document identifier] at declared

/-- A keyword of Rust may be the name of an alias. -/
theorem match_declared :
    let context := EmitContext.ofDocument (petDocument "id")
    context.Of (petDocument "id") ∧ Target.rust.dialect.types.named = .byName ∧
      Target.rust.IsTaken context "match" ∧ ∃ other : Document, context.Of other ∧
        HasAliases .rust context (other.extract none) ["match"] := by
  intro context
  have derived : context.Of (petDocument "id") := .given
  have byName : Target.rust.dialect.types.named = .byName := rfl
  have taken : Target.rust.IsTaken context "match" := .inr (.inr (by decide))
  exact ⟨derived, byName, taken, (alias_iff_referred derived byName).2.2 "match" taken⟩

/-- **A contract that refers to a type `ApiError`** has an alias of this name in TypeScript, beside
the class of this name. -/
theorem apiError_declared_twice :
    let document := referringTo (petDocument "id") "ApiError"
    "ApiError" ∈ (referencedNames (document.extract none)).toList ∧
      Target.typescript.aliasLine "ApiError" = "export type ApiError = Record<string, any>;\n" ∧
      Target.typescript.IsTaken (.ofDocument document) "ApiError" := by
  intro document
  refine ⟨?_, by decide, .inr (.inl (apiError_mem_moduleNames))⟩
  rw [referencedNames_referringTo (petDocument "id") (by decide)]
  exact .head _

end Covenant.Client
