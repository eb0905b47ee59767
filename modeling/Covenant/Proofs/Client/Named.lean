import Covenant.Client.Emit
import Covenant.Proofs.Contract.Parameters
import Covenant.Proofs.Naming.Identifier
import Covenant.Proofs.Result
/-!
# Names of types

A type is named by what a reference to a schema ends in, as far as an identifier may hold it.

* `isIdentifier_ofSchema`: a named type that a schema describes is named by an identifier.
* `isIdentifier_referencedNames`: so are the types that the operations of a contract refer to.
-/

namespace Covenant.Client

open Covenant.Contract Covenant.Json Covenant.Naming Covenant.Text

/-! ## 1. Schemas -/

/-- What names a type is an identifier. -/
theorem isIdentifier_ofReference {reference name : String}
    (h : (ApiType.ofReference reference).name? = some name) : IsIdentifier name := by
  unfold ApiType.ofReference at h
  split at h
  · cases h
  · rename_i c rest chars
    split at h
    · cases h
    · rename_i letter
      obtain rfl := Option.some.inj h
      refine ⟨fun d hd => ?_, c, by simp, by simpa using letter⟩
      rw [String.toList_ofList, ← chars] at hd
      exact (List.mem_filter.mp hd).2

mutual

/-- A named type that a schema describes is named by an identifier. -/
theorem isIdentifier_ofSchema {name : String} :
    ∀ schema : Value, (ApiType.ofSchema schema).name? = some name → IsIdentifier name
  | .members fields, h => by
    unfold ApiType.ofSchema at h
    split at h
    · exact isIdentifier_ofReference h
    · split at h
      case h_5 => exact isIdentifier_ofItems fields h
      all_goals cases h
  | .null, h | .flag _, h | .number _, h | .text _, h | .items _, h => by cases h

theorem isIdentifier_ofItems {name : String} :
    ∀ fields : List (String × Value),
      (ApiType.ofItems fields).name? = some name → IsIdentifier name
  | [], h => by cases h
  | (key, schema) :: rest, h => by
    rw [ApiType.ofItems] at h
    split at h
    · exact isIdentifier_ofSchema schema h
    · exact isIdentifier_ofItems rest h

end

/-! ## 2. Operations -/

/-- The operations of a contract are those that are extracted, if there are any. -/
theorem operations_eq_ok_iff {document : Document} {filter : Option TextSet}
    {operations : List Operation} :
    document.operations filter = .ok operations ↔
      document.extract filter = operations ∧ operations ≠ [] := by
  unfold Document.operations
  split
  · rename_i none
    simp [none, eq_comm]
  · rename_i found
    simp only [Except.ok.injEq]
    exact ⟨fun same => ⟨same, same ▸ found⟩, And.left⟩

/-- The types that an operation refers to are named by identifiers. -/
def NamesIdentifiers (operation : Operation) : Prop :=
  ∀ type ∈ typesIn operation, ∀ name, type.name? = some name → IsIdentifier name

theorem isIdentifier_parameter {declaration : ParameterDeclaration} {parameter : Parameter}
    {name : String} (h : Parameter.ofDeclaration? declaration = some parameter)
    (named : parameter.type.name? = some name) : IsIdentifier name := by
  unfold Parameter.ofDeclaration? at h
  split at h
  · cases h
  · obtain rfl := Option.some.inj h
    dsimp only at named
    cases described : declaration.schema with
    | none => simp [described, ApiType.name?] at named
    | some schema =>
      rw [described] at named
      exact isIdentifier_ofSchema schema named
  · cases h

theorem isIdentifier_bodyType {declaration : OperationDeclaration} {type : ApiType} {name : String}
    (h : bodyType? declaration = some type) (named : type.name? = some name) :
    IsIdentifier name := by
  obtain ⟨body, _, rfl⟩ := Option.map_eq_some_iff.mp h
  split at named
  · exact isIdentifier_ofSchema _ named
  · cases named

theorem isIdentifier_reply {declaration : OperationDeclaration} {type : ApiType} {name : String}
    (h : (replyOf declaration).type? = some type) (named : type.name? = some name) :
    IsIdentifier name := by
  unfold replyOf at h
  cases found : replyStatuses.findSome? fun status =>
      (declaration.responses.get? status).bind replyOf? with
  | none => simp [found, Reply.type?] at h
  | some reply =>
    obtain ⟨status, _, decided⟩ := List.exists_of_findSome?_eq_some found
    obtain ⟨response, _, decided⟩ := Option.bind_eq_some_iff.mp decided
    obtain ⟨schema, _, decided⟩ := Option.map_eq_some_iff.mp decided
    rw [found] at h
    split at decided
    · rename_i other described
      obtain ⟨schema, _, described⟩ := Option.map_eq_some_iff.mp described
      subst decided
      obtain rfl := Option.some.inj h
      obtain rfl := Option.some.inj named
      exact isIdentifier_ofSchema schema (by rw [described]; rfl)
    · subst decided
      obtain rfl := Option.some.inj h
      cases named

/-- **The operations of a contract refer to types that are named by identifiers.** -/
theorem namesIdentifiers_of_extract {document : Document} {filter : Option TextSet}
    {operation : Operation} (h : operation ∈ document.extract filter) :
    NamesIdentifiers operation := by
  obtain ⟨entry, _, declaration, _, made⟩ := exists_declaration_of_extract h
  intro type ht name named
  simp only [typesIn, made.parameters, made.bodyType, made.reply, List.mem_append, List.mem_map,
    Option.mem_toList] at ht
  rcases ht with (⟨parameter, hp, rfl⟩ | body) | reply
  · obtain ⟨_, _, declared⟩ := exists_declaration_of_merged hp
    exact isIdentifier_parameter declared named
  · exact isIdentifier_bodyType body named
  · exact isIdentifier_reply reply named

/-! ## 3. Names that are referred to -/

theorem mem_collectNames {types : List ApiType} {names : TextSet} {name : String} :
    name ∈ (types.foldl (fun names type => type.collectNames names) names).toList ↔
      name ∈ names.toList ∨ ∃ type ∈ types, type.name? = some name := by
  induction types generalizing names with
  | nil => simp
  | cons first rest ih =>
    rw [List.foldl_cons, ih]
    cases named : first.name? with
    | none => simp [ApiType.collectNames, named]
    | some other =>
      simp only [ApiType.collectNames, named, TextSet.mem_insert, List.exists_mem_cons_iff,
        Option.some.injEq, eq_comm (a := other)]
      tauto

/-- A name is referred to just if it is that of a type of some operation. -/
theorem mem_referencedNames {operations : List Operation} {name : String} :
    name ∈ (referencedNames operations).toList ↔
      ∃ operation ∈ operations, ∃ type ∈ typesIn operation, type.name? = some name := by
  rw [referencedNames, mem_collectNames]
  have none : name ∉ TextSet.empty.toList := fun h => nomatch h
  simp only [none, false_or, List.mem_flatMap]
  tauto

/-- **The names that the operations of a contract refer to are identifiers.** -/
theorem isIdentifier_referencedNames {document : Document} {filter : Option TextSet}
    {operations : List Operation} (h : document.operations filter = .ok operations) :
    ∀ name ∈ (referencedNames operations).toList, IsIdentifier name := by
  obtain ⟨rfl, _⟩ := operations_eq_ok_iff.mp h
  intro name hn
  obtain ⟨operation, ho, type, ht, named⟩ := mem_referencedNames.mp hn
  exact namesIdentifiers_of_extract ho type ht name named

theorem ofWordChars_referencedNames {document : Document} {filter : Option TextSet}
    {operations : List Operation} (h : document.operations filter = .ok operations) :
    ∀ name ∈ (referencedNames operations).toList, OfWordChars name :=
  fun name hn => (isIdentifier_referencedNames h name hn).chars

end Covenant.Client
