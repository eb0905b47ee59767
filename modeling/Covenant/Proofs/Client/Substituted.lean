import Covenant.Proofs.Client.Address
import Covenant.Proofs.Naming.Braced
/-!
# Placeholders that are replaced

The path literal of a method is inlined. Its statements look for the placeholders as the contract
writes them.

* `IsTemplated`: in the path of an operation no brace is opened within braces, and no path parameter
  has one in its name.
* `replaceAllIn_eq_replaceEach`: where a language replaces every occurrence, its statements are read
  as replacements one after another.
* `placeholders_replaced_iff`: after all of them no placeholder is left in the path as the literal
  writes it, just if each that is there is what some statement looks for.
* `placeholders_replaced`: so it is where the names are inline themselves.
* `spaced_placeholder_stays`: a name with two spaces in it has one in the literal, and its
  placeholder is sent.
-/

namespace Covenant.Client

open Covenant.Contract Covenant.Naming Covenant.Text

/-! ## 1. Placeholders -/

/-- In the path no brace is opened within braces, and no path parameter has one in its name. -/
structure IsTemplated (operation : Operation) : Prop where
  flat : Flat operation.path.toList
  plain : ∀ parameter ∈ operation.parametersIn .path, NoBrace parameter.name.toList

instance (operation : Operation) : Decidable (IsTemplated operation) :=
  decidable_of_iff (_ ∧ _) ⟨fun h => ⟨h.1, h.2⟩, fun h => ⟨h.flat, h.plain⟩⟩

/-- Each name in braces in the path is that of a path parameter. -/
def IsDeclared (operation : Operation) : Prop :=
  ∀ name, NoBrace name → braced name <:+: operation.path.toList →
    ∃ parameter ∈ operation.parametersIn .path, parameter.name.toList = name

/-- What a statement about the path has between double quotes. -/
def PathStatement.literal : PathStatement → String
  | .assign literal => literal
  | .replace literal _ => literal

theorem literal_pathStatements (target : Target) (operation : Operation) (scope : Scope) :
    (Method.ofOperation target.dialect operation scope).1.pathStatements.map (·.literal) =
      inlineText operation.path :: (operation.parametersIn .path).map placeholderOf := by
  rw [← map_parameter_atLocation target.dialect operation scope (by decide), List.map_map]
  simp [Method.pathStatements, Method.ofOperation, PathStatement.literal, Function.comp_def]

theorem toList_placeholderOf (parameter : Parameter) :
    (placeholderOf parameter).toList = braced parameter.name.toList := by
  simp [placeholderOf, braced]

/-- In the languages that replace every occurrence, the path is made by one replacement after
another. -/
theorem replaceAllIn_eq_replaceEach {target : Target} (every : target ≠ .typescript)
    (path : List Char) (pairs : List (List Char × List Char)) :
    target.replaceAllIn path pairs = replaceEach path pairs := by
  cases target with
  | typescript => exact absurd rfl every
  | go | java | python | rust => rfl

/-! ## 2. Paths of one operation -/

/-- The placeholder occurs in a path as the path literal writes it. -/
def StandsIn (parameter : Parameter) (path : List Char) : Prop :=
  (inlineText (placeholderOf parameter)).toList <:+: path

instance (parameter : Parameter) (path : List Char) : Decidable (StandsIn parameter path) :=
  inferInstanceAs (Decidable (_ <:+: _))

/-- **A placeholder is left after all replacements just if it was there and no statement looks for
it** as the literal writes it. -/
theorem standsIn_replaceEach_iff {operation : Operation} (templated : IsTemplated operation)
    {values : List String} (long : values.length = (operation.parametersIn .path).length)
    (plain : ∀ value ∈ values, NoBrace value.toList) {parameter : Parameter}
    (hp : parameter ∈ operation.parametersIn .path) :
    StandsIn parameter (replaceEach (inlineText operation.path).toList
        (replacements operation values)) ↔
      StandsIn parameter (inlineText operation.path).toList ∧
        ∀ other ∈ operation.parametersIn .path,
          placeholderOf other ≠ inlineText (placeholderOf parameter) := by
  obtain ⟨inner, plain_inner, inlined⟩ := exists_inline_braced (templated.plain parameter hp)
  have literal : (inlineText (placeholderOf parameter)).toList = braced inner := by
    rw [inlineText, String.toList_ofList, toList_placeholderOf, inlined]
  have firsts : (replacements operation values).map Prod.fst =
      (operation.parametersIn .path).map fun other => (placeholderOf other).toList :=
    List.map_fst_zip (by simp [long])
  have named : ∀ pair ∈ replacements operation values,
      ∃ old, NoBrace old ∧ pair.1 = braced old := by
    intro pair there
    obtain ⟨other, ho, same⟩ := List.mem_map.mp (firsts ▸ List.mem_map_of_mem there)
    exact ⟨_, templated.plain other ho, by rw [← same, toList_placeholderOf]⟩
  have sent : ∀ pair ∈ replacements operation values, NoBrace pair.2 := by
    intro pair there
    obtain ⟨value, hv, same⟩ := List.mem_map.mp (List.of_mem_zip there).2
    exact same ▸ plain value hv
  have missed : (∀ pair ∈ replacements operation values, pair.1 ≠ braced inner) ↔
      ∀ other ∈ operation.parametersIn .path,
        placeholderOf other ≠ inlineText (placeholderOf parameter) := by
    have paired : (∀ pair ∈ replacements operation values, pair.1 ≠ braced inner) ↔
        ∀ old ∈ (replacements operation values).map Prod.fst, old ≠ braced inner := by simp
    rw [paired, firsts, List.forall_mem_map]
    simp only [← literal, ne_eq, String.toList_inj]
  have flat : Flat (inlineText operation.path).toList := by
    rw [inlineText, String.toList_ofList]
    exact flat_inline_iff.mpr templated.flat
  rw [StandsIn, StandsIn, literal, braced_infix_replaceEach_iff flat named sent plain_inner, missed]

/-- **Where the names are inline themselves, no placeholder is left.** -/
theorem placeholders_replaced {operation : Operation} (templated : IsTemplated operation)
    (tidy : ∀ parameter ∈ operation.parametersIn .path,
      inlineText (placeholderOf parameter) = placeholderOf parameter)
    {values : List String} (long : values.length = (operation.parametersIn .path).length)
    (plain : ∀ value ∈ values, NoBrace value.toList) {parameter : Parameter}
    (hp : parameter ∈ operation.parametersIn .path) :
    ¬StandsIn parameter (replaceEach (inlineText operation.path).toList
      (replacements operation values)) := by
  rw [standsIn_replaceEach_iff templated long plain hp]
  rintro ⟨-, missed⟩
  exact missed parameter hp (tidy parameter hp).symm

/-- **No placeholder is left in the path just if each that is in its literal is what a statement
looks for.** These are the literals of the statements that stand in every method. -/
theorem placeholders_replaced_iff {operation : Operation} (templated : IsTemplated operation) :
    (∀ (target : Target) context scope,
      ∃ (statements : List PathStatement) (before after : String),
      (Method.ofOperation target.dialect operation scope).1.render target.dialect context = .ok
        (before ++ .join (statements.map (·.write target.pathForm)) ++ after) ∧
      statements.map (·.literal) =
        inlineText operation.path :: (operation.parametersIn .path).map placeholderOf) ∧
    ∀ values : List String, values.length = (operation.parametersIn .path).length →
      (∀ value ∈ values, NoBrace value.toList) →
      ((∀ parameter ∈ operation.parametersIn .path,
          ¬StandsIn parameter (replaceEach (inlineText operation.path).toList
            (replacements operation values))) ↔
        ∀ parameter ∈ operation.parametersIn .path,
          StandsIn parameter (inlineText operation.path).toList →
          ∃ other ∈ operation.parametersIn .path,
            placeholderOf other = inlineText (placeholderOf parameter)) := by
  refine ⟨fun target context scope => ?_, fun values long plain => ?_⟩
  · obtain ⟨before, after, rendered⟩ := render_pathStatements target context
      (Method.ofOperation target.dialect operation scope).1
    exact ⟨_, before, after, rendered, literal_pathStatements target operation scope⟩
  · refine forall₂_congr fun parameter hp => ?_
    rw [standsIn_replaceEach_iff templated long plain hp]
    push Not
    rfl

/-- The id of a pet is put for its placeholder, whatever it is. -/
theorem pet_placeholder_replaced :
    IsTemplated (petOperation "id") ∧ ∀ value : String, NoBrace value.toList →
      ∀ parameter ∈ (petOperation "id").parametersIn .path,
        ¬StandsIn parameter (replaceEach (inlineText (petOperation "id").path).toList
          (replacements (petOperation "id") [value])) := by
  have templated : IsTemplated (petOperation "id") := by decide +kernel
  refine ⟨templated, fun value plain => ?_⟩
  refine ((placeholders_replaced_iff templated).2 [value] rfl (by simpa using plain)).mpr ?_
  decide +kernel

/-- An operation whose parameter has two spaces in its name. -/
def spacedOperation : Operation :=
  { petOperation "pet  id" with path := "/pets/\x7bpet  id\x7d" }

/-- A document with this operation. -/
def spacedDocument : Document :=
  { petDocument "pet  id" with
    paths := (petDocument "pet  id").paths.map fun entry =>
      { entry with template := "/pets/\x7bpet  id\x7d" } }

theorem spacedOperation_isDeclared : IsDeclared spacedOperation := by
  intro name plain inside
  refine ⟨_, .head _, ?_⟩
  have bare : NoBrace "/pets/".toList := by decide
  have parts : spacedOperation.path.toList = "/pets/".toList ++ braced "pet  id".toList := by
    decide +kernel
  rw [parts, braced_infix_append_iff bare.closes plain] at inside
  have there := inside.resolve_left (not_infix_of_noBrace bare name)
  exact ((braced_infix_braced_iff plain (by decide)).mp there).symm

/-- **A name with two spaces has one in the path literal, and no statement looks for that.** -/
theorem spaced_placeholder_stays :
    spacedOperation ∈ spacedDocument.extract none ∧ IsTemplated spacedOperation ∧
      IsDeclared spacedOperation ∧ NoBrace "7".toList ∧
      ∃ parameter ∈ spacedOperation.parametersIn .path,
        StandsIn parameter (replaceEach (inlineText spacedOperation.path).toList
          (replacements spacedOperation ["7"])) := by
  have templated : IsTemplated spacedOperation := by decide +kernel
  refine ⟨.head _, templated, spacedOperation_isDeclared, by decide, _, .head _, ?_⟩
  rw [standsIn_replaceEach_iff templated rfl (by decide) (.head _)]
  decide +kernel

end Covenant.Client
