import Covenant.Proofs.Contract.Extract
/-!
# Merged parameters

An operation has the parameters of its path and its own.

* `ParameterDeclaration.key?`: a declaration with a name and a known location is usable, and these
  two are its key.
* `IsDeclared declaration parameter`: the parameter is what the declaration says.
* `forall₂_mergeParameters`: the merged parameters are those of the declarations that are kept, one
  for each and in their order.
* `keys_mergeParameters`: their keys, from which it follows how often each comes (`count_merged`)
  and when they are different (`nodup_merged`).
* `parameters_merge` puts this together.
-/

namespace Covenant.Contract

variable {declaration : ParameterDeclaration} {parameter : Parameter}
  {shared own : List ParameterDeclaration}

/-! ## 1. Declarations -/

/-- The name of a parameter and where it is sent. -/
def Parameter.key (parameter : Parameter) : String × Location :=
  (parameter.name, parameter.location)

/-- The key of a declaration that is usable: it has a name and a location that clients know. -/
def ParameterDeclaration.key? (declaration : ParameterDeclaration) : Option (String × Location) :=
  match declaration.name, declaration.location with
  | some name, some location => if location = .other then none else some (name, location)
  | _, _ => none

/-- The declaration is usable. -/
def ParameterDeclaration.isUsable (declaration : ParameterDeclaration) : Bool :=
  declaration.key?.isSome

/-- The keys of the usable declarations, in order. -/
def keysOf (declarations : List ParameterDeclaration) : List (String × Location) :=
  declarations.filterMap (·.key?)

/-- The declaration is usable, and no usable one among `own` has its key. -/
def ParameterDeclaration.isKept (own : List ParameterDeclaration)
    (declaration : ParameterDeclaration) : Bool :=
  declaration.key?.any fun key => key ∉ keysOf own

/-- **The parameter is what the declaration says**, and in a path it is required in any case. -/
structure IsDeclared (declaration : ParameterDeclaration) (parameter : Parameter) : Prop where
  key : declaration.key? = some parameter.key
  type : parameter.type = (declaration.schema.map ApiType.ofSchema).getD .unknown
  required : parameter.required = true ↔ declaration.required = true ∨ parameter.location = .path

/-- A declaration describes a parameter just if it is usable. -/
theorem map_key_ofDeclaration? (declaration : ParameterDeclaration) :
    (Parameter.ofDeclaration? declaration).map Parameter.key = declaration.key? := by
  obtain ⟨name, location, required, schema, reference⟩ := declaration
  rcases name with _ | name
  · rfl
  · rcases location with _ | (_ | _ | _ | _ | _) <;> rfl

theorem isSome_ofDeclaration? (declaration : ParameterDeclaration) :
    (Parameter.ofDeclaration? declaration).isSome = declaration.isUsable := by
  rw [ParameterDeclaration.isUsable, ← map_key_ofDeclaration?, Option.isSome_map]

/-- What a declaration describes is what it says. -/
theorem isDeclared_of_ofDeclaration? (h : Parameter.ofDeclaration? declaration = some parameter) :
    IsDeclared declaration parameter := by
  have key : declaration.key? = some parameter.key := by
    rw [← map_key_ofDeclaration?, h, Option.map_some]
  unfold Parameter.ofDeclaration? at h
  split at h
  · cases h
  · obtain rfl := Option.some.inj h
    exact ⟨key, rfl, by simp⟩
  · cases h

/-! ## 2. Merging -/

/-- The parameters that declarations describe. -/
def described (declarations : List ParameterDeclaration) : List Parameter :=
  declarations.filterMap Parameter.ofDeclaration?

theorem keys_described (declarations : List ParameterDeclaration) :
    (described declarations).map Parameter.key = keysOf declarations := by
  rw [described, List.map_filterMap, keysOf]
  exact List.filterMap_congr fun declaration _ => map_key_ofDeclaration? declaration

/-- Declarations are told apart by their keys as the parameters that they describe are. -/
theorem filter_described (p : String × Location → Bool) (declarations : List ParameterDeclaration) :
    (described declarations).filter (fun parameter => p parameter.key) =
      described (declarations.filter fun declaration => declaration.key?.any p) := by
  simp only [described, List.filter_filterMap, List.filterMap_filter]
  refine List.filterMap_congr fun declaration _ => ?_
  rw [← map_key_ofDeclaration?]
  cases Parameter.ofDeclaration? declaration with
  | none => simp
  | some parameter => simp [Option.filter_some]

/-- Declarations that are not usable describe nothing. -/
theorem described_usable (declarations : List ParameterDeclaration) :
    described (declarations.filter (·.isUsable)) = described declarations := by
  have all := filter_described (fun _ => true) declarations
  rw [List.filter_true] at all
  rw [all]
  refine congrArg described (List.filter_congr fun declaration _ => ?_)
  cases key : declaration.key? <;> simp [ParameterDeclaration.isUsable, key]

/-- The parameters of the path stay if no parameter of the operation has their key. -/
theorem mergeParameters_eq (shared own : List ParameterDeclaration) :
    mergeParameters shared own =
      (described shared).filter (fun parameter => parameter.key ∉ keysOf own) ++ described own := by
  have hidden : ∀ parameter, (described own).any (Parameter.sameKey parameter) =
      decide (parameter.key ∈ keysOf own) := by
    intro parameter
    rw [← keys_described, Bool.eq_iff_iff, List.any_eq_true, decide_eq_true_iff, List.mem_map]
    refine exists_congr fun other => and_congr_right fun _ => ?_
    simp only [Parameter.sameKey, Parameter.key, Bool.and_eq_true, beq_iff_eq, Prod.mk.injEq]
    exact and_congr eq_comm eq_comm
  refine congrArg (· ++ described own) (List.filter_congr fun parameter _ => ?_)
  rw [decide_not, ← hidden]
  rfl

/-- **What is not usable neither appears nor hides anything.** -/
theorem mergeParameters_usable (shared own : List ParameterDeclaration) :
    mergeParameters (shared.filter (·.isUsable)) (own.filter (·.isUsable)) =
      mergeParameters shared own := by
  simp only [mergeParameters_eq, ← keys_described, described_usable]

/-- **There is one parameter for each declaration that is kept**, those of the path first. -/
theorem forall₂_mergeParameters (shared own : List ParameterDeclaration) :
    List.Forall₂ IsDeclared (shared.filter (·.isKept own) ++ own.filter (·.isUsable))
      (mergeParameters shared own) := by
  have usable : ∀ declarations : List ParameterDeclaration,
      List.Forall₂ IsDeclared (declarations.filter (·.isUsable)) (described declarations) := by
    intro declarations
    simp only [← isSome_ofDeclaration?]
    exact forall₂_filterMap fun _ _ _ => isDeclared_of_ofDeclaration?
  have both : ∀ declaration : ParameterDeclaration,
      (declaration.isUsable && declaration.isKept own) = declaration.isKept own := by
    intro declaration
    cases key : declaration.key? <;>
      simp [ParameterDeclaration.isUsable, ParameterDeclaration.isKept, key]
  have kept := usable (shared.filter (·.isKept own))
  simp only [List.filter_filter, both] at kept
  rw [mergeParameters_eq, filter_described fun key => key ∉ keysOf own]
  exact List.rel_append kept (usable own)

/-- Each parameter comes from a declaration of the path or of the operation. -/
theorem exists_declaration_of_merged (h : parameter ∈ mergeParameters shared own) :
    ∃ declaration ∈ shared ++ own, Parameter.ofDeclaration? declaration = some parameter := by
  rw [mergeParameters_eq, List.mem_append, List.mem_filter] at h
  rcases h with ⟨of_path, _⟩ | of_operation
  · obtain ⟨declaration, there, made⟩ := List.mem_filterMap.mp of_path
    exact ⟨declaration, List.mem_append_left _ there, made⟩
  · obtain ⟨declaration, there, made⟩ := List.mem_filterMap.mp of_operation
    exact ⟨declaration, List.mem_append_right _ there, made⟩

/-! ## 3. Keys of merged parameters -/

theorem keys_mergeParameters (shared own : List ParameterDeclaration) :
    (mergeParameters shared own).map Parameter.key =
      (keysOf shared).filter (· ∉ keysOf own) ++ keysOf own := by
  rw [mergeParameters_eq, List.map_append, ← keys_described, ← keys_described, List.filter_map]
  rfl

/-- **How often a key comes**: as often as the operation declares it, and if it does not, as often
as the path does. -/
theorem count_merged (shared own : List ParameterDeclaration) (key : String × Location) :
    ((mergeParameters shared own).map Parameter.key).count key =
      if key ∈ keysOf own then (keysOf own).count key else (keysOf shared).count key := by
  rw [keys_mergeParameters, List.count_append]
  split
  · rename_i there
    rw [List.count_eq_zero_of_not_mem (by simp [there]), Nat.zero_add]
  · rename_i away
    rw [List.count_eq_zero_of_not_mem away, Nat.add_zero, List.count_filter (by simp [away])]

theorem nodup_merged (different : (keysOf shared).Nodup) (different_own : (keysOf own).Nodup) :
    ((mergeParameters shared own).map Parameter.key).Nodup := by
  rw [keys_mergeParameters]
  refine List.nodup_append.mpr ⟨different.filter _, different_own, ?_⟩
  rintro key kept _ there rfl
  simpa [there] using List.of_mem_filter kept

/-! ## 4. All of it -/

/-- **How the parameters of a path and of an operation come together.** There is one parameter for
each usable declaration, except those of the path whose key a usable one of the operation has; those
of the path come first, and both are in the order in which they are declared. Each parameter is what
its declaration says, and one in a path is required. So each key comes as often as the operation
declares it, or else as often as the path does, and no key comes twice if none is declared twice in
one list. What is not usable neither appears nor hides anything. -/
theorem parameters_merge (shared own : List ParameterDeclaration) :
    List.Forall₂ IsDeclared (shared.filter (·.isKept own) ++ own.filter (·.isUsable))
      (mergeParameters shared own) ∧
    (∀ key, ((mergeParameters shared own).map Parameter.key).count key =
      if key ∈ keysOf own then (keysOf own).count key else (keysOf shared).count key) ∧
    mergeParameters (shared.filter (·.isUsable)) (own.filter (·.isUsable)) =
      mergeParameters shared own ∧
    (∀ parameter ∈ mergeParameters shared own,
      parameter.location = .path → parameter.required = true) ∧
    ((keysOf shared).Nodup → (keysOf own).Nodup →
      ((mergeParameters shared own).map Parameter.key).Nodup) := by
  refine ⟨forall₂_mergeParameters shared own, count_merged shared own,
    mergeParameters_usable shared own, fun parameter hp in_path => ?_, nodup_merged⟩
  obtain ⟨declaration, _, made⟩ := exists_declaration_of_merged hp
  exact (isDeclared_of_ofDeclaration? made).required.mpr (.inr in_path)

/-- The parameters of a path: an id, a limit and a reference that has neither name nor location. -/
def petShared : List ParameterDeclaration := [
  ⟨some "id", some .path, false, none, none⟩,
  ⟨some "limit", some .query, true, none, none⟩,
  ⟨none, none, false, none, some "#/components/parameters/page"⟩]

/-- The parameters of an operation: a limit of its own, and an id sent nobody knows where. -/
def petOwn : List ParameterDeclaration := [
  ⟨some "limit", some .query, false, none, none⟩,
  ⟨some "id", some .other, false, none, none⟩]

/-- The limit of the operation hides that of the path; the id stays. -/
theorem pet_parameters_merge : (keysOf petShared).Nodup ∧ (keysOf petOwn).Nodup ∧
    (mergeParameters petShared petOwn).map Parameter.key = [("id", .path), ("limit", .query)] ∧
    ((mergeParameters petShared petOwn).map Parameter.key).Nodup := by
  have shared : (keysOf petShared).Nodup := by decide
  have own : (keysOf petOwn).Nodup := by decide
  exact ⟨shared, own, by decide, (parameters_merge petShared petOwn).2.2.2.2 shared own⟩

end Covenant.Contract
