import Covenant.Proofs.Contract.Form
/-!
# Records in JSON

* `FieldForm.Holds`: what was found for a field is as the field says.
* `exists_fields_iff`: the known fields of a record are found, and hold, if the part has the form of
  the record: as an object (`forall_holds_object_iff`) or as the array of its fields
  (`forall_holds_row_iff`).
* `accepts_record`: a reader that builds a record of its fields accepts its form.
-/

namespace Covenant.Contract

open Covenant.Json Covenant.Record

/-! ## 1. Fields -/

/-- What is found for a field is as the field says. -/
def FieldForm.Holds (field : FieldForm) (found : Fields Json.Part) : Prop :=
  match found.lookup field.name with
  | some inner => field.form inner
  | none => field.isRequired = false

theorem FieldForm.holds_iff {field : FieldForm} {found : Fields Json.Part} :
    field.Holds found ↔
      (field.isRequired = true → ∃ inner, found.lookup field.name = some inner) ∧
      ∀ inner, found.lookup field.name = some inner → field.form inner := by
  unfold Holds
  cases found.lookup field.name with
  | some inner => simp
  | none => simp

section

variable {α : Type} {read : Json.Part → Except Fault α} {form : Form} (found : Fields Json.Part)
  (name : String)

theorem exists_required_iff (h : Accepts read form) :
    (∃ value, required found name read = .ok value) ↔ (FieldForm.must name form).Holds found := by
  unfold required FieldForm.Holds FieldForm.must
  cases found.lookup name with
  | some inner => exact h inner
  | none => exact iff_of_false (by rintro ⟨_, ⟨⟩⟩) (by simp)

theorem exists_withDefault_iff (h : Accepts read form) (default : α) :
    (∃ value, withDefault found name read default = .ok value) ↔
      (FieldForm.may name form).Holds found := by
  unfold withDefault FieldForm.Holds FieldForm.may
  cases found.lookup name with
  | some inner => exact h inner
  | none => exact iff_of_true ⟨default, rfl⟩ rfl

theorem exists_optional_iff {read : Json.Part → Except Fault (Option α)} (h : Accepts read form) :
    (∃ value, optional found name read = .ok value) ↔ (FieldForm.may name form).Holds found :=
  exists_withDefault_iff found name h none

end

/-! ## 2. Arrays for records -/

theorem lookup_zip {names : List String} (distinct : names.Nodup) {values : List Json.Part}
    {i : Nat} {name : String} (h : names[i]? = some name) :
    (names.zip values).lookup name = values[i]? := by
  induction names generalizing values i with
  | nil => simp at h
  | cons first rest ih =>
    obtain ⟨other, distinct⟩ := List.nodup_cons.mp distinct
    cases values with
    | nil => simp
    | cons value more =>
      cases i with
      | zero =>
        obtain rfl : first = name := Option.some.inj h
        simp
      | succ i =>
        have later : rest[i]? = some name := h
        have ne : name ≠ first := fun same => other (same ▸ List.mem_of_getElem? later)
        rw [List.zip_cons_cons, List.lookup_cons, beq_false_of_ne ne]
        exact ih distinct later

/-- Values are taken in order if there are not more than fields. -/
theorem positional_eq_ok_iff {names : List String} {values : List Json.Part}
    {found : Fields Json.Part} :
    positional names values = .ok found ↔
      values.length ≤ names.length ∧ names.zip values = found := by
  unfold positional
  split
  · exact iff_of_false (by rintro ⟨⟩) fun both => by omega
  · rw [Except.ok.injEq]
    exact (and_iff_right (by omega)).symm

theorem forall_holds_row_iff {fields : List FieldForm} (distinct : (fields.map (·.name)).Nodup)
    (depth : Nat) (raws : List Raw) :
    (∃ found, positional (fields.map (·.name)) (raws.map fun raw => (⟨depth, raw⟩ : Json.Part)) =
        .ok found ∧ ∀ field ∈ fields, field.Holds found) ↔ IsRow fields depth raws := by
  let parts : List Json.Part := raws.map fun raw => ⟨depth, raw⟩
  have holds : ∀ (i : Nat) (field : FieldForm), fields[i]? = some field →
      (field.Holds ((fields.map (·.name)).zip parts) ↔
        (field.isRequired = true → i < raws.length) ∧
          ∀ raw, raws[i]? = some raw → field.form ⟨depth, raw⟩) := by
    intro i field h
    have named : (fields.map (·.name))[i]? = some field.name := by rw [List.getElem?_map, h]; rfl
    rw [FieldForm.holds_iff, lookup_zip distinct named, List.getElem?_map]
    cases there : raws[i]? with
    | some raw => simp [(List.getElem?_eq_some_iff.mp there).1]
    | none =>
      have missing : ¬i < raws.length := Nat.not_lt.mpr (List.getElem?_eq_none_iff.mp there)
      simp [missing]
  constructor
  · rintro ⟨_, positioned, each⟩
    obtain ⟨short, rfl⟩ := positional_eq_ok_iff.mp positioned
    rw [List.length_map, List.length_map] at short
    exact ⟨short, fun i field h => ((holds i field h).mp (each field (List.mem_of_getElem? h))).1,
      fun i field raw h => ((holds i field h).mp (each field (List.mem_of_getElem? h))).2 raw⟩
  · intro row
    have short : parts.length ≤ (fields.map (·.name)).length := by
      rw [List.length_map, List.length_map]
      exact row.short
    refine ⟨_, positional_eq_ok_iff.mpr ⟨short, rfl⟩, fun field hf => ?_⟩
    obtain ⟨i, h⟩ := List.mem_iff_getElem?.mp hf
    exact (holds i field h).mpr ⟨row.there i field h, fun raw => row.formed i field raw h⟩

/-! ## 3. Objects for records -/

/-- The members of an object, as parts. -/
abbrev entriesOf (depth : Nat) (pairs : List (Option String × Raw)) : List (String × Json.Part) :=
  pairs.map fun pair => (pair.1.getD "", ⟨depth, pair.2⟩)

section

variable {depth : Nat} {pairs : List (Option String × Raw)}
  (names : ∀ pair ∈ pairs, pair.1.isSome = true)

include names

theorem length_filter_entriesOf (name : String) :
    ((entriesOf depth pairs).filter (·.1 == name)).length =
      (pairs.map Prod.fst).count (some name) := by
  rw [← List.countP_eq_length_filter, List.count, List.countP_map, List.countP_map]
  refine List.countP_congr fun pair hp => ?_
  obtain ⟨s, key⟩ := Option.isSome_iff_exists.mp (names pair hp)
  simp [key]

/-- A member that comes once is the one that is found. -/
theorem lookup_entriesOf {name : String} (once : (pairs.map Prod.fst).count (some name) ≤ 1)
    (inner : Json.Part) :
    (entriesOf depth pairs).lookup name = some inner ↔
      ∃ raw, (some name, raw) ∈ pairs ∧ inner = ⟨depth, raw⟩ := by
  induction pairs with
  | nil => simp
  | cons pair rest ih =>
    obtain ⟨key, raw⟩ := pair
    obtain ⟨named, later⟩ := List.forall_mem_cons.mp names
    obtain ⟨s, rfl⟩ : ∃ s, key = some s := Option.isSome_iff_exists.mp named
    by_cases same : s = name
    · subst same
      have alone : some s ∉ rest.map Prod.fst := by
        rw [List.map_cons, List.count_cons_self] at once
        exact List.count_eq_zero.mp (by omega)
      have found : (entriesOf depth ((some s, raw) :: rest)).lookup s = some ⟨depth, raw⟩ := by
        simp
      rw [found]
      constructor
      · intro same
        exact ⟨raw, List.mem_cons_self, (Option.some.inj same).symm⟩
      · rintro ⟨other, there, rfl⟩
        rcases List.mem_cons.mp there with here | behind
        · rw [(Prod.mk.inj here).2]
        · exact absurd (List.mem_map_of_mem behind) alone
    · have skipped : (entriesOf depth ((some s, raw) :: rest)).lookup name =
          (entriesOf depth rest).lookup name := by
        rw [entriesOf, List.map_cons, List.lookup_cons, Option.getD_some,
          beq_false_of_ne (Ne.symm same)]
      have other : ∀ other, (some name, other) ≠ (some s, raw) := fun _ e =>
        same (Option.some.inj (Prod.mk.inj e).1).symm
      rw [List.map_cons, List.count_cons_of_ne (by simpa using same)] at once
      simp only [skipped, ih later once, List.mem_cons, other, false_or]

end

theorem lookup_known {names : List String} {name : String} (h : name ∈ names)
    (entries : List (String × Json.Part)) :
    (entries.filter (names.contains ·.1)).lookup name = entries.lookup name := by
  induction entries with
  | nil => rfl
  | cons entry rest ih =>
    obtain ⟨key, inner⟩ := entry
    by_cases same : key = name
    · subst same
      rw [List.filter_cons_of_pos (by simpa using h), List.lookup_cons_self, List.lookup_cons_self]
    · have skip : ∀ more : List (String × Json.Part),
          ((key, inner) :: more).lookup name = more.lookup name := fun more => by
        rw [List.lookup_cons, beq_false_of_ne (Ne.symm same)]
      rw [List.filter_cons]
      split <;> simp only [skip, ih]

/-- The known fields are found if none of them comes twice. -/
theorem known_eq_ok_iff (known_names : List String) {depth : Nat}
    {pairs : List (Option String × Raw)} (names : ∀ pair ∈ pairs, pair.1.isSome = true)
    {found : Fields Json.Part} :
    known known_names (entriesOf depth pairs) = .ok found ↔
      (∀ name ∈ known_names, (pairs.map Prod.fst).count (some name) ≤ 1) ∧
        (entriesOf depth pairs).filter (known_names.contains ·.1) = found := by
  let kept := (entriesOf depth pairs).filter (known_names.contains ·.1)
  have count : ∀ name ∈ known_names, (kept.filter (·.1 == name)).length =
      (pairs.map Prod.fst).count (some name) := by
    intro name hn
    rw [List.filter_filter, ← length_filter_entriesOf names]
    congr 1
    refine List.filter_congr fun entry _ => ?_
    cases same : entry.1 == name with
    | false => rfl
    | true => simpa [eq_of_beq same] using hn
  simp only [known]
  split
  · rename_i name twice
    have more := List.find?_some twice
    rw [decide_eq_true_eq, count name (List.mem_of_find?_eq_some twice)] at more
    have few : ¬∀ name ∈ known_names, (pairs.map Prod.fst).count (some name) ≤ 1 := fun once =>
      absurd (once name (List.mem_of_find?_eq_some twice)) (by omega)
    exact iff_of_false (by rintro ⟨⟩) fun both => few both.1
  · rename_i once
    have few : ∀ name ∈ known_names, (pairs.map Prod.fst).count (some name) ≤ 1 := by
      intro name hn
      have not_twice := List.find?_eq_none.mp once name hn
      rw [decide_eq_true_eq, count name hn] at not_twice
      omega
    rw [Except.ok.injEq]
    exact (and_iff_right few).symm

theorem forall_holds_object_iff {fields : List FieldForm} {depth : Nat}
    {pairs : List (Option String × Raw)} (names : ∀ pair ∈ pairs, pair.1.isSome = true) :
    (∃ found, known (fields.map (·.name)) (entriesOf depth pairs) = .ok found ∧
      ∀ field ∈ fields, field.Holds found) ↔ IsObject fields depth pairs := by
  let kept := (entriesOf depth pairs).filter ((fields.map (·.name)).contains ·.1)
  have holds : ∀ field ∈ fields, (pairs.map Prod.fst).count (some field.name) ≤ 1 →
      (field.Holds kept ↔ (field.isRequired = true → some field.name ∈ pairs.map Prod.fst) ∧
        ∀ raw, (some field.name, raw) ∈ pairs → field.form ⟨depth, raw⟩) := by
    intro field hf once
    have found : ∀ inner, kept.lookup field.name = some inner ↔
        ∃ raw, (some field.name, raw) ∈ pairs ∧ inner = ⟨depth, raw⟩ := fun inner => by
      rw [lookup_known (List.mem_map_of_mem hf), lookup_entriesOf names once]
    rw [FieldForm.holds_iff]
    simp only [found]
    refine and_congr (imp_congr_right fun _ => ?_) ?_
    · simp
    · constructor
      · intro formed raw there
        exact formed _ ⟨raw, there, rfl⟩
      · rintro formed _ ⟨raw, there, rfl⟩
        exact formed raw there
  constructor
  · rintro ⟨_, taken, each⟩
    obtain ⟨once, rfl⟩ := (known_eq_ok_iff _ names).mp taken
    have once : ∀ field ∈ fields, (pairs.map Prod.fst).count (some field.name) ≤ 1 :=
      List.forall_mem_map.mp once
    exact ⟨names, once, fun field hf => ((holds field hf (once field hf)).mp (each field hf)).1,
      fun field hf => ((holds field hf (once field hf)).mp (each field hf)).2⟩
  · intro object
    refine ⟨kept, (known_eq_ok_iff _ names).mpr ⟨List.forall_mem_map.mpr object.once, rfl⟩,
      fun field hf => ?_⟩
    exact (holds field hf (object.once field hf)).mpr ⟨object.there field hf, object.formed field hf⟩

/-- **A record is read field by field**: its known fields are found if it has them at most once, or
if it is an array that is not too long. -/
theorem exists_fields_iff {fields : List FieldForm} (distinct : (fields.map (·.name)).Nodup)
    (part : Json.Part) :
    (∃ found, part.fields (fields.map (·.name)) = .ok found ∧ ∀ field ∈ fields, field.Holds found) ↔
      Form.record fields part := by
  obtain ⟨depth, raw⟩ := part
  cases raw with
  | items raws =>
    cases depth with
    | zero => exact iff_of_false (by rintro ⟨_, ⟨⟩, _⟩) id
    | succ depth => exact forall_holds_row_iff distinct depth raws
  | members pairs =>
    cases depth with
    | zero => exact iff_of_false (by rintro ⟨_, ⟨⟩, _⟩) id
    | succ depth =>
      have read : Json.Part.fields (fields.map (·.name)) ⟨depth + 1, .members pairs⟩ =
          Json.Part.entries ⟨depth + 1, .members pairs⟩ >>= known (fields.map (·.name)) := rfl
      constructor
      · rintro ⟨found, read, holds⟩
        obtain ⟨entries, named, taken⟩ := bind_eq_ok_iff.mp read
        obtain ⟨_, _, same, names⟩ := exists_entries named
        cases same
        rw [entries_members names] at named
        obtain rfl := Except.ok.inj named
        exact (forall_holds_object_iff names).mp ⟨found, taken, holds⟩
      · intro object
        rw [read, entries_members object.names]
        exact (forall_holds_object_iff object.names).mpr object
  | _ => exact iff_of_false (by rintro ⟨_, ⟨⟩, _⟩) (by cases depth <;> exact id)

/-- A record that is built of its fields. -/
theorem accepts_record {α : Type} {fields : List FieldForm}
    (distinct : (fields.map (·.name)).Nodup) {read : Json.Part → Except Fault α}
    {build : Fields Json.Part → Except Fault α}
    (split : ∀ part, read part = part.fields (fields.map (·.name)) >>= build)
    (each : ∀ found, (∃ value, build found = .ok value) ↔ ∀ field ∈ fields, field.Holds found) :
    Accepts read (Form.record fields) := by
  intro part
  rw [split, exists_bind_iff, ← exists_fields_iff distinct part]
  exact exists_congr fun found => and_congr_right fun _ => each found

section

variable {α β : Type} {x : Except Fault α} {build : α → Except Fault β} {field : FieldForm}
  {rest : List FieldForm} {found : Fields Json.Part}

/-- One field is read, and the rest of the record whatever the field holds. -/
theorem then_fields (here : (∃ a, x = .ok a) ↔ field.Holds found)
    (later : ∀ a, (∃ b, build a = .ok b) ↔ ∀ other ∈ rest, other.Holds found) :
    (∃ b, (x >>= build) = .ok b) ↔ ∀ other ∈ field :: rest, other.Holds found := by
  rw [exists_bind_iff, List.forall_mem_cons, ← here]
  constructor
  · rintro ⟨a, read, built⟩
    exact ⟨⟨a, read⟩, (later a).mp built⟩
  · rintro ⟨⟨a, read⟩, holds⟩
    exact ⟨a, read, (later a).mpr holds⟩

/-- The fields are read, and the record is built. -/
theorem no_fields (b : β) :
    (∃ b', (pure b : Except Fault β) = .ok b') ↔ ∀ field ∈ [], FieldForm.Holds field found :=
  iff_of_true ⟨b, rfl⟩ fun _ none => nomatch none

end

end Covenant.Contract
