import Covenant.Contract.JsonSource
import Covenant.Proofs.Result
/-!
# Forms of JSON

* `Form`: what a part of a contract may be. The forms of records say which fields must be there and
  of which form the known fields are; other fields are free.
* `Accepts read form`: a reader gives a result for the parts of this form, and for no others. Texts,
  words, lists, maps and kept values are read so.
-/

namespace Covenant.Contract

open Covenant.Json Covenant.Record

/-! ## 1. Forms -/

/-- What a part of a contract may be. -/
abbrev Form := Json.Part → Prop

/-- A text, with no half of a surrogate pair in it. -/
def Form.text : Form := fun part => ∃ s, part.raw = .text (some s)

/-- A boolean. -/
def Form.flag : Form := fun part => ∃ b, part.raw = .flag b

/-- A word, or an object that names it by its one member, which is `null`. -/
def Form.word : Form := fun part =>
  Form.text part ∨ ∃ depth s, part = ⟨depth + 1, .members [(some s, .null)]⟩

/-- `null` or a part of the form. -/
def Form.orNull (form : Form) : Form := fun part => part.raw = .null ∨ form part

/-- An array with items of the form. -/
def Form.listOf (form : Form) : Form := fun part =>
  ∃ depth raws, part = ⟨depth + 1, .items raws⟩ ∧ ∀ raw ∈ raws, form ⟨depth, raw⟩

/-- An object with members of the form. -/
def Form.mapOf (form : Form) : Form := fun part =>
  ∃ depth pairs, part = ⟨depth + 1, .members pairs⟩ ∧
    ∀ pair ∈ pairs, pair.1.isSome = true ∧ form ⟨depth, pair.2⟩

/-- A value that is kept as it is: brackets are not too deep, texts and names are whole, and numbers
have a double near them. -/
inductive Kept : Nat → Raw → Prop
  | null {depth : Nat} : Kept depth .null
  | flag {depth : Nat} {b : Bool} : Kept depth (.flag b)
  | number {depth : Nat} {n : RawNumber} {value : Number} (near : n.number = .ok value) :
      Kept depth (.number n)
  | text {depth : Nat} {s : String} : Kept depth (.text (some s))
  | items {depth : Nat} {raws : List Raw} (h : ∀ raw ∈ raws, Kept depth raw) :
      Kept (depth + 1) (.items raws)
  | members {depth : Nat} {pairs : List (Option String × Raw)}
      (names : ∀ pair ∈ pairs, pair.1.isSome = true) (h : ∀ pair ∈ pairs, Kept depth pair.2) :
      Kept (depth + 1) (.members pairs)

/-- A value that is kept as it is. -/
def Form.schema : Form := fun part => Kept part.depth part.raw

/-- A field that a record knows. -/
structure FieldForm where
  name : String
  isRequired : Bool
  form : Form

/-- The field if it must be there. -/
def FieldForm.must (name : String) (form : Form) : FieldForm := ⟨name, true, form⟩

/-- The field if it may be missing. -/
def FieldForm.may (name : String) (form : Form) : FieldForm := ⟨name, false, form⟩

/-- The members of an object are those of a record: no known field comes twice, none that must be
there is missing, and each is of its form. -/
structure IsObject (fields : List FieldForm) (depth : Nat) (pairs : List (Option String × Raw)) :
    Prop where
  names : ∀ pair ∈ pairs, pair.1.isSome = true
  once : ∀ field ∈ fields, (pairs.map Prod.fst).count (some field.name) ≤ 1
  there : ∀ field ∈ fields, field.isRequired = true → some field.name ∈ pairs.map Prod.fst
  formed : ∀ field ∈ fields, ∀ raw, (some field.name, raw) ∈ pairs → field.form ⟨depth, raw⟩

/-- The items of an array are the fields of a record in order, the last of which may be missing. -/
structure IsRow (fields : List FieldForm) (depth : Nat) (raws : List Raw) : Prop where
  short : raws.length ≤ fields.length
  there : ∀ (i : Nat) (field : FieldForm), fields[i]? = some field → field.isRequired = true →
    i < raws.length
  formed : ∀ (i : Nat) (field : FieldForm) (raw : Raw), fields[i]? = some field →
    raws[i]? = some raw → field.form ⟨depth, raw⟩

/-- A record: an object, or the array of its fields. -/
def Form.record (fields : List FieldForm) : Form
  | ⟨depth + 1, .members pairs⟩ => IsObject fields depth pairs
  | ⟨depth + 1, .items raws⟩ => IsRow fields depth raws
  | _ => False

/-! ## 2. Readers -/

/-- The reader gives a result for the parts of this form, and for no others. -/
def Accepts {α : Type} (read : Json.Part → Except Fault α) (form : Form) : Prop :=
  ∀ part, (∃ value, read part = .ok value) ↔ form part

section

variable {α β : Type} {x : Except Fault α} {read : Json.Part → Except Fault α} {form : Form}

theorem exists_bind_iff {f : α → Except Fault β} :
    (∃ b, (x >>= f) = .ok b) ↔ ∃ a, x = .ok a ∧ ∃ b, f a = .ok b := by
  cases x <;> simp [bind, Except.bind]

theorem exists_map_iff {f : α → β} : (∃ b, (f <$> x) = .ok b) ↔ ∃ a, x = .ok a := by
  cases x <;> simp [Functor.map, Except.map]

theorem exists_pure (a : α) : ∃ b, (pure a : Except Fault α) = .ok b := ⟨a, rfl⟩

/-- What is only built of a result does not fail. -/
theorem exists_bind_pure_iff {f : α → β} :
    (∃ b, (x >>= fun a => pure (f a)) = .ok b) ↔ ∃ a, x = .ok a := by
  simp only [exists_bind_iff, exists_pure, and_true]

theorem exists_mapM_iff {f : α → Except Fault β} {items : List α} :
    (∃ results, items.mapM f = .ok results) ↔ ∀ item ∈ items, ∃ result, f item = .ok result := by
  induction items with
  | nil => simp [pure, Except.pure]
  | cons first rest ih =>
    simp only [List.mapM_cons, exists_bind_iff, List.forall_mem_cons, ← ih]
    constructor
    · rintro ⟨result, here, more, later, -⟩
      exact ⟨⟨result, here⟩, more, later⟩
    · rintro ⟨⟨result, here⟩, more, later⟩
      exact ⟨result, here, more, later, exists_pure _⟩

theorem accepts_text : Accepts Json.Part.text Form.text := by
  rintro ⟨depth, raw⟩
  cases raw with
  | text s => cases s <;> simp [Json.Part.text, Form.text]
  | _ => simp [Json.Part.text, Form.text]

theorem accepts_flag : Accepts Json.Part.flag Form.flag := by
  rintro ⟨depth, raw⟩
  cases raw <;> simp [Json.Part.flag, Form.flag]

theorem Accepts.opt (h : Accepts read form) : Accepts (jsonSource.opt read) form.orNull := by
  rintro ⟨depth, raw⟩
  have kept : raw ≠ .null → ((∃ value, jsonSource.opt read ⟨depth, raw⟩ = .ok value) ↔
      form ⟨depth, raw⟩) := by
    intro other
    have present : jsonSource.present? ⟨depth, raw⟩ = .ok (some ⟨depth, raw⟩) := by
      cases raw <;> first | rfl | exact absurd rfl other
    rw [← h, Source.opt, present]
    exact exists_map_iff
  by_cases null : raw = .null
  · subst null
    exact iff_of_true ⟨none, rfl⟩ (.inl rfl)
  · rw [kept null, Form.orNull]
    simp [null]

theorem Accepts.listOf (h : Accepts read form) : Accepts (jsonSource.listOf read) form.listOf := by
  rintro ⟨depth, raw⟩
  cases raw with
  | items raws =>
    cases depth with
    | zero => exact iff_of_false (by rintro ⟨_, ⟨⟩⟩) (by simp [Form.listOf])
    | succ depth =>
      have read_each : jsonSource.listOf read ⟨depth + 1, .items raws⟩ =
          (raws.map fun raw => (⟨depth, raw⟩ : Json.Part)).mapM read := rfl
      rw [read_each, exists_mapM_iff, List.forall_mem_map]
      simp only [h _, Form.listOf]
      constructor
      · exact fun each => ⟨depth, raws, rfl, each⟩
      · rintro ⟨_, _, same, each⟩
        cases same
        exact each
  | _ => exact iff_of_false (by rintro ⟨_, ⟨⟩⟩) (by simp [Form.listOf])

/-- The members of an object have names if they can be read, and only then. -/
theorem entries_members {depth : Nat} {pairs : List (Option String × Raw)}
    (names : ∀ pair ∈ pairs, pair.1.isSome = true) :
    Json.Part.entries ⟨depth + 1, .members pairs⟩ =
      .ok (pairs.map fun pair => (pair.1.getD "", ⟨depth, pair.2⟩)) := by
  let entry : Option String × Raw → Except Fault (String × Json.Part) := fun pair => do
    return (← Json.Part.name pair.1, ⟨depth, pair.2⟩)
  have each : ∀ pair ∈ pairs, entry (id pair) = .ok (pair.1.getD "", ⟨depth, pair.2⟩) := by
    rintro ⟨key, raw⟩ hp
    obtain ⟨s, rfl⟩ := Option.isSome_iff_exists.mp (names _ hp)
    rfl
  have all := mapM_map_eq_ok each
  rw [List.map_id] at all
  exact all

theorem exists_entries {part : Json.Part} {found : List (String × Json.Part)}
    (h : part.entries = .ok found) :
    ∃ depth pairs, part = ⟨depth + 1, .members pairs⟩ ∧
      ∀ pair ∈ pairs, pair.1.isSome = true := by
  obtain ⟨depth, raw⟩ := part
  cases raw with
  | members pairs =>
    cases depth with
    | zero => cases h
    | succ depth =>
      refine ⟨depth, pairs, rfl, fun pair hp => ?_⟩
      obtain ⟨entry, named⟩ := exists_mapM_iff.mp ⟨found, h⟩ pair hp
      obtain ⟨key, raw⟩ := pair
      cases key with
      | none => cases named
      | some s => rfl
  | _ => cases h

theorem accepts_location : Accepts jsonSource.location Form.word := by
  have choice : ∀ part : Json.Part,
      (∃ value, jsonSource.location part = .ok value) ↔ ∃ word, part.choice = .ok word :=
    fun part => exists_bind_pure_iff
  rintro ⟨depth, raw⟩
  rw [choice]
  cases raw with
  | text s => cases s <;> simp [Json.Part.choice, Json.Part.text, Form.word, Form.text]
  | members pairs =>
    constructor
    · rintro ⟨word, chosen⟩
      obtain ⟨found, entries, chosen⟩ := bind_eq_ok_iff.mp chosen
      obtain ⟨depth, pairs, same, names⟩ := exists_entries entries
      rw [same, entries_members names] at entries
      obtain rfl := Except.ok.inj entries
      rw [same]
      rcases pairs with _ | ⟨⟨key, inner⟩, _ | ⟨second, more⟩⟩
      · cases chosen
      · obtain ⟨s, rfl⟩ := Option.isSome_iff_exists.mp (names _ List.mem_cons_self)
        cases inner with
        | null => exact .inr ⟨depth, s, rfl⟩
        | _ => cases chosen
      · cases chosen
    · rintro (⟨s, ⟨⟩⟩ | ⟨depth, s, ⟨⟩⟩)
      exact ⟨s, rfl⟩
  | _ => simp [Json.Part.choice, Form.word, Form.text]

/-- A map is read if each of its values can be read. -/
theorem accepts_entries (h : Accepts read form) (part : Json.Part) :
    (∃ found, part.entries = .ok found ∧ ∃ values, Source.pairsOf read found = .ok values) ↔
      form.mapOf part := by
  have values : ∀ (depth : Nat) (pairs : List (Option String × Raw)),
      (∃ values, Source.pairsOf read (pairs.map fun pair =>
        (pair.1.getD "", (⟨depth, pair.2⟩ : Json.Part))) = .ok values) ↔
      ∀ pair ∈ pairs, form ⟨depth, pair.2⟩ := by
    intro depth pairs
    rw [Source.pairsOf, exists_mapM_iff, List.forall_mem_map]
    refine forall₂_congr fun pair _ => ?_
    rw [exists_bind_pure_iff, ← h]
  constructor
  · rintro ⟨found, entries, read⟩
    obtain ⟨depth, pairs, rfl, names⟩ := exists_entries entries
    rw [entries_members names] at entries
    obtain rfl := Except.ok.inj entries
    exact ⟨depth, pairs, rfl, fun pair hp => ⟨names pair hp, (values _ _).mp read pair hp⟩⟩
  · rintro ⟨depth, pairs, rfl, each⟩
    exact ⟨_, entries_members fun pair hp => (each pair hp).1,
      (values _ _).mpr fun pair hp => (each pair hp).2⟩

/-- Whatever is built of the values of a map. -/
theorem Accepts.entries (h : Accepts read form) (build : List (String × α) → β) :
    Accepts (fun part => do return build (← Source.pairsOf read (← part.entries))) form.mapOf := by
  intro part
  rw [← accepts_entries h, exists_bind_iff]
  exact exists_congr fun found => and_congr_right fun _ => exists_bind_pure_iff

theorem Accepts.mapOf (h : Accepts read form) : Accepts (jsonSource.mapOf read) form.mapOf :=
  h.entries _

end

theorem kept_number_iff {depth : Nat} {n : RawNumber} :
    Kept depth (.number n) ↔ ∃ value, n.number = .ok value :=
  ⟨fun | .number near => ⟨_, near⟩, fun ⟨_, near⟩ => .number near⟩

theorem kept_items_iff {depth : Nat} {raws : List Raw} :
    Kept (depth + 1) (.items raws) ↔ ∀ raw ∈ raws, Kept depth raw :=
  ⟨fun | .items each => each, .items⟩

theorem kept_members_iff {depth : Nat} {pairs : List (Option String × Raw)} :
    Kept (depth + 1) (.members pairs) ↔
      ∀ pair ∈ pairs, pair.1.isSome = true ∧ Kept depth pair.2 :=
  ⟨fun | .members names each => fun pair hp => ⟨names pair hp, each pair hp⟩,
    fun h => .members (fun pair hp => (h pair hp).1) fun pair hp => (h pair hp).2⟩

mutual

/-- A value is kept if its brackets, texts and numbers allow it. -/
theorem exists_value_iff (depth : Nat) (raw : Raw) :
    (∃ value, raw.value depth = .ok value) ↔ Kept depth raw := by
  cases raw with
  | null => exact iff_of_true ⟨_, rfl⟩ .null
  | flag b => exact iff_of_true ⟨_, rfl⟩ .flag
  | number n => rw [Raw.value, exists_bind_pure_iff, kept_number_iff]
  | text s =>
    cases s with
    | none => exact iff_of_false (by rintro ⟨_, ⟨⟩⟩) (by rintro ⟨⟩)
    | some s => exact iff_of_true ⟨_, rfl⟩ .text
  | items raws =>
    cases depth with
    | zero => exact iff_of_false (by rintro ⟨_, ⟨⟩⟩) (by rintro ⟨⟩)
    | succ depth =>
      rw [Raw.value, exists_bind_pure_iff, exists_rawValues_iff depth raws, kept_items_iff]
  | members pairs =>
    cases depth with
    | zero => exact iff_of_false (by rintro ⟨_, ⟨⟩⟩) (by rintro ⟨⟩)
    | succ depth =>
      rw [Raw.value, exists_bind_pure_iff, exists_rawMembers_iff depth pairs, kept_members_iff]

theorem exists_rawValues_iff (depth : Nat) (raws : List Raw) :
    (∃ values, rawValues depth raws = .ok values) ↔ ∀ raw ∈ raws, Kept depth raw := by
  cases raws with
  | nil => exact iff_of_true ⟨_, rfl⟩ (by simp)
  | cons raw rest =>
    rw [List.forall_mem_cons, ← exists_value_iff depth raw, ← exists_rawValues_iff depth rest]
    simp only [rawValues, exists_bind_iff, exists_pure, and_true, exists_and_right]

theorem exists_rawMembers_iff (depth : Nat) (pairs : List (Option String × Raw)) :
    (∃ values, rawMembers depth pairs = .ok values) ↔
      ∀ pair ∈ pairs, pair.1.isSome = true ∧ Kept depth pair.2 := by
  cases pairs with
  | nil => exact iff_of_true ⟨_, rfl⟩ (by simp)
  | cons pair rest =>
    obtain ⟨key, raw⟩ := pair
    rw [rawMembers, exists_bind_iff, List.forall_mem_cons, ← exists_value_iff depth raw,
      ← exists_rawMembers_iff depth rest]
    cases key with
    | none => simp [Json.Part.name]
    | some s => simp [Json.Part.name, exists_bind_iff, pure, Except.pure]

end

theorem accepts_schema : Accepts jsonSource.schema Form.schema :=
  fun part => exists_value_iff part.depth part.raw

end Covenant.Contract
