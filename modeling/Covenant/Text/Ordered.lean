/-!
# Maps and sets ordered by text

Keys are kept in strictly rising order of their code points, which is also the order of their
UTF-8 bytes.

* A `TextMap` is a list of pairs with rising keys; `insert` replaces the value of a key that is
  there already.
* A `TextSet` is a rising list of texts.
* `get?_insert` and `mem_insert` say what an insertion does to the view.
-/

namespace Covenant.Text

/-! ## 1. Maps -/

/-- The pairs with `key` and `value` put at their place. -/
def insertPair (key : String) (value : α) : List (String × α) → List (String × α)
  | [] => [(key, value)]
  | (k, v) :: rest =>
    if key < k then (key, value) :: (k, v) :: rest
    else if key = k then (key, value) :: rest
    else (k, v) :: insertPair key value rest

/-- Keys rise from pair to pair. -/
def Rising (pairs : List (String × α)) : Prop := pairs.Pairwise (fun a b => a.1 < b.1)

theorem mem_insertPair {key : String} {value : α} {pairs : List (String × α)} {p : String × α}
    (h : p ∈ insertPair key value pairs) : p = (key, value) ∨ p ∈ pairs := by
  induction pairs with
  | nil => simpa [insertPair] using h
  | cons head rest ih =>
    obtain ⟨k, v⟩ := head
    simp only [insertPair] at h
    split at h
    · simpa using h
    · split at h
      · rcases List.mem_cons.1 h with h | h <;> simp [h]
      · rcases List.mem_cons.1 h with h | h
        · simp [h]
        · rcases ih h with h | h <;> simp [h]

theorem lt_of_not_lt_of_ne {a b : String} (h : ¬a < b) (ne : ¬a = b) : b < a :=
  Decidable.byContradiction fun c =>
    ne (String.le_antisymm (String.not_lt.1 c) (String.not_lt.1 h))

theorem rising_insertPair {key : String} {value : α} {pairs : List (String × α)}
    (h : Rising pairs) : Rising (insertPair key value pairs) := by
  induction pairs with
  | nil => simp [insertPair, Rising]
  | cons head rest ih =>
    obtain ⟨k, v⟩ := head
    obtain ⟨above, tail⟩ := List.pairwise_cons.1 h
    simp only [insertPair]
    split
    · rename_i lt
      refine List.pairwise_cons.2 ⟨fun p hp => ?_, h⟩
      rcases List.mem_cons.1 hp with rfl | hp
      · exact lt
      · exact String.lt_trans lt (above p hp)
    · rename_i nlt
      split
      · rename_i eq
        subst eq
        exact List.pairwise_cons.2 ⟨above, tail⟩
      · rename_i ne
        refine List.pairwise_cons.2 ⟨fun p hp => ?_, ih tail⟩
        rcases mem_insertPair hp with rfl | hp
        · exact lt_of_not_lt_of_ne nlt ne
        · exact above p hp

/-- A map from texts, in the order of the texts. -/
structure TextMap (α : Type) where
  toList : List (String × α)
  rising : Rising toList
deriving Repr

namespace TextMap

/-- The map without keys. -/
def empty : TextMap α := ⟨[], by simp [Rising]⟩

instance : Inhabited (TextMap α) := ⟨empty⟩

/-- The map in which `key` has `value`. -/
def insert (m : TextMap α) (key : String) (value : α) : TextMap α :=
  ⟨insertPair key value m.toList, rising_insertPair m.rising⟩

/-- The map of a list of pairs; of several pairs with one key the last counts. -/
def ofList (pairs : List (String × α)) : TextMap α :=
  pairs.foldl (fun m p => m.insert p.1 p.2) empty

/-- The value of `key`. -/
def get? (m : TextMap α) (key : String) : Option α := m.toList.lookup key

/-- The keys, rising. -/
def keys (m : TextMap α) : List String := m.toList.map Prod.fst

/-- The values, in the order of their keys. -/
def values (m : TextMap α) : List α := m.toList.map Prod.snd

/-- There is no key. -/
def isEmpty (m : TextMap α) : Bool := m.toList.isEmpty

/-- The map with every value changed by `f`. -/
def map (f : α → β) (m : TextMap α) : TextMap β :=
  ⟨m.toList.map fun p => (p.1, f p.2), by
    simpa [Rising, List.pairwise_map] using m.rising⟩

theorem lookup_cons_eq_ite (key other : String) (value : α) (rest : List (String × α)) :
    ((key, value) :: rest).lookup other =
      if other = key then some value else rest.lookup other := by
  by_cases h : other = key
  · simp [h]
  · have hb : (other == key) = false := by simp [h]
    simp [List.lookup_cons, h, hb]

theorem lookup_insertPair (key other : String) (value : α) (pairs : List (String × α)) :
    (insertPair key value pairs).lookup other =
      if other = key then some value else pairs.lookup other := by
  induction pairs with
  | nil => exact lookup_cons_eq_ite key other value []
  | cons head rest ih =>
    obtain ⟨k, v⟩ := head
    simp only [insertPair]
    split
    · simp only [lookup_cons_eq_ite]
    · split
      · simp only [lookup_cons_eq_ite]
        grind
      · simp only [lookup_cons_eq_ite, ih]
        grind

theorem get?_insert (m : TextMap α) (key other : String) (value : α) :
    (m.insert key value).get? other = if other = key then some value else m.get? other :=
  lookup_insertPair key other value m.toList

end TextMap

/-! ## 2. Sets -/

/-- A finite set of texts, in their order. -/
structure TextSet where
  map : TextMap Unit
deriving Repr

namespace TextSet

/-- The set without members. -/
def empty : TextSet := ⟨.empty⟩

instance : Inhabited TextSet := ⟨empty⟩

/-- The set with `text` in it. -/
def insert (s : TextSet) (text : String) : TextSet := ⟨s.map.insert text ()⟩

/-- The set of the texts of a list. -/
def ofList (texts : List String) : TextSet := texts.foldl insert empty

/-- The members, rising. -/
def toList (s : TextSet) : List String := s.map.keys

/-- `text` is a member. -/
def contains (s : TextSet) (text : String) : Bool := s.toList.contains text

/-- There is no member. -/
def isEmpty (s : TextSet) : Bool := s.map.isEmpty

/-- The members of both sets. -/
def union (s t : TextSet) : TextSet := t.toList.foldl insert s

theorem mem_insertPair_keys {key other : String} {pairs : List (String × Unit)} :
    other ∈ (insertPair key () pairs).map Prod.fst ↔ other = key ∨ other ∈ pairs.map Prod.fst := by
  induction pairs with
  | nil => simp [insertPair]
  | cons head rest ih =>
    obtain ⟨k, v⟩ := head
    simp only [insertPair]
    split
    · simp
    · split
      · rename_i eq
        subst eq
        simp
      · simp only [List.map_cons, List.mem_cons, ih]
        grind

theorem mem_insert {s : TextSet} {text other : String} :
    other ∈ (s.insert text).toList ↔ other = text ∨ other ∈ s.toList :=
  mem_insertPair_keys

end TextSet

end Covenant.Text
