import Covenant.Text.Ordered
import Mathlib.Data.List.Lex
/-!
# The order of texts

Texts are ordered by their code points, which is the order of their UTF-8 bytes: the encodings of
two characters differ before either of them ends, and the greater character has the greater byte
there.

* `utf8_lt_iff`: one text is below another just if its bytes are.
* `toList_utf8_rise`: the members of a set rise byte by byte, so none is there twice.
* `lookup_of_mem`: where no key comes twice, each value is found for its key.
* `TextMap.get?_eq_some_iff`: so it is in a map.
-/

namespace Covenant.Text

/-! ## 1. Bytes -/

/-- The UTF-8 bytes of a text. -/
def utf8Bytes (s : String) : List UInt8 := s.toUTF8.data.toList

theorem utf8Bytes_eq (s : String) : utf8Bytes s = s.toList.flatMap String.utf8EncodeChar := by
  rw [utf8Bytes, String.toUTF8_eq_toByteArray, ← String.utf8Encode_toList, List.utf8Encode]
  simp

/-- The bytes of a smaller character are below those of a greater one, whatever follows. -/
theorem utf8EncodeChar_lt {c d : Char} (h : c < d) (s t : List UInt8) :
    String.utf8EncodeChar c ++ s < String.utf8EncodeChar d ++ t := by
  have lt : c.val.toNat < d.val.toNat := h
  have bound : d.val.toNat < 0x110000 := by
    rcases d.valid with low | high
    · exact Nat.lt_trans low (by decide)
    · exact high.2
  -- the digits to the base 64, of which all bytes are made, each from the last quotient
  have nested : ∀ v : Nat, v / 4096 = v / 64 / 64 ∧ v / 262144 = v / 64 / 64 / 64 :=
    fun v => by omega
  have small : ∀ v n k : Nat, 0 < n → n + k ≤ 256 → (v % n + k) % 256 = v % n + k :=
    fun v n k pos le => Nat.mod_eq_of_lt (by have := Nat.mod_lt v pos; omega)
  simp only [String.utf8EncodeChar]
  generalize c.val.toNat = v at lt ⊢
  generalize d.val.toNat = w at lt bound ⊢
  repeat' split
  all_goals try omega
  all_goals
    simp only [List.cons_append, List.nil_append, List.cons_lt_cons_iff, UInt8.lt_iff_toNat_lt,
      ← UInt8.toNat_inj, UInt8.toNat_ofNat', Nat.reducePow, small, nested, Nat.reduceAdd,
      Nat.reduceLeDiff, Nat.zero_lt_succ]
    omega

theorem flatMap_utf8EncodeChar_lt {l m : List Char} (h : l < m) :
    l.flatMap String.utf8EncodeChar < m.flatMap String.utf8EncodeChar := by
  induction l generalizing m with
  | nil =>
    cases m with
    | nil => exact absurd h (List.lt_irrefl _)
    | cons d m =>
      obtain ⟨byte, more, some_byte⟩ := List.exists_cons_of_ne_nil (@String.utf8EncodeChar_ne_nil d)
      rw [List.flatMap_nil, List.flatMap_cons, some_byte]
      exact List.nil_lt_cons _ _
  | cons c l ih =>
    cases m with
    | nil => exact absurd h (List.not_lt_nil _)
    | cons d m =>
      rw [List.flatMap_cons, List.flatMap_cons]
      rcases List.cons_lt_cons_iff.mp h with lt | ⟨rfl, later⟩
      · exact utf8EncodeChar_lt lt _ _
      · exact List.append_left_lt (ih later)

/-- **Texts are ordered as their UTF-8 bytes are.** -/
theorem utf8_lt_iff {a b : String} : utf8Bytes a < utf8Bytes b ↔ a < b := by
  have rise : ∀ {a b : String}, a < b → utf8Bytes a < utf8Bytes b := fun h => by
    rw [utf8Bytes_eq, utf8Bytes_eq]
    exact flatMap_utf8EncodeChar_lt h
  refine ⟨fun bytes => ?_, rise⟩
  by_contra not_lt
  by_cases same : a = b
  · exact List.lt_irrefl _ (same ▸ bytes)
  · exact List.lt_asymm bytes (rise (lt_of_not_lt_of_ne not_lt same))

/-! ## 2. Sets -/

/-- **The members of a set rise byte by byte.** -/
theorem toList_utf8_rise (s : TextSet) :
    s.toList.Pairwise fun a b => utf8Bytes a < utf8Bytes b := by
  refine List.pairwise_map.mpr (s.map.rising.imp fun lt => ?_)
  exact utf8_lt_iff.mpr lt

/-- No member of a set is there twice. -/
theorem nodup_toList (s : TextSet) : s.toList.Nodup := by
  refine (toList_utf8_rise s).imp fun {a b} lt same => ?_
  exact List.lt_irrefl _ (same ▸ lt)

/-- The members of the set of a list are those of the list. -/
theorem mem_ofList {texts : List String} {text : String} :
    text ∈ (TextSet.ofList texts).toList ↔ text ∈ texts := by
  have insertAll : ∀ (texts : List String) (set : TextSet),
      text ∈ (texts.foldl TextSet.insert set).toList ↔ text ∈ texts ∨ text ∈ set.toList := by
    intro texts
    induction texts with
    | nil => simp
    | cons first rest ih =>
      intro set
      rw [List.foldl_cons, ih, TextSet.mem_insert, List.mem_cons]
      tauto
  simpa [TextSet.ofList, TextSet.empty, TextSet.toList, TextMap.keys, TextMap.empty]
    using insertAll texts .empty

/-! ## 3. Pairs -/

section

variable {α : Type} {pairs : List (String × α)} {key : String} {value : α}

/-- What is found for a key is one of the pairs. -/
theorem mem_of_lookup (h : pairs.lookup key = some value) : (key, value) ∈ pairs := by
  obtain ⟨before, after, rfl, _⟩ := List.lookup_eq_some_iff.mp h
  simp

/-- Where no key comes twice, each value is found for its key. -/
theorem lookup_of_mem (distinct : (pairs.map Prod.fst).Nodup) (h : (key, value) ∈ pairs) :
    pairs.lookup key = some value := by
  obtain ⟨before, after, rfl⟩ := List.append_of_mem h
  refine List.lookup_eq_some_iff.mpr ⟨before, after, rfl, fun other ho => ?_⟩
  rw [List.map_append] at distinct
  have apart := (List.nodup_append.mp distinct).2.2 other.1 (List.mem_map_of_mem ho) key (by simp)
  simpa using Ne.symm apart

/-- **What a map has for a key is what is paired with it.** -/
theorem TextMap.get?_eq_some_iff {map : TextMap α} :
    map.get? key = some value ↔ (key, value) ∈ map.toList := by
  refine ⟨mem_of_lookup, lookup_of_mem ?_⟩
  refine List.pairwise_map.mpr (map.rising.imp fun lt same => ?_)
  rw [same] at lt
  exact String.lt_irrefl _ lt

/-- A key of a map has one value. -/
theorem TextMap.value_unique {map : TextMap α} {other : α} (hv : (key, value) ∈ map.toList)
    (ho : (key, other) ∈ map.toList) : value = other := by
  have found := TextMap.get?_eq_some_iff.mpr hv
  rw [TextMap.get?_eq_some_iff.mpr ho] at found
  exact (Option.some.inj found).symm

end

end Covenant.Text
