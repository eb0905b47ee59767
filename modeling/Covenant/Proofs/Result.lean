import Mathlib.Data.List.Basic
/-!
# Results

How a result that may be an error comes about, for the combinators that the library uses, and which
bytes are those of a text.
-/

namespace Covenant

theorem map_eq_ok_iff {f : α → β} {x : Except ε α} {b : β} :
    x.map f = .ok b ↔ ∃ a, x = .ok a ∧ f a = b := by
  cases x <;> simp [Except.map]

theorem map_eq_error_iff {f : α → β} {x : Except ε α} {e : ε} :
    x.map f = .error e ↔ x = .error e := by
  cases x <;> simp [Except.map]

theorem bind_eq_ok_iff {x : Except ε α} {f : α → Except ε β} {b : β} :
    (x >>= f) = .ok b ↔ ∃ a, x = .ok a ∧ f a = .ok b := by
  cases x <;> simp [bind, Except.bind]

/-- An error of two steps is one of the first step or one of the second. -/
theorem bind_ne_error {x : Except ε α} {f : α → Except ε β} {e : ε} (first : x ≠ .error e)
    (second : ∀ a, f a ≠ .error e) : (x >>= f) ≠ .error e := by
  cases x with
  | error other => exact fun same => first (congrArg Except.error (Except.error.inj same))
  | ok a => exact second a

theorem mapError_eq_ok_iff {f : ε → ε'} {x : Except ε α} {a : α} :
    x.mapError f = .ok a ↔ x = .ok a := by
  cases x <;> simp [Except.mapError]

/-- What comes after a check that fails with an error. -/
theorem ite_throw_eq_ok_iff {c : Prop} [Decidable c] {e : ε} {f : α → Except ε β}
    {x : Except ε β} {b : β} :
    (if c then throw e >>= f else x) = .ok b ↔ ¬c ∧ x = .ok b := by
  by_cases h : c <;> simp [h, throw, throwThe, MonadExceptOf.throw, bind, Except.bind]

/-- Reading what was written item by item. -/
theorem mapM_map_eq_ok {f : β → Except ε γ} {g : α → β} {k : α → γ} {items : List α}
    (h : ∀ item ∈ items, f (g item) = .ok (k item)) :
    (items.map g).mapM f = .ok (items.map k) := by
  induction items with
  | nil => rfl
  | cons first rest ih =>
    have here := h first List.mem_cons_self
    have there := ih fun item hi => h item (List.mem_cons_of_mem _ hi)
    simp [List.mapM_cons, here, there, bind, Except.bind, pure, Except.pure]

/-- Items that are read alike one by one are read alike together. -/
theorem mapM_congr {f g : α → Except ε β} {items : List α} (h : ∀ item ∈ items, f item = g item) :
    items.mapM f = items.mapM g := by
  induction items with
  | nil => rfl
  | cons first rest ih =>
    rw [List.mapM_cons, List.mapM_cons, h first List.mem_cons_self,
      ih fun item hi => h item (List.mem_cons_of_mem _ hi)]

/-- What is read together can be read one by one. -/
theorem ok_of_mem_of_mapM_eq_ok {f : α → Except ε β} {items : List α} {item : α} {results : List β}
    (h : items.mapM f = .ok results) (there : item ∈ items) : ∃ result, f item = .ok result := by
  induction items generalizing results with
  | nil => cases there
  | cons first rest ih =>
    rw [List.mapM_cons] at h
    obtain ⟨result, here, h⟩ := bind_eq_ok_iff.mp h
    obtain ⟨more, later, _⟩ := bind_eq_ok_iff.mp h
    rcases List.mem_cons.mp there with rfl | there
    · exact ⟨result, here⟩
    · exact ih later there

/-- What is read item by item is what the items stand for, each that can be read for one. -/
theorem eq_filterMap_of_mapM_eq_ok {f : α → Except ε β} {k : α → Option β} {items : List α}
    {results : List β} (stands : ∀ item result, f item = .ok result → k item = some result)
    (h : items.mapM f = .ok results) : results = items.filterMap k := by
  induction items generalizing results with
  | nil => cases h; rfl
  | cons first rest ih =>
    rw [List.mapM_cons] at h
    obtain ⟨result, here, h⟩ := bind_eq_ok_iff.mp h
    obtain ⟨more, there, h⟩ := bind_eq_ok_iff.mp h
    cases h
    rw [List.filterMap_cons_some (stands first result here), ← ih there]

/-- The bytes of a text are read as this text, and no other bytes are. -/
theorem fromUTF8?_eq_some_iff {content : ByteArray} {text : String} :
    String.fromUTF8? content = some text ↔ content = text.toUTF8 := by
  constructor
  · intro h
    simp only [String.fromUTF8?, Option.dite_none_right_eq_some, Option.some.injEq] at h
    obtain ⟨_, rfl⟩ := h
    rfl
  · rintro rfl
    have valid : text.toUTF8.IsValidUTF8 := text.isValidUTF8
    simp only [String.fromUTF8?, valid, dif_pos]
    rfl

end Covenant
