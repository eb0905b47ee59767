import Covenant.Proofs.Naming.Words
import Mathlib.Data.Finset.Card
/-!
# What is claimed in a scope

A name that is claimed is an identifier, is not reserved and is the only one of its scope.

* `firstFree_notMem`: a free name is found; among one more candidate than there are names taken,
  not all are taken.
* `headed_claim`: what is claimed begins with no digit.
* `IsIdentifier` is said of the names that every target language takes; `isIdentifier_claim`:
  whatever is claimed is one.
* `claim_notMem_reserved`: it is not reserved, for reserved words end in letters, and a name that
  was changed does not.
* `Unchanged.of_claim`: a claimed name that shows no change is what its name was converted to.
* `camelCase_head` and `snakeCase_head`: a converted name begins with no capital;
  `beginsWithCapital_pascalCase_iff`: one in Pascal case does if the first letter or digit is a
  letter, and `beginsWithCapital_claim`: what is claimed begins as what was converted.
-/

namespace Covenant.Naming

open Covenant.Text

/-! ## 1. Free names -/

/-- Candidates with different numbers differ. -/
theorem numbered_injective (name : String) :
    Function.Injective fun k : Nat => name ++ toString k := by
  intro i j same
  have texts : toString i = toString j := String.append_right_inj name |>.mp same
  have digits : Nat.toDigits 10 i = Nat.toDigits 10 j := by
    simpa [Nat.toString_eq_repr, ← String.toList_inj] using texts
  have values := congrArg (Nat.ofDigitChars 10 · 0) digits
  simpa only [Nat.ofDigitChars_ten_toDigits] using values

/-- Every candidate was taken, if the one that was found is. -/
theorem taken_of_firstFreeFrom {taken : Scope} {name : String} {fuel k : Nat}
    (h : firstFreeFrom taken name fuel k ∈ taken) :
    ∀ i ≤ fuel, name ++ toString (k + i) ∈ taken := by
  induction fuel generalizing k with
  | zero =>
    intro i hi
    obtain rfl := Nat.le_zero.mp hi
    exact h
  | succ fuel ih =>
    rw [firstFreeFrom] at h
    split at h
    · rename_i here
      intro i hi
      cases i with
      | zero => simpa using here
      | succ i =>
        have later := ih h i (Nat.le_of_succ_le_succ hi)
        rwa [Nat.add_right_comm] at later
    · rename_i free
      exact absurd (by simpa using h) free

/-- The candidates for a name, in the order in which they are tried. -/
def candidate (name : String) : Nat → String
  | 0 => name
  | i + 1 => name ++ toString (i + 2)

theorem candidate_injective (name : String) : Function.Injective (candidate name) := by
  have longer : ∀ k : Nat, name ≠ name ++ toString k := by
    intro k same
    have digits : Nat.toDigits 10 k = [] := by
      simpa [Nat.toString_eq_repr] using congrArg String.toList same
    exact Nat.toDigits_ne_nil digits
  intro i j same
  cases i with
  | zero =>
    cases j with
    | zero => rfl
    | succ j => exact absurd same (longer (j + 2))
  | succ i =>
    cases j with
    | zero => exact absurd same.symm (longer (i + 2))
    | succ j =>
      have numbers : i + 2 = j + 2 := numbered_injective name same
      omega

/-- **No more candidates are taken than there are names in the scope.** -/
theorem le_card_of_taken {taken : Scope} {name : String} {n : Nat}
    (all : ∀ i < n, candidate name i ∈ taken) : n ≤ taken.toFinset.card := by
  have within : (Finset.range n).image (candidate name) ⊆ taken.toFinset := by
    intro tried ht
    obtain ⟨i, early, rfl⟩ := Finset.mem_image.mp ht
    exact List.mem_toFinset.mpr (all i (Finset.mem_range.mp early))
  have fewer := Finset.card_le_card within
  rwa [Finset.card_image_of_injective _ (candidate_injective name), Finset.card_range] at fewer

/-- **A free name is found**: so many candidates are not all taken. -/
theorem firstFree_notMem (taken : Scope) (name : String) : firstFree taken name ∉ taken := by
  unfold firstFree
  split
  · rename_i gone
    intro h
    have all : ∀ i < taken.length + 2, candidate name i ∈ taken := by
      intro i early
      cases i with
      | zero => simpa [candidate] using gone
      | succ i =>
        have there := taken_of_firstFreeFrom h i (by omega)
        rwa [Nat.add_comm] at there
    have few : taken.length + 2 ≤ taken.length :=
      (le_card_of_taken all).trans (List.toFinset_card_le taken)
    omega
  · rename_i free
    simpa using free

theorem firstFreeFrom_eq (taken : Scope) (name : String) (fuel k : Nat) :
    ∃ i : Nat, firstFreeFrom taken name fuel k = name ++ toString i := by
  induction fuel generalizing k with
  | zero => exact ⟨k, rfl⟩
  | succ fuel ih =>
    rw [firstFreeFrom]
    split
    · exact ih (k + 1)
    · exact ⟨k, rfl⟩

/-- A free name is the name itself, if that is free, and else the name with a number. -/
theorem firstFree_cases (taken : Scope) (name : String) :
    (name ∉ taken ∧ firstFree taken name = name) ∨
      name ∈ taken ∧ ∃ k : Nat, firstFree taken name = name ++ toString k := by
  unfold firstFree
  split
  · rename_i gone
    exact .inr ⟨by simpa using gone, firstFreeFrom_eq taken name _ _⟩
  · rename_i free
    exact .inl ⟨by simpa using free, rfl⟩

/-! ## 2. Identifiers -/

/-- An identifier: letters, digits and underscores of ASCII, the first of them no digit. -/
structure IsIdentifier (name : String) : Prop where
  chars : OfWordChars name
  start : ∃ c, name.toList.head? = some c ∧ c.isDigit = false

instance (name : String) : Decidable (IsIdentifier name) :=
  have : Decidable (∃ c, name.toList.head? = some c ∧ c.isDigit = false) :=
    decidable_of_iff (name.toList.head?.any (!·.isDigit) = true) (by simp [Option.any_eq_true])
  decidable_of_iff (_ ∧ _) ⟨fun h => ⟨h.1, h.2⟩, fun h => ⟨h.chars, h.start⟩⟩

/-- A word is an identifier just if it begins with no digit. -/
theorem isIdentifier_iff {name : String} (filled : name ≠ "") (chars : OfWordChars name) :
    IsIdentifier name ↔ name.toList.head?.any Char.isDigit = false := by
  obtain ⟨c, rest, text⟩ := List.exists_cons_of_ne_nil
    (fun none => filled (String.toList_eq_nil_iff.mp none))
  refine ⟨fun h => ?_, fun h => ⟨chars, c, by simp [text], by simpa [text] using h⟩⟩
  obtain ⟨d, first, letter⟩ := h.start
  simp [first, letter]

/-- A class name is an identifier. -/
theorem isIdentifier_apiClassName (title : String) : IsIdentifier (apiClassName title) := by
  obtain ⟨c, first, capital⟩ := apiClassName_head title
  have letter : c.isDigit = false :=
    forall_alphanum (P := fun c => c.isUpper = true → c.isDigit = false) (by decide)
      ((apiClassName_isWord title).1.chars c (List.mem_of_mem_head? first)) capital
  exact ⟨fun c hc => isWordChar_of_alphanum ((apiClassName_isWord title).1.chars c hc), c, first,
    letter⟩

/-- The text has a first character, and that is no digit. -/
abbrev Headed (text : String) : Prop := ∃ c, text.toList.head? = some c ∧ c.isDigit = false

theorem Headed.append {text : String} (h : Headed text) (more : String) : Headed (text ++ more) := by
  obtain ⟨c, first, other⟩ := h
  exact ⟨c, by simp [first], other⟩

/-- **A name is spelled with no digit in front**, whatever it was converted from. -/
theorem headed_spell {reserved : List String} {fallback : String} (filled : fallback ≠ "")
    (converted : String) : Headed (spell reserved fallback converted) := by
  have named : (if converted.isEmpty then fallback else converted) ≠ "" := by
    split
    · exact filled
    · rename_i some_name
      simpa using some_name
  have started : ∀ name : String, name ≠ "" →
      Headed (if name.toList.head?.any Char.isDigit then "_" ++ name else name) := by
    intro name some_name
    split
    · exact ⟨'_', by simp, rfl⟩
    · rename_i other
      obtain ⟨c, rest, chars⟩ := List.exists_cons_of_ne_nil
        (fun none => some_name (String.toList_eq_nil_iff.mp none))
      exact ⟨c, by simp [chars], by simpa [chars] using other⟩
  have free : ∀ name : String, Headed name →
      Headed (if reserved.contains name then name ++ "_" else name) := by
    intro name headed
    split
    · exact headed.append "_"
    · exact headed
  exact free _ (started _ named)

theorem headed_claim {reserved : List String} {fallback : String} (filled : fallback ≠ "")
    (converted : String) (taken : Scope) :
    Headed (claim reserved fallback converted taken).1 := by
  have spelled : Headed (spell reserved fallback converted) := headed_spell filled converted
  show Headed (firstFree taken (spell reserved fallback converted))
  rcases firstFree_cases taken (spell reserved fallback converted) with ⟨-, same⟩ | ⟨-, k, numbered⟩
  · rwa [same]
  · rw [numbered]
    exact spelled.append (toString k)

theorem IsIdentifier.ne_empty {name : String} (h : IsIdentifier name) : name ≠ "" := by
  rintro rfl
  obtain ⟨c, first, -⟩ := h.start
  cases first

/-- **What is claimed is an identifier**, whatever it was converted from. -/
theorem isIdentifier_claim {reserved : List String} {fallback converted : String}
    (h : OfWordChars converted) (g : IsIdentifier fallback) (taken : Scope) :
    IsIdentifier (claim reserved fallback converted taken).1 where
  chars := ofWordChars_claim h g.chars taken
  start := headed_claim g.ne_empty converted taken

/-- **What is claimed is new in its scope.** -/
theorem claim_fresh (reserved : List String) (fallback converted : String) (taken : Scope) :
    (claim reserved fallback converted taken).1 ∉ taken :=
  firstFree_notMem taken _

/-! ## 3. Reserved words -/

/-- The last character is a letter. -/
def endsInLetter (text : String) : Bool := text.toList.getLast?.any Char.isAlpha

theorem endsInLetter_append {name more : String} (filled : more.toList ≠ []) :
    endsInLetter (name ++ more) = endsInLetter more := by
  rw [endsInLetter, String.toList_append, List.getLast?_append_of_ne_nil _ filled, endsInLetter]

@[simp] theorem endsInLetter_bar (name : String) : endsInLetter (name ++ "_") = false := by
  rw [endsInLetter_append (by decide)]
  decide

/-- A decimal numeral does not end in a letter. -/
@[simp] theorem endsInLetter_number (name : String) (k : Nat) :
    endsInLetter (name ++ k.repr) = false := by
  have filled : k.repr.toList ≠ [] := by simp [Nat.toDigits_ne_nil]
  have digit : k.repr.toList.getLast filled ∈ Nat.toDigits 10 k := by simp
  have counts := Nat.isDigit_of_mem_toDigits (by decide) (by decide) digit
  rw [endsInLetter_append filled, endsInLetter, List.getLast?_eq_some_getLast filled,
    Option.any_some]
  exact forall_alphanum (P := fun c => c.isDigit = true → c.isAlpha = false) (by decide)
    (Bool.or_eq_true_iff.mpr (.inr counts)) counts

/-- **What is claimed is not reserved**, if each reserved word ends in a letter. -/
theorem claim_notMem_reserved {reserved : List String}
    (letters : ∀ word ∈ reserved, endsInLetter word = true) (fallback converted : String)
    (taken : Scope) : (claim reserved fallback converted taken).1 ∉ reserved := by
  have free : ∀ name : String,
      (if reserved.contains name then name ++ "_" else name) ∉ reserved := by
    intro name
    split
    · exact fun again => by simpa using letters _ again
    · rename_i free
      simpa using free
  have spelled : spell reserved fallback converted ∉ reserved := free _
  show firstFree taken (spell reserved fallback converted) ∉ reserved
  rcases firstFree_cases taken (spell reserved fallback converted) with ⟨-, same⟩ | ⟨-, k, numbered⟩
  · rwa [same]
  · rw [numbered]
    exact fun again => by simpa using letters _ again

/-! ## 4. Names that stay as they are converted -/

/-- A name that no change of another gives: it ends in a letter and begins with no underscore. -/
structure Unchanged (name : String) : Prop where
  last : endsInLetter name = true
  head : name.toList.head? ≠ some '_'

instance (name : String) : Decidable (Unchanged name) :=
  decidable_of_iff (_ ∧ _) ⟨fun h => ⟨h.1, h.2⟩, fun h => ⟨h.last, h.head⟩⟩

/-- What is spelled like this was converted to it. -/
theorem Unchanged.of_spell {reserved : List String} {fallback converted name : String}
    (h : Unchanged name) (other : fallback ≠ name)
    (spelled : spell reserved fallback converted = name) : converted = name := by
  have free : ∀ text : String, (if reserved.contains text then text ++ "_" else text) = name →
      text = name := by
    intro text same
    split at same
    · exact absurd h.last (by simp [← same])
    · exact same
  have started : ∀ text : String,
      (if text.toList.head?.any Char.isDigit then "_" ++ text else text) = name → text = name := by
    intro text same
    split at same
    · exact absurd (by simp [← same]) h.head
    · exact same
  have filled := started _ (free _ spelled)
  split at filled
  · exact absurd filled other
  · exact filled

/-- What is claimed like this was converted to it. -/
theorem Unchanged.of_claim {reserved : List String} {fallback converted name : String}
    (h : Unchanged name) (other : fallback ≠ name) {taken : Scope}
    (claimed : (claim reserved fallback converted taken).1 = name) : converted = name := by
  have found : firstFree taken (spell reserved fallback converted) = name := claimed
  suffices spelled : spell reserved fallback converted = name from h.of_spell other spelled
  rcases firstFree_cases taken (spell reserved fallback converted) with ⟨-, same⟩ | ⟨-, k, numbered⟩
  · exact same.symm.trans found
  · exact absurd h.last (by simp [← found, numbered])

/-- A name as it is spelled is in the scope afterwards, whether it was claimed or taken before. -/
theorem spelled_mem_claim (reserved : List String) (fallback converted : String) (taken : Scope) :
    spell reserved fallback converted ∈ (claim reserved fallback converted taken).2 := by
  show _ ∈ firstFree taken (spell reserved fallback converted) :: taken
  rcases firstFree_cases taken (spell reserved fallback converted) with ⟨-, same⟩ | ⟨gone, -⟩
  · simp [same]
  · exact List.mem_cons_of_mem _ gone

/-! ## 5. First letters -/

theorem not_isUpper_of_small {c : Char} (h : isSmall c = true) : c.isUpper = false :=
  forall_alphanum (P := fun c => isSmall c = true → c.isUpper = false) (by decide)
    (isAlphanum_of_small h) h

/-- **A name in camel case begins with no capital.** -/
theorem camelCase_head {name : String} {c : Char} (h : (camelCase name).toList.head? = some c) :
    c.isUpper = false := by
  rw [camelCase, String.toList_ofList] at h
  cases split : words name.toList with
  | nil =>
    rw [split] at h
    cases h
  | cons first rest =>
    have there : first ∈ words name.toList := by simp [split]
    obtain ⟨d, others, rfl⟩ := List.exists_cons_of_ne_nil (isWord_of_mem_words there).filled
    rw [split] at h
    obtain rfl : d = c := Option.some.inj h
    exact not_isUpper_of_small (isSmall_of_mem_words there d List.mem_cons_self)

/-- **A name in snake case begins with no capital.** -/
theorem snakeCase_head {name : String} {c : Char} (h : (snakeCase name).toList.head? = some c) :
    c.isUpper = false := by
  rw [snakeCase, String.toList_ofList] at h
  rcases joinedWords_small (List.mem_of_head? h) with bar | small
  · rw [List.mem_singleton.mp bar]
    rfl
  · exact not_isUpper_of_small small

/-- The first letter or digit of the text is a letter. -/
def BeginsWithLetter (text : String) : Prop :=
  ∃ c, text.toList.find? Char.isAlphanum = some c ∧ c.isAlpha = true

instance (text : String) : Decidable (BeginsWithLetter text) :=
  decidable_of_iff ((text.toList.find? Char.isAlphanum).any Char.isAlpha = true)
    (Option.any_eq_true ..)

/-- **A name in Pascal case begins with** the first letter or digit, a letter as a capital. -/
theorem pascalCase_head (name : String) :
    (pascalCase name).toList.head? =
      (name.toList.find? Char.isAlphanum).map fun c => c.toLower.toUpper := by
  have first : ∀ texts : List (List Char), (∀ text ∈ texts, text ≠ []) →
      (texts.flatMap capitalize).head? = texts.flatten.head?.map Char.toUpper := by
    intro texts filled
    cases texts with
    | nil => rfl
    | cons text rest =>
      obtain ⟨c, more, rfl⟩ := List.exists_cons_of_ne_nil (filled text List.mem_cons_self)
      rfl
  rw [pascalCase, String.toList_ofList, first _ fun word hw => (isWord_of_mem_words hw).filled,
    flatten_words, List.head?_map, List.head?_filter, Option.map_map]
  rfl

/-- The text begins with a capital. -/
def beginsWithCapital (text : String) : Bool := text.toList.head?.any Char.isUpper

theorem beginsWithCapital_pascalCase_iff (name : String) :
    beginsWithCapital (pascalCase name) = true ↔ BeginsWithLetter name := by
  rw [beginsWithCapital, pascalCase_head, Option.any_map, Option.any_eq_true]
  refine exists_congr fun c => and_congr_right fun found => ?_
  have counts : c.isAlphanum = true := List.find?_some found
  exact forall_alphanum (P := fun c => c.toLower.toUpper.isUpper = true ↔ c.isAlpha = true)
    (by decide) counts

theorem beginsWithCapital_append {text more : String} (h : beginsWithCapital more = false) :
    beginsWithCapital (text ++ more) = beginsWithCapital text := by
  rw [beginsWithCapital] at h
  cases chars : text.toList with
  | nil => simp [beginsWithCapital, chars, h]
  | cons c rest => simp [beginsWithCapital, chars]

theorem beginsWithCapital_number (k : Nat) : beginsWithCapital (toString k) = false := by
  rw [beginsWithCapital, ← Bool.not_eq_true, Option.any_eq_true]
  rintro ⟨c, first, capital⟩
  have digit : c ∈ Nat.toDigits 10 k := by simpa using List.mem_of_head? first
  have counts := Nat.isDigit_of_mem_toDigits (by decide) (by decide) digit
  exact forall_alphanum (P := fun c => c.isDigit = true → c.isUpper = true → False) (by decide)
    (Bool.or_eq_true_iff.mpr (.inr counts)) counts capital

/-- Spelling keeps a capital in front and brings none there. -/
theorem beginsWithCapital_spell (reserved : List String) {fallback : String}
    (small : beginsWithCapital fallback = false) (converted : String) :
    beginsWithCapital (spell reserved fallback converted) = beginsWithCapital converted := by
  have filled : beginsWithCapital (if converted.isEmpty then fallback else converted) =
      beginsWithCapital converted := by
    split
    · rename_i none
      rw [String.isEmpty_iff.mp none, small]
      rfl
    · rfl
  have started : ∀ text : String,
      beginsWithCapital (if text.toList.head?.any Char.isDigit then "_" ++ text else text) =
        beginsWithCapital text := by
    intro text
    split
    · rename_i digit
      obtain ⟨c, first, counts⟩ := (Option.any_eq_true ..).mp digit
      have other : c.isUpper = false :=
        forall_alphanum (P := fun c => c.isDigit = true → c.isUpper = false) (by decide)
          (Bool.or_eq_true_iff.mpr (.inr counts)) counts
      simp [beginsWithCapital, first, other]
    · rfl
  have ended : ∀ text : String,
      beginsWithCapital (if reserved.contains text then text ++ "_" else text) =
        beginsWithCapital text := by
    intro text
    split
    · exact beginsWithCapital_append rfl
    · rfl
  exact (ended _).trans ((started _).trans filled)

/-- **A claimed name begins with a capital** just if the converted name does. -/
theorem beginsWithCapital_claim (reserved : List String) {fallback : String}
    (small : beginsWithCapital fallback = false) (converted : String) (taken : Scope) :
    beginsWithCapital (claim reserved fallback converted taken).1 =
      beginsWithCapital converted := by
  rw [← beginsWithCapital_spell reserved small converted]
  show beginsWithCapital (firstFree taken _) = _
  rcases firstFree_cases taken (spell reserved fallback converted) with ⟨-, same⟩ | ⟨-, k, numbered⟩
  · rw [same]
  · rw [numbered, beginsWithCapital_append (beginsWithCapital_number k)]

end Covenant.Naming
