import Covenant.Naming.Identifier
import Covenant.Naming.Words
import Covenant.Proofs.Naming.Inline
/-!
# Names from any text

Whatever a name is made of, it is made of letters, digits and underscores.

* `isWord_of_mem_words`: the words of a name are rows of letters and digits, and a name with one
  letter or digit has a word; `isSmall_of_mem_words`: no letter in them is a capital;
  `flatten_words`: together they are the letters and digits of the name.
* `OfWordChars` is said of the texts that an identifier may be cut from: `ofWordChars_snakeCase` and
  the like of converted names, `ofWordChars_claim` of what is claimed in a scope.
* `apiClassName_isWord`: the class name of a title is one word, and not the name of the entry point;
  `apiClassName_head` and `apiClassName_suffix`: it begins and ends as a class name should.
-/

namespace Covenant.Naming

open Covenant.Text

/-! ## 1. Letters and digits -/

/-- What holds of each letter and digit of ASCII holds of every letter and digit. -/
theorem forall_alphanum {P : Char → Prop}
    (h : ∀ n : Fin 128, (Char.ofNat n).isAlphanum = true → P (Char.ofNat n)) {c : Char}
    (hc : c.isAlphanum = true) : P c := by
  have codes := code_of_alphanum hc
  have small : c.toNat < 128 := by omega
  have same := h ⟨c.toNat, small⟩
  simp only [Char.ofNat_toNat] at same
  exact same hc

theorem isAlphanum_toLower {c : Char} (h : c.isAlphanum = true) : c.toLower.isAlphanum = true :=
  forall_alphanum (P := fun c => c.toLower.isAlphanum = true) (by decide) h

theorem isAlphanum_toUpper {c : Char} (h : c.isAlphanum = true) : c.toUpper.isAlphanum = true :=
  forall_alphanum (P := fun c => c.toUpper.isAlphanum = true) (by decide) h

theorem isWordChar_of_alphanum {c : Char} (h : c.isAlphanum = true) : isWordChar c = true := by
  simp [isWordChar, h]

/-- A row of letters and digits. -/
structure IsWord (word : List Char) : Prop where
  filled : word ≠ []
  chars : ∀ c ∈ word, c.isAlphanum = true

theorem IsWord.capitalize {word : List Char} (h : IsWord word) : IsWord (capitalize word) := by
  obtain ⟨c, rest, rfl⟩ := List.exists_cons_of_ne_nil h.filled
  obtain ⟨first, later⟩ := List.forall_mem_cons.mp h.chars
  exact ⟨List.cons_ne_nil _ _, List.forall_mem_cons.mpr ⟨isAlphanum_toUpper first, later⟩⟩

/-! ## 2. Words -/

theorem forall_of_mem_closeWord {P : Char → Prop} {word text : List Char} (h : ∀ c ∈ word, P c)
    (hw : text ∈ closeWord word) : text ≠ [] ∧ ∀ c ∈ text, P c := by
  unfold closeWord at hw
  split at hw
  · cases hw
  · rename_i filled
    obtain rfl := List.mem_singleton.mp hw
    exact ⟨by simpa using filled, fun c hc => h c (List.mem_reverse.mp hc)⟩

/-- What holds of each lowered letter and digit holds of the characters of words. -/
theorem forall_of_mem_wordsFrom {P : Char → Prop}
    (lowered : ∀ c : Char, c.isAlphanum = true → P c.toLower) {last : Option Char}
    {word name text : List Char} (h : ∀ c ∈ word, P c) (hw : text ∈ wordsFrom last word name) :
    text ≠ [] ∧ ∀ c ∈ text, P c := by
  induction name generalizing last word with
  | nil => exact forall_of_mem_closeWord h hw
  | cons c rest ih =>
    rw [wordsFrom] at hw
    split at hw
    · rcases List.mem_append.mp hw with closed | later
      · exact forall_of_mem_closeWord h closed
      · exact ih (by simp) later
    · rename_i counts
      have here : P c.toLower := lowered c (by simpa using counts)
      split at hw
      · rcases List.mem_append.mp hw with closed | later
        · exact forall_of_mem_closeWord h closed
        · exact ih (by simpa using here) later
      · exact ih (List.forall_mem_cons.mpr ⟨here, h⟩) hw

/-- **The words of a name are rows of letters and digits.** -/
theorem isWord_of_mem_words {name word : List Char} (h : word ∈ words name) : IsWord word := by
  obtain ⟨filled, chars⟩ := forall_of_mem_wordsFrom (P := fun c => c.isAlphanum = true)
    (fun _ => isAlphanum_toLower) (by simp) h
  exact ⟨filled, chars⟩

/-- A small letter or a digit. -/
def isSmall (c : Char) : Bool := c.isLower || c.isDigit

theorem isAlphanum_of_small {c : Char} (h : isSmall c = true) : c.isAlphanum = true := by
  rcases Bool.or_eq_true_iff.mp h with lower | digit
  · have letter : c.isAlpha = true := Bool.or_eq_true_iff.mpr (.inr lower)
    exact Bool.or_eq_true_iff.mpr (.inl letter)
  · exact Bool.or_eq_true_iff.mpr (.inr digit)

/-- The words of a name are lowered. -/
theorem isSmall_of_mem_words {name word : List Char} (h : word ∈ words name) :
    ∀ c ∈ word, isSmall c = true :=
  (forall_of_mem_wordsFrom (P := fun c => isSmall c = true)
    (fun _ => forall_alphanum (P := fun c => isSmall c.toLower = true) (by decide)) (by simp) h).2

/-- With a word open or a letter or digit to come there is a word. -/
theorem wordsFrom_ne_nil {last : Option Char} {word name : List Char}
    (h : word ≠ [] ∨ ∃ c ∈ name, c.isAlphanum = true) : wordsFrom last word name ≠ [] := by
  induction name generalizing last word with
  | nil => simpa [wordsFrom, closeWord] using h
  | cons c rest ih =>
    rw [wordsFrom]
    split
    · rename_i separates
      rcases h with filled | ⟨d, hd, counts⟩
      · exact List.append_ne_nil_of_left_ne_nil (by simpa [closeWord] using filled) _
      · rcases List.mem_cons.mp hd with rfl | hd
        · simp [counts] at separates
        · exact List.append_ne_nil_of_right_ne_nil _ (ih (.inr ⟨d, hd, counts⟩))
    · split
      · exact List.append_ne_nil_of_right_ne_nil _ (ih (.inl (List.cons_ne_nil _ _)))
      · exact ih (.inl (List.cons_ne_nil _ _))

/-- A name with a letter or digit has a word. -/
theorem words_ne_nil {name : List Char} {c : Char} (hc : c ∈ name) (h : c.isAlphanum = true) :
    words name ≠ [] :=
  wordsFrom_ne_nil (.inr ⟨c, hc, h⟩)

theorem flatten_closeWord (word : List Char) : (closeWord word).flatten = word.reverse := by
  unfold closeWord
  split
  · rename_i none
    rw [List.isEmpty_iff.mp none]
    rfl
  · exact List.append_nil _

/-- **The words of a name** are its letters and digits, lowered. -/
theorem flatten_wordsFrom (last : Option Char) (word name : List Char) :
    (wordsFrom last word name).flatten =
      word.reverse ++ (name.filter Char.isAlphanum).map Char.toLower := by
  induction name generalizing last word with
  | nil => rw [wordsFrom, flatten_closeWord, List.filter_nil, List.map_nil, List.append_nil]
  | cons c rest ih =>
    rw [wordsFrom]
    cases counts : c.isAlphanum with
    | false =>
      rw [List.filter_cons_of_neg (by simp [counts])]
      simp [ih, flatten_closeWord]
    | true =>
      rw [List.filter_cons_of_pos counts]
      simp only [Bool.not_true, Bool.false_eq_true, if_false]
      split
      · simp [ih, flatten_closeWord]
      · simp [ih]

theorem flatten_words (name : List Char) :
    (words name).flatten = (name.filter Char.isAlphanum).map Char.toLower :=
  flatten_wordsFrom none [] name

/-! ## 3. Words joined again -/

theorem joinedWords_chars {sep : List Char} {name : List Char} {c : Char}
    (h : c ∈ joinWith sep (words name)) : c ∈ sep ∨ c.isAlphanum = true :=
  (mem_joinWith h).imp id fun ⟨_, hw, hc⟩ => (isWord_of_mem_words hw).chars c hc

theorem joinedWords_small {sep : List Char} {name : List Char} {c : Char}
    (h : c ∈ joinWith sep (words name)) : c ∈ sep ∨ isSmall c = true :=
  (mem_joinWith h).imp id fun ⟨_, hw, hc⟩ => isSmall_of_mem_words hw c hc

/-- Where there are words, there is a letter or digit among them. -/
theorem exists_alphanum_joinedWords {name : List Char} (sep : List Char) (h : words name ≠ []) :
    ∃ c ∈ joinWith sep (words name), c.isAlphanum = true := by
  obtain ⟨word, hw⟩ := List.exists_mem_of_ne_nil _ h
  obtain ⟨filled, chars⟩ := isWord_of_mem_words hw
  obtain ⟨c, hc⟩ := List.exists_mem_of_ne_nil _ filled
  exact ⟨c, mem_joinWith_of_mem hw hc, chars c hc⟩

/-- A text of letters, digits and underscores. -/
def OfWordChars (text : String) : Prop := ∀ c ∈ text.toList, isWordChar c = true

instance (text : String) : Decidable (OfWordChars text) := List.decidableBAll _ text.toList

theorem OfWordChars.isInline {text : String} (h : OfWordChars text) : IsInline text.toList :=
  isInline_of_word h

theorem OfWordChars.append {text more : String} (h : OfWordChars text) (g : OfWordChars more) :
    OfWordChars (text ++ more) := by
  rw [OfWordChars, String.toList_append, List.forall_mem_append]
  exact ⟨h, g⟩

theorem ofWordChars_snakeCase (name : String) : OfWordChars (snakeCase name) := by
  intro c hc
  rw [snakeCase, String.toList_ofList] at hc
  rcases joinedWords_chars hc with bar | counts
  · rw [List.mem_singleton.mp bar]
    rfl
  · exact isWordChar_of_alphanum counts

theorem capitalized_chars {words : List (List Char)} (h : ∀ word ∈ words, IsWord word) :
    ∀ c ∈ words.flatMap capitalize, c.isAlphanum = true := by
  intro c hc
  obtain ⟨word, hw, hc⟩ := List.mem_flatMap.mp hc
  exact (h word hw).capitalize.chars c hc

theorem ofWordChars_pascalCase (name : String) : OfWordChars (pascalCase name) := by
  intro c hc
  rw [pascalCase, String.toList_ofList] at hc
  exact isWordChar_of_alphanum (capitalized_chars (fun _ => isWord_of_mem_words) c hc)

theorem ofWordChars_camelCase (name : String) : OfWordChars (camelCase name) := by
  intro c hc
  rw [camelCase, String.toList_ofList] at hc
  have all : ∀ word ∈ words name.toList, IsWord word := fun _ => isWord_of_mem_words
  cases split : words name.toList with
  | nil =>
    rw [split] at hc
    cases hc
  | cons first rest =>
    rw [split] at hc all
    obtain ⟨here, later⟩ := List.forall_mem_cons.mp all
    rcases List.mem_append.mp hc with hc | hc
    · exact isWordChar_of_alphanum (here.chars c hc)
    · exact isWordChar_of_alphanum (capitalized_chars later c hc)

/-! ## 4. Identifiers -/

theorem ofWordChars_number (k : Nat) : OfWordChars (toString k) := by
  intro c hc
  have digit : c ∈ Nat.toDigits 10 k := by simpa [Nat.toString_eq_repr] using hc
  have counts := Nat.isDigit_of_mem_toDigits (by decide) (by decide) digit
  exact isWordChar_of_alphanum (by simp [Char.isAlphanum, counts])

theorem ofWordChars_firstFreeFrom {taken : Scope} {name : String} (h : OfWordChars name)
    (fuel k : Nat) : OfWordChars (firstFreeFrom taken name fuel k) := by
  induction fuel generalizing k with
  | zero => exact h.append (ofWordChars_number k)
  | succ fuel ih =>
    rw [firstFreeFrom]
    split
    · exact ih (k + 1)
    · exact h.append (ofWordChars_number k)

theorem ofWordChars_spell {reserved : List String} {fallback converted : String}
    (h : OfWordChars converted) (g : OfWordChars fallback) :
    OfWordChars (spell reserved fallback converted) := by
  have bar : OfWordChars "_" := by decide
  have named : OfWordChars (if converted.isEmpty then fallback else converted) := by
    split <;> assumption
  have started : ∀ name : String, OfWordChars name →
      OfWordChars (if name.toList.head?.any Char.isDigit then "_" ++ name else name) := by
    intro name named
    split
    · exact bar.append named
    · exact named
  have free : ∀ name : String, OfWordChars name →
      OfWordChars (if reserved.contains name then name ++ "_" else name) := by
    intro name started
    split
    · exact started.append bar
    · exact started
  exact free _ (started _ named)

/-- **What is claimed in a scope is made of letters, digits and underscores**, if the name is. -/
theorem ofWordChars_claim {reserved : List String} {fallback converted : String}
    (h : OfWordChars converted) (g : OfWordChars fallback) (taken : Scope) :
    OfWordChars (claim reserved fallback converted taken).1 := by
  have spelled : OfWordChars (spell reserved fallback converted) := ofWordChars_spell h g
  unfold claim firstFree
  dsimp only
  split
  · exact ofWordChars_firstFreeFrom spelled _ _
  · exact spelled

/-! ## 5. Class names -/

theorem isWord_of_api {name : List Char} (h : IsWord name) :
    IsWord (if endsWith "Api".toList name || endsWith "API".toList name then name
      else name ++ "Api".toList) ∧
    (if endsWith "Api".toList name || endsWith "API".toList name then name
      else name ++ "Api".toList) ≠ "Main".toList := by
  split
  · rename_i said
    refine ⟨h, ?_⟩
    rintro rfl
    revert said
    decide
  · refine ⟨⟨by simp, List.forall_mem_append.mpr ⟨h.chars, List.all_eq_true.mp rfl⟩⟩, fun e => ?_⟩
    have last := congrArg List.getLast? e
    simp at last

/-- **A class name is one word, and it is not the name of the entry point.** -/
theorem apiClassName_isWord (title : String) :
    IsWord (apiClassName title).toList ∧ apiClassName title ≠ "Main" := by
  have runs : ∀ c ∈ ((splitWhere (fun c => !c.isAlphanum) title.toList).filter
      (fun run => !run.isEmpty)).flatMap capitalize, c.isAlphanum = true := by
    refine capitalized_chars fun run hr => ?_
    obtain ⟨split, filled⟩ := List.mem_filter.mp hr
    exact ⟨by simpa using filled, fun c hc => by simpa using not_of_mem_splitWhere split hc⟩
  unfold apiClassName
  dsimp only
  split
  · exact ⟨⟨by decide, List.all_eq_true.mp (by decide)⟩, by decide⟩
  · rename_i c rest hc
    rw [hc] at runs
    have named : IsWord (if c.isDigit then "Api".toList ++ c :: rest else c :: rest) := by
      split
      · exact ⟨by simp, List.forall_mem_append.mpr ⟨List.all_eq_true.mp (by decide), runs⟩⟩
      · exact ⟨by simp, runs⟩
    obtain ⟨word, other⟩ := isWord_of_api named
    refine ⟨by simpa using word, fun e => other ?_⟩
    exact String.toList_ofList.symm.trans (congrArg String.toList e)

/-- Capitalized words begin with a capital or a digit. -/
theorem capitalized_head {words : List (List Char)} (h : ∀ word ∈ words, IsWord word) {c : Char}
    {rest : List Char} (joined : words.flatMap capitalize = c :: rest) :
    c.isUpper = true ∨ c.isDigit = true := by
  cases words with
  | nil => cases joined
  | cons word others =>
    have first := h word List.mem_cons_self
    obtain ⟨d, more, rfl⟩ := List.exists_cons_of_ne_nil first.filled
    obtain rfl : d.toUpper = c := (List.cons.inj joined).1
    refine forall_alphanum (P := fun d => d.toUpper.isUpper = true ∨ d.toUpper.isDigit = true)
      (by decide) (first.chars d List.mem_cons_self)

/-- **A class name begins with a capital.** -/
theorem apiClassName_head (title : String) :
    ∃ c, (apiClassName title).toList.head? = some c ∧ c.isUpper = true := by
  have kept : ∀ {name : List Char} {c : Char}, name.head? = some c →
      (if endsWith "Api".toList name || endsWith "API".toList name then name
        else name ++ "Api".toList).head? = some c := by
    intro name c first
    split
    · exact first
    · simp [first]
  unfold apiClassName
  dsimp only
  split
  · exact ⟨'A', rfl, rfl⟩
  · rename_i c rest joined
    have first := capitalized_head (fun run hr => ?_) joined
    · simp only [String.toList_ofList]
      by_cases digit : c.isDigit = true
      · exact ⟨'A', kept (by simp [digit]), rfl⟩
      · exact ⟨c, kept (by simp [digit]), first.resolve_right digit⟩
    · obtain ⟨split, filled⟩ := List.mem_filter.mp hr
      exact ⟨by simpa using filled, fun c hc => by simpa using not_of_mem_splitWhere split hc⟩

/-- **A class name ends in `Api` or in `API`.** -/
theorem apiClassName_suffix (title : String) :
    "Api".toList <:+ (apiClassName title).toList ∨
      "API".toList <:+ (apiClassName title).toList := by
  have ends : ∀ part name : List Char, endsWith part name = true → part <:+ name :=
    fun _ _ h => List.reverse_prefix.mp (List.isPrefixOf_iff_prefix.mp h)
  have closed : ∀ name : List Char,
      "Api".toList <:+ (if endsWith "Api".toList name || endsWith "API".toList name then name
        else name ++ "Api".toList) ∨
      "API".toList <:+ (if endsWith "Api".toList name || endsWith "API".toList name then name
        else name ++ "Api".toList) := by
    intro name
    split
    · rename_i said
      exact (Bool.or_eq_true_iff.mp said).imp (ends _ _) (ends _ _)
    · exact .inl (List.suffix_append _ _)
  unfold apiClassName
  dsimp only
  split
  · exact .inl (List.suffix_refl _)
  · simp only [String.toList_ofList]
    exact closed _

end Covenant.Naming
