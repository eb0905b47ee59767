import Covenant.Proofs.Naming.Identifier
/-!
# Words that are joined and found again

Within a run of letters and digits it is a capital that opens a word, and words have none. So words
with a character between them that is no letter and no digit are found again as they are.

* `wordsFrom_append_small`: small letters and digits join the open word.
* `words_joinWith`: the words of joined words are these words.
* `words_stable`: what the words of a name are, and that a name written by its words is as good as
  the name for every way of writing.
-/

namespace Covenant.Naming

open Covenant.Text

/-! ## 1. Small letters and digits -/

theorem toLower_of_small {c : Char} (h : isSmall c = true) : c.toLower = c :=
  forall_alphanum (P := fun c => isSmall c = true → c.toLower = c) (by decide)
    (isAlphanum_of_small h) h

/-- A small letter or a digit opens no word. -/
theorem opensWord_of_small {c : Char} (h : isSmall c = true) (last : Char) (next : Option Char) :
    opensWord last c next = false := by
  rw [opensWord, not_isUpper_of_small h, Bool.false_and]

/-- A small letter or a digit joins the open word. -/
theorem wordsFrom_cons_small {c : Char} (h : isSmall c = true) (last : Option Char)
    (word rest : List Char) :
    wordsFrom last word (c :: rest) = wordsFrom (some c) (c :: word) rest := by
  have counts : c.isAlphanum = true := isAlphanum_of_small h
  have stays : last.any (opensWord · c rest.head?) = false := by
    cases last with
    | none => rfl
    | some before => exact opensWord_of_small h before rest.head?
  rw [wordsFrom, counts, stays, toLower_of_small h]
  rfl

/-- **Small letters and digits join the open word**, whatever comes after them. -/
theorem wordsFrom_append_small {small : List Char} (h : ∀ c ∈ small, isSmall c = true)
    (last : Option Char) (word rest : List Char) :
    ∃ before, wordsFrom last word (small ++ rest) =
      wordsFrom before (small.reverse ++ word) rest := by
  induction small generalizing last word with
  | nil => exact ⟨last, rfl⟩
  | cons c small ih =>
    obtain ⟨here, later⟩ := List.forall_mem_cons.mp h
    obtain ⟨before, joined⟩ := ih later (some c) (c :: word)
    refine ⟨before, ?_⟩
    rw [List.cons_append, wordsFrom_cons_small here, joined, List.reverse_cons, List.append_assoc]
    rfl

/-! ## 2. Rows of words -/

/-- A row of small letters and digits. -/
structure IsSmallWord (word : List Char) : Prop where
  filled : word ≠ []
  small : ∀ c ∈ word, isSmall c = true

theorem IsSmallWord.closeWord_reverse {word : List Char} (h : IsSmallWord word) :
    closeWord (word.reverse ++ []) = [word] := by
  have filled : word.reverse.isEmpty = false := by simpa using h.filled
  rw [List.append_nil, closeWord, filled, List.reverse_reverse]
  rfl

/-- A word has one word, which is the word itself. -/
theorem IsSmallWord.words_eq {word : List Char} (h : IsSmallWord word) : words word = [word] := by
  obtain ⟨before, joined⟩ := wordsFrom_append_small h.small none [] []
  rw [List.append_nil] at joined
  rw [words, joined, wordsFrom, h.closeWord_reverse]

/-- A word that a separator follows is the first word. -/
theorem IsSmallWord.words_append {word : List Char} (h : IsSmallWord word) {sep : Char}
    (apart : sep.isAlphanum = false) (rest : List Char) :
    words (word ++ sep :: rest) = word :: words rest := by
  obtain ⟨before, joined⟩ := wordsFrom_append_small h.small none [] (sep :: rest)
  rw [words, joined, wordsFrom, apart, h.closeWord_reverse]
  rfl

/-- **Joined words are found again.** -/
theorem words_joinWith {sep : Char} (apart : sep.isAlphanum = false) {pieces : List (List Char)}
    (small : ∀ piece ∈ pieces, IsSmallWord piece) : words (joinWith [sep] pieces) = pieces := by
  fun_induction joinWith [sep] pieces with
  | case1 => rfl
  | case2 piece => exact (small piece (List.mem_singleton_self piece)).words_eq
  | case3 piece rest _ ih =>
    obtain ⟨first, later⟩ := List.forall_mem_cons.mp small
    rw [List.append_assoc, List.singleton_append, first.words_append apart, ih later]

/-- What the words of a name are: rows of small letters and digits, which together are the letters
and digits of the name, lowered. -/
structure AreWordsOf (name : List Char) (pieces : List (List Char)) : Prop where
  small : ∀ piece ∈ pieces, IsSmallWord piece
  whole : pieces.flatten = (name.filter Char.isAlphanum).map Char.toLower

theorem areWordsOf_words (name : List Char) : AreWordsOf name (words name) where
  small _ h := ⟨(isWord_of_mem_words h).filled, isSmall_of_mem_words h⟩
  whole := flatten_words name

/-! ## 3. Ways of writing -/

/-- The ways in which a name is written by its words. -/
def spellings : List (String → String) := [camelCase, pascalCase, snakeCase, kebabCase]

/-- Every way of writing goes by the words alone. -/
theorem spelling_congr {spelling : String → String} (h : spelling ∈ spellings)
    {name other : String} (same : words name.toList = words other.toList) :
    spelling name = spelling other := by
  simp only [spellings, List.mem_cons, List.not_mem_nil, or_false] at h
  rcases h with rfl | rfl | rfl | rfl
  · rw [camelCase, camelCase, same]
  · rw [pascalCase, pascalCase, same]
  · rw [snakeCase, snakeCase, same]
  · rw [kebabCase, kebabCase, same]

/-- **Names are split without loss, and for good.** The words of a name are rows of small letters and
digits, together all those of the name; joined by a bar or by a hyphen they have the same words. So
a name in snake case or in kebab case is written as the name itself is in every way, and stays as it
is when it is written so again. -/
theorem words_stable (name : String) :
    AreWordsOf name.toList (words name.toList) ∧
      words (joinWith ['_'] (words name.toList)) = words name.toList ∧
      words (joinWith ['-'] (words name.toList)) = words name.toList ∧
      snakeCase (snakeCase name) = snakeCase name ∧ kebabCase (kebabCase name) = kebabCase name ∧
      ∀ spelling ∈ spellings,
        spelling (snakeCase name) = spelling name ∧ spelling (kebabCase name) = spelling name := by
  have split := areWordsOf_words name.toList
  have bar : words (joinWith ['_'] (words name.toList)) = words name.toList :=
    words_joinWith rfl split.small
  have hyphen : words (joinWith ['-'] (words name.toList)) = words name.toList :=
    words_joinWith rfl split.small
  have every : ∀ spelling ∈ spellings,
      spelling (snakeCase name) = spelling name ∧ spelling (kebabCase name) = spelling name := by
    intro spelling h
    constructor
    · exact spelling_congr h (by rw [snakeCase, String.toList_ofList, bar])
    · exact spelling_congr h (by rw [kebabCase, String.toList_ofList, hyphen])
  refine ⟨split, bar, hyphen, ?_, ?_, every⟩
  · exact (every snakeCase (by simp [spellings])).1
  · exact (every kebabCase (by simp [spellings])).2

end Covenant.Naming
