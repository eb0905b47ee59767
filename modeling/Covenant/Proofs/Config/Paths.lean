import Covenant.Command.Choice
import Covenant.Proofs.Config.Written
import Covenant.Proofs.Files.Path
/-!
# Paths that a configuration names

The check looks at a path without the blanks around it, but commands open the path as it is written.
The blanks before it belong to its first part then, and those behind it to its last one.

* `mem_components_of_pieces`: of the parts of a path all but the first and the last one come of its
  inner pieces.
* `withinLimits_iff`: when a path is within the limits if it is so without the blanks around it.
* `opened_within_iff` says this of the paths that commands open.
* `withinLimits_blankEnded_iff`: how many blanks behind a path of one letter are too many.
-/

namespace Covenant.Config

open Covenant.Command Covenant.Files Covenant.Files.Path Covenant.Text

/-! ## 1. First and last parts -/

/-- The start of a path and its first piece are one part at most. -/
theorem length_first_le (first : List Char) (more : List (List Char)) :
    (leading (first :: more) ++ partsOf [first]).length ≤ 1 := by
  rw [leading_cons]
  by_cases empty : first = []
  · subst empty
    by_cases alone : more = [] <;> simp [alone, partsOf, component?]
  · by_cases here : first = ['.']
    · subst here
      simp [partsOf, component?]
    · simpa [empty, here, partsOf] using List.length_filterMap_le component? [first]

theorem length_last_le (last : List Char) : (partsOf [last]).length ≤ 1 :=
  List.length_filterMap_le component? [last]

variable {path : String} {part : Component}

theorem eq_singleton_of_mem {parts : List Component} (single : parts.length ≤ 1)
    (h : part ∈ parts) : parts = [part] := by
  obtain ⟨other, same⟩ := List.length_eq_one_iff.mp
    (Nat.le_antisymm single (List.length_pos_of_mem h))
  rw [same] at h
  rw [same, List.mem_singleton.mp h]

/-- A path of one piece has one part at most. -/
theorem mem_head?_of_piece {only : List Char} (split : splitAtChar '/' path.toList = [only])
    (h : part ∈ components path) : part ∈ (components path).head? := by
  have single : (components path).length ≤ 1 := by
    rw [components_eq, split]
    exact length_first_le only []
  rw [eq_singleton_of_mem single h]
  rfl

/-- **Where the parts of a path come from**: the first and the last one apart, from its inner
pieces. -/
theorem mem_components_of_pieces {first last : List Char} {inner : List (List Char)}
    (split : splitAtChar '/' path.toList = first :: (inner ++ [last]))
    (h : part ∈ components path) :
    part ∈ (components path).head? ∨ part ∈ partsOf inner ∨
      part ∈ (components path).getLast? := by
  have whole : components path = (leading (first :: (inner ++ [last])) ++ partsOf [first]) ++
      (partsOf inner ++ partsOf [last]) := by
    rw [components_eq, split, partsOf, ← List.singleton_append, List.filterMap_append,
      List.filterMap_append, List.append_assoc]
    rfl
  rw [whole] at h ⊢
  rcases List.mem_append.mp h with start | later
  · rw [eq_singleton_of_mem (length_first_le first _) start]
    exact .inl rfl
  · rcases List.mem_append.mp later with between | ending
    · exact .inr (.inl between)
    · rw [eq_singleton_of_mem (length_last_le last) ending, ← List.append_assoc,
        List.getLast?_concat]
      exact .inr (.inr rfl)

/-! ## 2. Blanks around a path -/

/-- A part of a path with blanks around it is the first one, the last one or a part of the path
without them. -/
theorem mem_components_trim (h : part ∈ components path) :
    part ∈ (components path).head? ∨ part ∈ components (trimString path) ∨
      part ∈ (components path).getLast? := by
  obtain ⟨front, back, whole, blank_front, blank_back⟩ := exists_trim path.toList
  -- a blank is no slash, so the blanks cut nothing
  have solid : ∀ {blanks : List Char}, (∀ c ∈ blanks, isBlank c = true) → '/' ∉ blanks :=
    fun blank there => absurd (blank '/' there) (by decide)
  by_cases there : '/' ∈ trim path.toList
  -- between its first and its last piece the path is that without the blanks
  · obtain ⟨first, inner, last, split, around⟩ := exists_pieces there
    have pieces := around front back (solid blank_front) (solid blank_back)
    rw [← whole] at pieces
    refine (mem_components_of_pieces pieces h).imp id (Or.imp (fun between => ?_) id)
    rw [components_eq, trimString, String.toList_ofList, split]
    refine List.mem_append_right _ (List.mem_filterMap.mpr ?_)
    obtain ⟨piece, hp, said⟩ := List.mem_filterMap.mp between
    exact ⟨piece, List.mem_cons_of_mem _ (List.mem_append_left _ hp), said⟩
  · have one : '/' ∉ path.toList := by
      rw [whole, List.mem_append, List.mem_append]
      exact fun h => h.elim (fun h => h.elim (solid blank_front) there) (solid blank_back)
    exact .inl (mem_head?_of_piece (splitAtChar_eq_singleton one) h)

/-- **When a path is within the limits** if it is so without the blanks around it: the blanks take
neither it nor its first or last part beyond them. -/
theorem withinLimits_iff (trimmed : WithinLimits (trimString path)) :
    WithinLimits path ↔ path.utf8ByteSize ≤ 4096 ∧
      (∀ part ∈ (components path).head?, part.text.utf8ByteSize ≤ 255) ∧
      ∀ part ∈ (components path).getLast?, part.text.utf8ByteSize ≤ 255 := by
  constructor
  · intro h
    exact ⟨h.short, fun part hp => h.parts part (List.mem_of_head? hp),
      fun part hp => h.parts part (List.mem_of_getLast? hp)⟩
  · intro ⟨short, first, last⟩
    refine ⟨(blankString_trimString path).symm.trans trimmed.filled, short, fun part hp => ?_⟩
    rcases mem_components_trim hp with begins | between | ends
    · exact first part begins
    · exact trimmed.parts part between
    · exact last part ends

/-! ## 3. Paths that are opened -/

/-- The paths of the contract, of the plan and of the folder for projects that commands open where
no option names another one. -/
def openedPaths (config : Config) : List String :=
  [contractPath config none, planPath config none, outputPath config none]

/-- What a configuration read from a text names is within the limits without the blanks around it. -/
theorem withinLimits_trim_of_ofToml {text : String} {config : Config}
    (read : ofToml text = .ok config) :
    ∀ path ∈ openedPaths config, WithinLimits (trimString path) := by
  obtain ⟨written, checked⟩ := check_of_ofToml read
  obtain ⟨contract, plan, -, generate, generated, rfl⟩ := check_eq_ok_iff.mp checked
  obtain ⟨output, -, -, -, -, languages, -, rfl⟩ := GenerateSection.check_eq_ok_iff.mp generated
  intro path hp
  simp only [openedPaths, List.mem_cons, List.not_mem_nil, or_false] at hp
  rcases hp with rfl | rfl | rfl
  · exact ContractSection.withinLimits_of_check contract
  · exact plan
  · exact output

/-- **The paths that are opened are those that were checked, with the blanks around them.** Each path
of a configuration that is read from a text is not blank, and within the limits without these
blanks. With them it is so just if they take neither the path nor its first or last part beyond the
limits. -/
theorem opened_within_iff {text : String} {config : Config} (read : ofToml text = .ok config) :
    ∀ path ∈ openedPaths config, blankString path = false ∧ WithinLimits (trimString path) ∧
      (WithinLimits path ↔ path.utf8ByteSize ≤ 4096 ∧
        (∀ part ∈ (components path).head?, part.text.utf8ByteSize ≤ 255) ∧
        ∀ part ∈ (components path).getLast?, part.text.utf8ByteSize ≤ 255) := by
  intro path hp
  have trimmed := withinLimits_trim_of_ofToml read path hp
  exact ⟨(blankString_trimString path).symm.trans trimmed.filled, trimmed,
    withinLimits_iff trimmed⟩

/-- A path with a blank on each side is checked without them and opened with them. -/
theorem spaced_contract_within :
    ∃ config, ofToml (contractText " api/pets.yaml ") = .ok config ∧
      " api/pets.yaml " ∈ openedPaths config ∧ WithinLimits " api/pets.yaml " := by
  have read : ofToml (contractText " api/pets.yaml ") = .ok (withContract " api/pets.yaml ") :=
    ofToml_contractText (List.all_eq_true.mp (by decide +kernel)) (by decide +kernel)
  have there : " api/pets.yaml " ∈ openedPaths (withContract " api/pets.yaml ") :=
    List.mem_cons_self
  obtain ⟨-, -, within⟩ := opened_within_iff read _ there
  exact ⟨_, read, there, within.mpr (by decide +kernel)⟩

/-! ## 4. Blanks behind a path -/

/-- A path of one letter with `count` blanks behind it. -/
def blankEnded (count : Nat) : String := "p" ++ .ofList (List.replicate count ' ')

variable {count : Nat}

theorem toList_blankEnded : (blankEnded count).toList = 'p' :: List.replicate count ' ' := by
  rw [blankEnded, String.toList_append, String.toList_ofList, String.toList_ofList,
    List.singleton_append]

theorem utf8ByteSize_blankEnded : (blankEnded count).utf8ByteSize = count + 1 := by
  have blanks : (String.ofList (List.replicate count ' ')).utf8ByteSize = count := by
    induction count with
    | zero => rfl
    | succ count ih =>
      rw [List.replicate_succ', String.ofList_append, String.utf8ByteSize_append, ih]
      rfl
  rw [blankEnded, String.utf8ByteSize_append, blanks, Nat.add_comm]
  rfl

theorem trimString_blankEnded : trimString (blankEnded count) = "p" := by
  have back : ∀ c ∈ List.replicate count ' ', isBlank c = true := by
    intro c hc
    rw [List.eq_of_mem_replicate hc]
    decide
  rw [trimString, toList_blankEnded, trim, trimStart, List.dropWhile_cons_of_neg (by decide),
    trimEnd, List.reverse_cons, List.reverse_replicate, List.dropWhile_append_of_pos back]
  rfl

theorem components_blankEnded : components (blankEnded count) = [.name (blankEnded count)] := by
  have plain : '/' ∉ (blankEnded count).toList := by
    rw [toList_blankEnded]
    simp
  have named : component? ('p' :: List.replicate count ' ') = some (.name (blankEnded count)) := by
    rw [← toList_blankEnded, component?_of_ne, String.ofList_toList] <;> simp [toList_blankEnded]
  rw [components_eq, splitAtChar_eq_singleton plain, toList_blankEnded, leading_cons, partsOf,
    List.filterMap_cons, named]
  simp

theorem withinLimits_trim_blankEnded : WithinLimits (trimString (blankEnded count)) := by
  rw [trimString_blankEnded]
  decide +kernel

/-- Such a path is accepted, however many blanks there are, and kept with all of them. -/
theorem ofToml_blankEnded :
    ofToml (contractText (blankEnded count)) = .ok (withContract (blankEnded count)) := by
  refine ofToml_contractText (fun c hc => ?_) withinLimits_trim_blankEnded
  rw [toList_blankEnded] at hc
  rcases List.mem_cons.mp hc with rfl | blank
  · decide
  · rw [List.eq_of_mem_replicate blank]
    decide

theorem withinLimits_blankEnded_iff : WithinLimits (blankEnded count) ↔ count < 255 := by
  rw [withinLimits_iff withinLimits_trim_blankEnded, components_blankEnded,
    utf8ByteSize_blankEnded]
  simp [Component.text, utf8ByteSize_blankEnded]
  omega

/-- **Blanks take a path that was accepted beyond the limits.** -/
theorem blankEnded_opened : ∃ config, ofToml (contractText (blankEnded 255)) = .ok config ∧
    contractPath config none = blankEnded 255 ∧ ¬WithinLimits (blankEnded 255) := by
  refine ⟨_, ofToml_blankEnded, rfl, fun within => ?_⟩
  exact Nat.lt_irrefl 255 (withinLimits_blankEnded_iff.mp within)

end Covenant.Config
