import Covenant.Proofs.Pattern.Search
/-!
# Sketches

A sketch says of a text step by step what it may be made of. Whether a pattern can occur in any text
of a sketch is decided on the sketch, once for all its texts.

* `Fits` says which texts a sketch stands for: each step is one character of a set, or any number of
  them.
* `Pattern.routes` are sketches, over sets of characters, of all texts of a pattern; edges are
  passed over.
* `canMeet` compares two sketches. It may find too much, but `canMeet_of_fits`: it finds all that is
  there.
* `occursIn_eq_false`: a pattern that meets a sketch nowhere occurs in no text of it.
-/

namespace Covenant

/-! ## 1. Texts of a sketch -/

/-- A step of a sketch: one character of a set, or any number of them. -/
inductive Step (α : Type) where
  | one (set : α)
  | many (set : α)
deriving Repr, DecidableEq

/-- What a text is made of, step by step. -/
abbrev Sketch (α : Type) := List (Step α)

/-- The sketch stands for the text; `mem` says what is in a set. -/
def Fits {α : Type} (mem : α → Char → Prop) : Sketch α → List Char → Prop
  | [], text => text = []
  | .one set :: steps, text => ∃ c more, text = c :: more ∧ mem set c ∧ Fits mem steps more
  | .many set :: steps, text =>
    ∃ row more, text = row ++ more ∧ (∀ c ∈ row, mem set c) ∧ Fits mem steps more

section

variable {α : Type} {mem : α → Char → Prop}

theorem Fits.append {first second : Sketch α} {text more : List Char} (h : Fits mem first text)
    (g : Fits mem second more) : Fits mem (first ++ second) (text ++ more) := by
  induction first generalizing text with
  | nil =>
    obtain rfl : text = [] := h
    exact g
  | cons step steps ih =>
    cases step with
    | one set =>
      obtain ⟨c, rest, rfl, here, later⟩ := h
      exact ⟨c, rest ++ more, rfl, here, ih later⟩
    | many set =>
      obtain ⟨row, rest, rfl, here, later⟩ := h
      exact ⟨row, rest ++ more, List.append_assoc _ _ _, here, ih later⟩

/-- What is left of a text fits what is left of its sketch. -/
theorem Fits.exists_tail {sketch : Sketch α} {skipped text : List Char}
    (h : Fits mem sketch (skipped ++ text)) : ∃ tail ∈ sketch.tails, Fits mem tail text := by
  induction sketch generalizing skipped with
  | nil =>
    obtain ⟨_, rfl⟩ := List.append_eq_nil_iff.mp h
    exact ⟨[], by simp, rfl⟩
  | cons step steps ih =>
    have later : ∀ {skipped}, Fits mem steps (skipped ++ text) →
        ∃ tail ∈ (step :: steps).tails, Fits mem tail text := fun h =>
      (ih h).imp fun tail found => ⟨by simp [found.1], found.2⟩
    cases step with
    | one set =>
      cases skipped with
      | nil => exact ⟨.one set :: steps, by simp, h⟩
      | cons d skipped =>
        obtain ⟨c, more, split, _, rest⟩ := h
        obtain ⟨rfl, rfl⟩ := List.cons.inj split
        exact later rest
    | many set =>
      obtain ⟨row, more, split, here, rest⟩ := h
      rcases List.append_eq_append_iff.mp split with ⟨left, rfl, rfl⟩ | ⟨left, rfl, rfl⟩
      · refine ⟨.many set :: steps, by simp, left, more, rfl, fun c hc => ?_, rest⟩
        exact here c (List.mem_append_right _ hc)
      · exact later rest

end

/-! ## 2. Comparing sketches -/

section

variable {α : Type} (overlap : α → List Char → Bool)

/-- A sketch can go on as `next` says after one character of a set. -/
def meetOne (set : α) (next : Sketch (List Char) → Bool) : Sketch (List Char) → Bool
  | [] => false
  | .one chars :: steps => overlap set chars && next steps
  | .many chars :: steps =>
    (overlap set chars && next (.many chars :: steps)) || meetOne set next steps

/-- A sketch can go on as `next` says after any number of characters of a set. -/
def meetMany (set : α) (next : Sketch (List Char) → Bool) : Sketch (List Char) → Bool
  | [] => next []
  | .one chars :: steps =>
    next (.one chars :: steps) || (overlap set chars && meetMany set next steps)
  | .many chars :: steps => next (.many chars :: steps) || meetMany set next steps

/-- Some text of the second sketch may begin with a text of the first. -/
def canMeet : Sketch α → Sketch (List Char) → Bool
  | [] => fun _ => true
  | .one set :: steps => meetOne overlap set (canMeet steps)
  | .many set :: steps => meetMany overlap set (canMeet steps)

/-- Some text of the second sketch may hold a text of the first. -/
def mayHold (part : Sketch α) (sketch : Sketch (List Char)) : Bool :=
  sketch.tails.any (canMeet overlap part)

variable {overlap} {mem : α → Char → Prop}
  (sound : ∀ set c chars, mem set c → c ∈ chars → overlap set chars = true)
  {next : Sketch (List Char) → Bool} {sketch : Sketch (List Char)} {text rest : List Char}
include sound

theorem meetOne_of_fits {set : α} {c : Char} (within : mem set c)
    (fits : Fits (fun chars c => c ∈ chars) sketch (c :: text))
    (later : ∀ tail, Fits (fun chars c => c ∈ chars) tail text → next tail = true) :
    meetOne overlap set next sketch = true := by
  induction sketch with
  | nil => cases fits
  | cons step steps ih =>
    cases step with
    | one chars =>
      obtain ⟨d, more, split, here, fits⟩ := fits
      obtain ⟨rfl, rfl⟩ := List.cons.inj split
      simp [meetOne, sound _ _ _ within here, later steps fits]
    | many chars =>
      obtain ⟨row, more, split, here, fits⟩ := fits
      cases row with
      | nil =>
        obtain rfl : c :: text = more := split
        simp [meetOne, ih fits]
      | cons d row =>
        obtain ⟨rfl, rfl⟩ := List.cons.inj split
        obtain ⟨first, others⟩ := List.forall_mem_cons.mp here
        have left := later (.many chars :: steps) ⟨row, more, rfl, others, fits⟩
        simp [meetOne, sound _ _ _ within first, left]

theorem meetMany_of_fits {set : α} {row : List Char} (within : ∀ c ∈ row, mem set c)
    (fits : Fits (fun chars c => c ∈ chars) sketch (row ++ text))
    (later : ∀ tail, Fits (fun chars c => c ∈ chars) tail text → next tail = true) :
    meetMany overlap set next sketch = true := by
  induction sketch generalizing row with
  | nil =>
    obtain ⟨_, rfl⟩ := List.append_eq_nil_iff.mp fits
    exact later [] rfl
  | cons step steps ih =>
    cases step with
    | one chars =>
      cases row with
      | nil => simp [meetMany, later _ fits]
      | cons c row =>
        obtain ⟨d, more, split, here, fits⟩ := fits
        obtain ⟨rfl, rfl⟩ := List.cons.inj split
        obtain ⟨first, others⟩ := List.forall_mem_cons.mp within
        simp [meetMany, sound _ _ _ first here, ih others fits]
    | many chars =>
      obtain ⟨others, more, split, here, fits⟩ := fits
      rcases List.append_eq_append_iff.mp split with ⟨left, rfl, rfl⟩ | ⟨left, rfl, rfl⟩
      · have behind : ∀ c ∈ left, c ∈ chars := fun c hc => here c (List.mem_append_right _ hc)
        simp [meetMany, later (.many chars :: steps) ⟨left, more, rfl, behind, fits⟩]
      · have behind : ∀ c ∈ left, mem set c := fun c hc => within c (List.mem_append_right _ hc)
        simp [meetMany, ih behind fits]

/-- **A sketch is met where a text of it begins with a text of the other.** -/
theorem canMeet_of_fits {part : Sketch α} (here : Fits mem part text)
    (fits : Fits (fun chars c => c ∈ chars) sketch (text ++ rest)) :
    canMeet overlap part sketch = true := by
  induction part generalizing text sketch with
  | nil => rfl
  | cons step steps ih =>
    cases step with
    | one set =>
      obtain ⟨c, more, rfl, within, here⟩ := here
      exact meetOne_of_fits sound within fits fun _ fits => ih here fits
    | many set =>
      obtain ⟨row, more, rfl, within, here⟩ := here
      rw [List.append_assoc] at fits
      exact meetMany_of_fits sound within fits fun _ fits => ih here fits

/-- **A text of a sketch holds no text of another that it may not hold.** -/
theorem mayHold_of_fits {part : Sketch α} {skipped : List Char} (here : Fits mem part text)
    (fits : Fits (fun chars c => c ∈ chars) sketch (skipped ++ text ++ rest)) :
    mayHold overlap part sketch = true := by
  rw [List.append_assoc] at fits
  obtain ⟨tail, ht, fits⟩ := fits.exists_tail
  exact List.any_eq_true.mpr ⟨tail, ht, canMeet_of_fits sound here fits⟩

end

/-! ## 3. Sketches of a pattern -/

namespace Pattern

/-- Any character. -/
def CharSet.all : CharSet := .complement .none

/-- Sketches of the texts of a pattern; there may be other texts of these sketches. -/
def routes : Pattern → List (Sketch CharSet)
  | .empty | .edge _ => [[]]
  | .char set => [[.one set]]
  | .seq first second =>
    first.routes.flatMap fun front => second.routes.map fun more => front ++ more
  | .alt first second => first.routes ++ second.routes
  | .times (.char set) least _ => [List.replicate least (.one set) ++ [.many set]]
  | .times body _ (some 1) => [] :: body.routes
  | .times _ _ _ => [[.many CharSet.all]]

/-- The text is one of a sketch over sets of characters. -/
abbrev Follows (route : Sketch CharSet) (text : List Char) : Prop :=
  Fits (fun set c => set.contains c = true) route text

theorem follows_all (text : List Char) : Follows [.many CharSet.all] text :=
  ⟨text, [], (List.append_nil text).symm, fun _ _ => rfl, rfl⟩

theorem follows_char {set : CharSet} {text : List Char} {least : Nat} (enough : least ≤ text.length)
    (within : ∀ c ∈ text, set.contains c = true) :
    Follows (List.replicate least (.one set) ++ [.many set]) text := by
  induction least generalizing text with
  | zero => exact ⟨text, [], (List.append_nil text).symm, within, rfl⟩
  | succ least ih =>
    obtain ⟨c, more, rfl⟩ := List.exists_cons_of_length_pos (Nat.zero_lt_of_lt enough)
    obtain ⟨here, others⟩ := List.forall_mem_cons.mp within
    exact ⟨c, more, rfl, here, ih (Nat.le_of_succ_le_succ enough) others⟩

/-- **Each text of a pattern is one of its sketches.** -/
theorem exists_route {p : Pattern} {before : Option Char} {text rest : List Char}
    (h : p.Matches before text rest) : ∃ route ∈ p.routes, Follows route text := by
  fun_induction routes p generalizing before text rest with
  | case1 => exact ⟨[], .head _, h⟩
  | case2 e => exact ⟨[], .head _, h.1⟩
  | case3 set =>
    obtain ⟨c, rfl, within⟩ := h
    exact ⟨_, .head _, c, [], rfl, within, rfl⟩
  | case4 first second ihs ihf =>
    obtain ⟨front, more, rfl, here, later⟩ := h
    obtain ⟨route, hr, follows⟩ := ihf here
    obtain ⟨other, ho, further⟩ := ihs later
    exact ⟨route ++ other, List.mem_flatMap.mpr ⟨route, hr, List.mem_map_of_mem ho⟩,
      follows.append further⟩
  | case5 first second ihf ihs =>
    rcases h with here | here
    · exact (ihf here).imp fun _ found => ⟨List.mem_append_left _ found.1, found.2⟩
    · exact (ihs here).imp fun _ found => ⟨List.mem_append_right _ found.1, found.2⟩
  | case6 set least most =>
    obtain ⟨enough, _, within⟩ := matches_times_char.mp h
    exact ⟨_, .head _, follows_char enough within⟩
  | case7 body least other ih =>
    obtain ⟨k, _, within, texts⟩ := h
    have few : k ≤ 1 := within 1 rfl
    obtain rfl | rfl : k = 0 ∨ k = 1 := by omega
    · exact ⟨[], .head _, texts⟩
    · obtain ⟨front, _, rfl, here, rfl⟩ := texts
      rw [List.append_nil]
      exact (ih here).imp fun _ found => ⟨.tail _ found.1, found.2⟩
  | case8 => exact ⟨_, .head _, follows_all text⟩

/-- A set and a list of characters have one in common. -/
def overlaps (set : CharSet) (chars : List Char) : Bool := chars.any set.contains

/-- The pattern may occur in a text of a sketch. -/
def mayOccur (p : Pattern) (sketch : Sketch (List Char)) : Bool :=
  p.routes.any (mayHold overlaps · sketch)

/-- The text is one of a sketch over lists of characters. -/
abbrev Sketched (sketch : Sketch (List Char)) (text : List Char) : Prop :=
  Fits (fun chars c => c ∈ chars) sketch text

theorem overlaps_of_mem (set : CharSet) (c : Char) (chars : List Char)
    (within : set.contains c = true) (there : c ∈ chars) : overlaps set chars = true :=
  List.any_eq_true.mpr ⟨c, there, within⟩

/-- A route that is not met in a sketch begins no text of it. -/
theorem not_follows_prefix {route : Sketch CharSet} {sketch : Sketch (List Char)}
    (never : canMeet overlaps route sketch = false) {line : List Char}
    (sketched : Sketched sketch line) {text : List Char} (begins : text <+: line) :
    ¬Follows route text := by
  intro follows
  obtain ⟨rest, rfl⟩ := begins
  rw [canMeet_of_fits overlaps_of_mem follows sketched] at never
  cases never

/-- A route that a sketch may not hold stands in no text of it. -/
theorem not_follows_infix {route : Sketch CharSet} {sketch : Sketch (List Char)}
    (never : mayHold overlaps route sketch = false) {line : List Char}
    (sketched : Sketched sketch line) {text : List Char} (within : text <:+: line) :
    ¬Follows route text := by
  intro follows
  obtain ⟨skipped, rest, rfl⟩ := within
  rw [mayHold_of_fits overlaps_of_mem follows sketched] at never
  cases never

/-- **What may not occur in a sketch occurs in no text of it.** -/
theorem occursIn_eq_false {p : Pattern} (proper : p.IsProper) {sketch : Sketch (List Char)}
    (never : p.mayOccur sketch = false) {line : List Char} (sketched : Sketched sketch line) :
    p.occursIn line = false := by
  rw [Bool.eq_false_iff]
  intro found
  obtain ⟨skipped, part, rest, split, here⟩ := (occursIn_iff proper).mp found
  obtain ⟨route, hr, follows⟩ := exists_route here
  have absent : mayHold overlaps route sketch = false := by
    simpa using List.any_eq_false.mp never route hr
  exact not_follows_infix absent sketched ⟨skipped, rest, split.symm⟩ follows

end Pattern

end Covenant
