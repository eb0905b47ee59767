import Covenant.Pattern.Basic
import Mathlib.Data.List.Basic
/-!
# What a search finds

* `Matches` says which texts a pattern describes, each with what stands before and after it; a
  repetition is a number of texts one after the other.
* `acceptsAt_iff` and `matches_cons_iff`: what is read character by character is what the pattern
  describes, if no repetition asks for more texts than it allows.
* `occursIn_iff`: a search finds a pattern just if some part of the line is a text of it.
* `matches_ofText`: the pattern of one text describes this text and no other.
-/

namespace Covenant

namespace Pattern

/-! ## 1. Texts of a pattern -/

/-- The character before what follows a text. -/
def lastOf (before : Option Char) : List Char → Option Char
  | [] => before
  | c :: text => lastOf (some c) text

/-- So many texts one after the other; `one` says what each of them is, by the character before it,
its characters and what follows. -/
def Repeats (one : Option Char → List Char → List Char → Prop) :
    Nat → Option Char → List Char → List Char → Prop
  | 0, _, text, _ => text = []
  | k + 1, before, text, rest => ∃ first more, text = first ++ more ∧
      one before first (more ++ rest) ∧ Repeats one k (lastOf before first) more rest

/-- The pattern describes a text between the character before it and what follows. -/
def Matches : Pattern → Option Char → List Char → List Char → Prop
  | .empty, _, text, _ => text = []
  | .char set, _, text, _ => ∃ c, text = [c] ∧ set.contains c = true
  | .edge e, before, text, rest => text = [] ∧ e.holds ⟨before, rest.head?⟩ = true
  | .seq first second, before, text, rest => ∃ front more, text = front ++ more ∧
      first.Matches before front (more ++ rest) ∧ second.Matches (lastOf before front) more rest
  | .alt first second, before, text, rest =>
    first.Matches before text rest ∨ second.Matches before text rest
  | .times body least most, before, text, rest =>
    ∃ k, least ≤ k ∧ (∀ bound ∈ most, k ≤ bound) ∧ Repeats body.Matches k before text rest

/-- No repetition asks for more texts than it allows. -/
def IsProper : Pattern → Prop
  | .empty | .char _ | .edge _ => True
  | .seq first second | .alt first second => first.IsProper ∧ second.IsProper
  | .times body least most => body.IsProper ∧ ∀ bound ∈ most, least ≤ bound

instance decidableIsProper : (p : Pattern) → Decidable p.IsProper
  | .empty | .char _ | .edge _ => inferInstanceAs (Decidable True)
  | .seq first second | .alt first second =>
    have := decidableIsProper first
    have := decidableIsProper second
    inferInstanceAs (Decidable (_ ∧ _))
  | .times body least none =>
    have := decidableIsProper body
    decidable_of_iff body.IsProper (by simp [IsProper])
  | .times body least (some bound) =>
    have := decidableIsProper body
    decidable_of_iff (body.IsProper ∧ least ≤ bound) (by simp [IsProper])

/-! ## 2. Repetitions -/

section

variable {one : Option Char → List Char → List Char → Prop} {before : Option Char}
  {text rest : List Char} {c : Char}

/-- Empty texts, as many as asked for. -/
theorem Repeats.of_empty (h : one before [] rest) (k : Nat) : Repeats one k before [] rest := by
  induction k with
  | zero => rfl
  | succ k ih => exact ⟨[], [], rfl, h, ih⟩

/-- Among texts that make up none each is empty. -/
theorem Repeats.empty {k : Nat} (h : Repeats one k before [] rest) (some_text : k ≠ 0) :
    one before [] rest := by
  cases k with
  | zero => exact absurd rfl some_text
  | succ k =>
    obtain ⟨first, more, split, here, _⟩ := h
    obtain ⟨rfl, rfl⟩ := List.append_eq_nil_iff.mp split.symm
    exact here

/-- More texts, empty ones in front. -/
theorem Repeats.pad {k : Nat} (h : Repeats one k before text rest)
    (empty : one before [] (text ++ rest)) (more : Nat) :
    Repeats one (more + k) before text rest := by
  induction more with
  | zero => rwa [Nat.zero_add]
  | succ more ih =>
    rw [Nat.succ_add]
    exact ⟨[], text, rfl, empty, ih⟩

/-- **Where a character comes in a repetition**: in the first text that is not empty; if there are
texts before it, the empty text is one of those that are repeated. -/
theorem repeats_cons_iff {k : Nat} :
    Repeats one k before (c :: text) rest ↔ ∃ j front more, text = front ++ more ∧ j < k ∧
      (j + 1 = k ∨ one before [] (c :: text ++ rest)) ∧ one before (c :: front) (more ++ rest) ∧
      Repeats one j (lastOf (some c) front) more rest := by
  constructor
  · intro h
    induction k with
    | zero => cases h
    | succ k ih =>
      obtain ⟨first, more, split, here, later⟩ := h
      cases first with
      | nil =>
        obtain rfl : c :: text = more := split
        obtain ⟨j, front, more, rfl, fewer, _, found⟩ := ih later
        exact ⟨j, front, more, rfl, Nat.lt_succ_of_lt fewer, .inr here, found⟩
      | cons d front =>
        obtain ⟨rfl, rfl⟩ := List.cons.inj split
        exact ⟨k, front, more, rfl, Nat.lt_succ_self k, .inl rfl, here, later⟩
  · rintro ⟨j, front, more, rfl, fewer, empty, here, later⟩
    have single : Repeats one (j + 1) before (c :: (front ++ more)) rest :=
      ⟨c :: front, more, rfl, here, later⟩
    rcases empty with rfl | empty
    · exact single
    · have padded := single.pad empty (k - (j + 1))
      rwa [Nat.sub_add_cancel fewer] at padded

end

/-! ## 3. Reading a character -/

variable {before : Option Char} {text rest : List Char} {c : Char}

/-- **Where a pattern matches the empty text.** -/
theorem acceptsAt_iff {p : Pattern} (proper : p.IsProper) :
    p.acceptsAt ⟨before, rest.head?⟩ = true ↔ p.Matches before [] rest := by
  induction p generalizing before rest with
  | empty => simp [acceptsAt, Matches]
  | char set => simp [acceptsAt, Matches]
  | edge e => simp [acceptsAt, Matches]
  | seq first second ihf ihs =>
    rw [acceptsAt, Bool.and_eq_true, ihf proper.1, ihs proper.2]
    constructor
    · exact fun h => ⟨[], [], rfl, h.1, h.2⟩
    · rintro ⟨front, more, split, here, later⟩
      obtain ⟨rfl, rfl⟩ := List.append_eq_nil_iff.mp split.symm
      exact ⟨here, later⟩
  | alt first second ihf ihs => rw [acceptsAt, Bool.or_eq_true, ihf proper.1, ihs proper.2, Matches]
  | times body least most ih =>
    rw [acceptsAt, Bool.or_eq_true, ih proper.1, beq_iff_eq]
    constructor
    · rintro (rfl | empty)
      · exact ⟨0, Nat.le_refl 0, fun _ _ => Nat.zero_le _, rfl⟩
      · exact ⟨least, Nat.le_refl _, proper.2, .of_empty empty least⟩
    · rintro ⟨k, enough, _, texts⟩
      rcases Nat.eq_zero_or_pos k with rfl | pos
      · exact .inl (Nat.le_zero.mp enough)
      · exact .inr (texts.empty (Nat.pos_iff_ne_zero.mp pos))

theorem acceptsAt_cons_iff {p : Pattern} (proper : p.IsProper) :
    p.acceptsAt ⟨before, some c⟩ = true ↔ p.Matches before [] (c :: text) :=
  @acceptsAt_iff before (c :: text) p proper

theorem matches_andThen {first second : Pattern} :
    (first.andThen second).Matches before text rest ↔
      (Pattern.seq first second).Matches before text rest := by
  cases first with
  | empty =>
    constructor
    · exact fun h => ⟨[], text, rfl, rfl, h⟩
    · rintro ⟨front, more, rfl, rfl, later⟩
      exact later
  | char set => rfl
  | edge e => rfl
  | seq first more => rfl
  | alt first more => rfl
  | times body least most => rfl

/-- What is left of a repetition after one of its texts. -/
theorem matches_countDown {body : Pattern} {mayBeEmpty : Bool} {least : Nat} {most : Option Nat}
    (proper : ∀ bound ∈ most, least ≤ bound) (some_more : most ≠ some 0) :
    (countDown body mayBeEmpty least most).Matches before text rest ↔
      ∃ j, (mayBeEmpty = true ∨ least ≤ j + 1) ∧ (∀ bound ∈ most, j + 1 ≤ bound) ∧
        Repeats body.Matches j before text rest := by
  unfold countDown
  split
  · have least_one : least ≤ 1 := proper 1 rfl
    constructor
    · exact fun h => ⟨0, .inr least_one, by simp, h⟩
    · rintro ⟨j, _, within, texts⟩
      obtain rfl : j = 0 := by simpa using within 1 rfl
      exact texts
  · have bounds : ∀ j, (∀ bound ∈ most.map (· - 1), j ≤ bound) ↔ ∀ bound ∈ most, j + 1 ≤ bound := by
      intro j
      cases most with
      | none => simp
      | some bound =>
        have pos : bound ≠ 0 := fun none => some_more (none ▸ rfl)
        simp only [Option.map_some, Option.mem_some_iff, forall_eq']
        omega
    have enough : ∀ j, (if mayBeEmpty then 0 else least - 1) ≤ j ↔
        (mayBeEmpty = true ∨ least ≤ j + 1) := by
      intro j
      cases mayBeEmpty <;> simp
    simp only [Matches, bounds, enough]

/-- What a sequence describes from a character on: the character stands in the first text, or this
text is empty and the character stands in the second one. -/
theorem matches_seq_cons {first second : Pattern} :
    (seq first second).Matches before (c :: text) rest ↔
      (∃ front more, text = front ++ more ∧ first.Matches before (c :: front) (more ++ rest) ∧
        second.Matches (lastOf (some c) front) more rest) ∨
      first.Matches before [] (c :: text ++ rest) ∧ second.Matches before (c :: text) rest := by
  constructor
  · rintro ⟨front, more, split, here, later⟩
    cases front with
    | nil =>
      obtain rfl : c :: text = more := split
      exact .inr ⟨here, later⟩
    | cons d front =>
      obtain ⟨rfl, rfl⟩ := List.cons.inj split
      exact .inl ⟨front, more, rfl, here, later⟩
  · rintro (⟨front, more, rfl, here, later⟩ | ⟨empty, later⟩)
    · exact ⟨c :: front, more, rfl, here, later⟩
    · exact ⟨[], c :: text, rfl, empty, later⟩

/-- What a repetition describes from a character on: one text of the body that starts with it and
some further ones. Where there are fewer than asked for, empty texts in front make up for them. -/
theorem matches_times_cons {body : Pattern} {least : Nat} {most : Option Nat}
    (proper : ∀ bound ∈ most, least ≤ bound) :
    (times body least most).Matches before (c :: text) rest ↔
      ∃ front more, text = front ++ more ∧ body.Matches before (c :: front) (more ++ rest) ∧
        ∃ j, (body.Matches before [] (c :: text ++ rest) ∨ least ≤ j + 1) ∧
          (∀ bound ∈ most, j + 1 ≤ bound) ∧
          Repeats body.Matches j (lastOf (some c) front) more rest := by
  constructor
  · rintro ⟨k, enough, within, texts⟩
    obtain ⟨j, front, more, split, fewer, empty, here, later⟩ := repeats_cons_iff.mp texts
    refine ⟨front, more, split, here, j, ?_, ?_, later⟩
    · rcases empty with rfl | empty
      · exact .inr enough
      · exact .inl empty
    · exact fun bound hb => Nat.le_trans fewer (within bound hb)
  · rintro ⟨front, more, split, here, j, enough, within, later⟩
    refine ⟨max (j + 1) least, Nat.le_max_right _ _, ?_, repeats_cons_iff.mpr ?_⟩
    · exact fun bound hb => Nat.max_le.mpr ⟨within bound hb, proper bound hb⟩
    · refine ⟨j, front, more, split, Nat.le_max_left _ _, ?_, here, later⟩
      rcases enough with empty | enough
      · exact .inr empty
      · exact .inl (Nat.max_eq_left enough).symm

/-- One of some patterns, with the same pattern after each of them. -/
theorem exists_matches_andThen {patterns : List Pattern} {second : Pattern} :
    (∃ q ∈ patterns.map (·.andThen second), q.Matches before text rest) ↔
      ∃ front more, text = front ++ more ∧
        (∃ q ∈ patterns, q.Matches before front (more ++ rest)) ∧
        second.Matches (lastOf before front) more rest := by
  simp only [List.mem_map, exists_exists_and_eq_and]
  constructor
  · rintro ⟨q, hq, found⟩
    obtain ⟨front, more, split, here, later⟩ := matches_andThen.mp found
    exact ⟨front, more, split, ⟨q, hq, here⟩, later⟩
  · rintro ⟨front, more, split, ⟨q, hq, here⟩, later⟩
    exact ⟨q, hq, matches_andThen.mpr ⟨front, more, split, here, later⟩⟩

/-- **What is left to match after a character** are the patterns of what may follow it. -/
theorem matches_cons_iff {p : Pattern} (proper : p.IsProper) :
    p.Matches before (c :: text) rest ↔
      ∃ q ∈ p.after before c, q.Matches (some c) text rest := by
  induction p generalizing before text rest with
  | empty => simp [after, Matches]
  | edge e => simp [after, Matches]
  | char set =>
    by_cases within : set.contains c = true
    · simp [after, within, Matches]
    · simp only [after, within, Bool.false_eq_true, if_false, List.not_mem_nil, false_and,
        exists_false, iff_false]
      rintro ⟨d, single, member⟩
      obtain ⟨rfl, rfl⟩ := List.cons.inj single
      exact within member
  | alt first second ihf ihs =>
    simp only [after, Matches, ihf proper.1, ihs proper.2, List.mem_append, or_and_right, exists_or]
  | seq first second ihf ihs =>
    have accepts := @acceptsAt_cons_iff before (text ++ rest) c _ proper.1
    simp only [matches_seq_cons, ihf proper.1, ihs proper.2, after, List.mem_append, or_and_right,
      exists_or, exists_matches_andThen, List.mem_ite_nil_right, and_assoc, exists_and_left,
      accepts, List.cons_append]
  | times body least most ih =>
    rw [matches_times_cons proper.2, after]
    split
    · rename_i none_left
      obtain rfl := eq_of_beq none_left
      simp
    · rename_i some_left
      have some_more : most ≠ some 0 := by simpa using some_left
      have accepts := @acceptsAt_cons_iff before (text ++ rest) c _ proper.1
      simp only [exists_matches_andThen, matches_countDown proper.2 some_more, ih proper.1, accepts,
        List.cons_append]

theorem isProper_andThen {first second : Pattern} (hf : first.IsProper) (hs : second.IsProper) :
    (first.andThen second).IsProper := by
  cases first with
  | empty => exact hs
  | char | edge | seq | alt | times => exact ⟨hf, hs⟩

theorem isProper_countDown {body : Pattern} {mayBeEmpty : Bool} {least : Nat} {most : Option Nat}
    (proper : body.IsProper) (bounds : ∀ bound ∈ most, least ≤ bound) :
    (countDown body mayBeEmpty least most).IsProper := by
  unfold countDown
  split
  · trivial
  · refine ⟨proper, ?_⟩
    cases most with
    | none => simp
    | some bound =>
      have enough : least ≤ bound := bounds bound rfl
      simp only [Option.map_some, Option.mem_some_iff, forall_eq']
      split <;> omega

/-- What is left to match is proper again. -/
theorem isProper_after {p : Pattern} (proper : p.IsProper) :
    ∀ q ∈ p.after before c, q.IsProper := by
  induction p with
  | empty | edge e => exact fun _ none => nomatch none
  | char set =>
    intro q hq
    rw [after] at hq
    split at hq
    · rw [List.mem_singleton.mp hq]
      trivial
    · cases hq
  | alt first second ihf ihs =>
    exact List.forall_mem_append.mpr ⟨ihf proper.1, ihs proper.2⟩
  | seq first second ihf ihs =>
    refine List.forall_mem_append.mpr ⟨?_, ?_⟩
    · exact List.forall_mem_map.mpr fun q hq => isProper_andThen (ihf proper.1 q hq) proper.2
    · split
      · exact ihs proper.2
      · exact fun _ none => nomatch none
  | times body least most ih =>
    rw [after]
    split
    · exact fun _ none => nomatch none
    · exact List.forall_mem_map.mpr fun q hq =>
        isProper_andThen (ih proper.1 q hq) (isProper_countDown proper.1 proper.2)

/-! ## 4. Searching -/

theorem mem_distinct {patterns : List Pattern} {p : Pattern} :
    p ∈ distinct patterns ↔ p ∈ patterns := by
  induction patterns generalizing p with
  | nil => rfl
  | cons first rest ih =>
    rw [distinct]
    split
    · rename_i again
      have there : first ∈ rest := ih.mp (by simpa using again)
      rw [ih, List.mem_cons]
      exact ⟨.inr, fun h => h.elim (fun same => same ▸ there) id⟩
    · simp [ih]

/-- One of some patterns describes the start of a text. -/
def StartsOne (patterns : List Pattern) (before : Option Char) (text : List Char) : Prop :=
  ∃ q ∈ patterns, ∃ front more, text = front ++ more ∧ q.Matches before front more

theorem startsOne_nil {patterns : List Pattern} (proper : ∀ q ∈ patterns, q.IsProper) :
    StartsOne patterns before [] ↔ patterns.any (·.acceptsAt ⟨before, none⟩) = true := by
  rw [List.any_eq_true]
  refine exists_congr fun q => and_congr_right fun hq => ?_
  rw [← List.head?_nil, acceptsAt_iff (proper q hq)]
  constructor
  · rintro ⟨front, more, split, found⟩
    obtain ⟨rfl, rfl⟩ := List.append_eq_nil_iff.mp split.symm
    exact found
  · exact fun found => ⟨[], [], rfl, found⟩

/-- One of some patterns starts here, or what is left of one starts after the next character. -/
theorem startsOne_cons {patterns : List Pattern} (proper : ∀ q ∈ patterns, q.IsProper) :
    StartsOne patterns before (c :: text) ↔
      patterns.any (·.acceptsAt ⟨before, some c⟩) = true ∨
        StartsOne (patterns.flatMap (·.after before c)) (some c) text := by
  rw [List.any_eq_true]
  constructor
  · rintro ⟨q, hq, front, more, split, found⟩
    cases front with
    | nil =>
      obtain rfl : c :: text = more := split
      exact .inl ⟨q, hq, (acceptsAt_cons_iff (proper q hq)).mpr found⟩
    | cons d front =>
      obtain ⟨rfl, rfl⟩ := List.cons.inj split
      obtain ⟨left, hl, found⟩ := (matches_cons_iff (proper q hq)).mp found
      exact .inr ⟨left, List.mem_flatMap.mpr ⟨q, hq, hl⟩, front, more, rfl, found⟩
  · rintro (⟨q, hq, found⟩ | ⟨left, hl, front, more, rfl, found⟩)
    · exact ⟨q, hq, [], c :: text, rfl, (acceptsAt_cons_iff (proper q hq)).mp found⟩
    · obtain ⟨q, hq, hl⟩ := List.mem_flatMap.mp hl
      exact ⟨q, hq, c :: front, more, rfl, (matches_cons_iff (proper q hq)).mpr ⟨left, hl, found⟩⟩

/-- The pattern describes some part of a text. -/
def Occurs (p : Pattern) (before : Option Char) (text : List Char) : Prop :=
  ∃ skipped part rest, text = skipped ++ part ++ rest ∧
    p.Matches (lastOf before skipped) part rest

theorem occurs_cons {p : Pattern} :
    p.Occurs before (c :: text) ↔ StartsOne [p] before (c :: text) ∨ p.Occurs (some c) text := by
  constructor
  · rintro ⟨skipped, part, rest, split, found⟩
    cases skipped with
    | nil => exact .inl ⟨p, .head _, part, rest, split, found⟩
    | cons d skipped =>
      obtain ⟨rfl, rfl⟩ := List.cons.inj split
      exact .inr ⟨skipped, part, rest, rfl, found⟩
  · rintro (⟨q, hq, front, more, split, found⟩ | ⟨skipped, part, rest, rfl, found⟩)
    · obtain rfl := List.mem_singleton.mp hq
      exact ⟨[], front, more, split, found⟩
    · exact ⟨c :: skipped, part, rest, rfl, found⟩

theorem startsOne_append {first second : List Pattern} :
    StartsOne (first ++ second) before text ↔
      StartsOne first before text ∨ StartsOne second before text := by
  simp only [StartsOne, List.mem_append, or_and_right, exists_or]

theorem searchFrom_iff {p : Pattern} (proper : p.IsProper) {left : List Pattern}
    (others : ∀ q ∈ left, q.IsProper) :
    p.searchFrom before left text = true ↔ StartsOne left before text ∨ p.Occurs before text := by
  induction text generalizing before left with
  | nil =>
    have all : ∀ q ∈ p :: left, q.IsProper := List.forall_mem_cons.mpr ⟨proper, others⟩
    have here : p.Occurs before [] ↔ StartsOne [p] before [] := by
      constructor
      · rintro ⟨skipped, part, rest, split, found⟩
        obtain ⟨front, rfl⟩ := List.append_eq_nil_iff.mp split.symm
        obtain ⟨rfl, rfl⟩ := List.append_eq_nil_iff.mp front
        exact ⟨p, .head _, [], [], rfl, found⟩
      · rintro ⟨q, hq, front, more, split, found⟩
        obtain rfl := List.mem_singleton.mp hq
        exact ⟨[], front, more, split, found⟩
    rw [searchFrom, ← startsOne_nil all, here, or_comm, ← startsOne_append]
    rfl
  | cons c text ih =>
    have all : ∀ q ∈ p :: left, q.IsProper := List.forall_mem_cons.mpr ⟨proper, others⟩
    have further : ∀ q ∈ distinct ((p :: left).flatMap (·.after before c)), q.IsProper := by
      intro q hq
      obtain ⟨first, hf, hq⟩ := List.mem_flatMap.mp (mem_distinct.mp hq)
      exact isProper_after (all first hf) q hq
    have same : StartsOne (distinct ((p :: left).flatMap (·.after before c))) (some c) text ↔
        StartsOne ((p :: left).flatMap (·.after before c)) (some c) text :=
      exists_congr fun q => and_congr_left fun _ => mem_distinct
    rw [searchFrom, Bool.or_eq_true, ih further, same, ← or_assoc, ← startsOne_cons all,
      occurs_cons, ← List.singleton_append, startsOne_append]
    tauto

/-- **A search finds a pattern just if some part of the line is a text of it.** -/
theorem occursIn_iff {p : Pattern} (proper : p.IsProper) {line : List Char} :
    p.occursIn line = true ↔ p.Occurs none line := by
  have nothing : ¬StartsOne [] none line := fun ⟨_, absent, _⟩ => nomatch absent
  rw [occursIn, searchFrom_iff proper (List.forall_mem_nil _)]
  exact or_iff_right nothing

/-! ## 5. Plain texts -/

/-- Patterns one after the other describe texts one after the other. -/
theorem matches_all_cons {p : Pattern} {more : List Pattern} :
    (all (p :: more)).Matches before text rest ↔ ∃ front left, text = front ++ left ∧
      p.Matches before front (left ++ rest) ∧
        (all more).Matches (lastOf before front) left rest := by
  cases more with
  | nil =>
    constructor
    · exact fun found => ⟨text, [], (List.append_nil text).symm, found, rfl⟩
    · rintro ⟨front, left, rfl, found, empty⟩
      obtain rfl : left = [] := empty
      rwa [List.append_nil]
  | cons second others => exact Iff.rfl

theorem contains_single {c d : Char} : (CharSet.single c).contains d = true ↔ d = c := by
  simp only [CharSet.single, CharSet.contains, Bool.and_eq_true, decide_eq_true_eq,
    ← Char.toNat_inj]
  omega

/-- The pattern of one text describes this text. -/
theorem matches_ofText {s : String} : (ofText s).Matches before text rest ↔ text = s.toList := by
  unfold ofText
  generalize s.toList = chars
  induction chars generalizing before text with
  | nil => exact Iff.rfl
  | cons c chars ih =>
    rw [List.map_cons, matches_all_cons]
    simp only [ih]
    constructor
    · rintro ⟨_, _, rfl, ⟨d, rfl, same⟩, rfl⟩
      obtain rfl := contains_single.mp same
      rfl
    · rintro rfl
      exact ⟨[c], chars, rfl, ⟨c, rfl, contains_single.mpr rfl⟩, rfl⟩

theorem occurs_ofText {s : String} : (ofText s).Occurs before text ↔ s.toList <:+: text := by
  constructor
  · rintro ⟨skipped, part, rest, rfl, found⟩
    obtain rfl := matches_ofText.mp found
    exact ⟨skipped, rest, rfl⟩
  · rintro ⟨skipped, rest, rfl⟩
    exact ⟨skipped, s.toList, rest, rfl, matches_ofText.mpr rfl⟩

theorem repeats_char_iff {set : CharSet} {k : Nat} :
    Repeats (Pattern.char set).Matches k before text rest ↔
      text.length = k ∧ ∀ c ∈ text, set.contains c = true := by
  induction k generalizing before text with
  | zero =>
    rw [List.length_eq_zero_iff]
    exact ⟨fun none => ⟨none, none ▸ List.forall_mem_nil _⟩, And.left⟩
  | succ k ih =>
    constructor
    · rintro ⟨_, more, rfl, ⟨c, rfl, within⟩, later⟩
      obtain ⟨count, others⟩ := ih.mp later
      exact ⟨congrArg (· + 1) count, List.forall_mem_cons.mpr ⟨within, others⟩⟩
    · rintro ⟨count, within⟩
      obtain ⟨c, more, rfl⟩ := List.exists_cons_of_length_eq_add_one count
      obtain ⟨here, others⟩ := List.forall_mem_cons.mp within
      exact ⟨[c], more, rfl, ⟨c, rfl, here⟩, ih.mpr ⟨Nat.succ.inj count, others⟩⟩

/-- A repetition of one character describes rows of characters of its set. -/
theorem matches_times_char {set : CharSet} {least : Nat} {most : Option Nat} :
    (times (.char set) least most).Matches before text rest ↔ least ≤ text.length ∧
      (∀ bound ∈ most, text.length ≤ bound) ∧ ∀ c ∈ text, set.contains c = true := by
  constructor
  · rintro ⟨k, enough, bounded, texts⟩
    obtain ⟨rfl, within⟩ := repeats_char_iff.mp texts
    exact ⟨enough, bounded, within⟩
  · rintro ⟨enough, bounded, within⟩
    exact ⟨_, enough, bounded, repeats_char_iff.mpr ⟨rfl, within⟩⟩

theorem occurs_alt {first second : Pattern} :
    (alt first second).Occurs before text ↔
      first.Occurs before text ∨ second.Occurs before text := by
  simp only [Occurs, Matches, and_or_left, exists_or]

end Pattern

end Covenant
