import Covenant.Text.Blank
import Covenant.Text.Case
import Mathlib.Data.List.SplitLengths
/-!
# Upper case is final

Upper-casing makes visible characters of a visible one, and leaves them as they are.

* `Settled` is said of a character that is visible and its own upper-case form.
* `restlessRuns` are the code points of all others; `settled_of_not_covered`: there are no more.
* `settled_of_mem_upperOf`: what upper-casing makes of a visible character is settled. The tables
  are compared run by run, for a run is mapped to a row of code points at one distance from it.
-/

namespace Covenant.Text

/-! ## 1. Settled characters -/

/-- A character that is its own upper-case form, and no blank. -/
structure Settled (c : Char) : Prop where
  upper : upperOf c = [c]
  visible : isBlank c = false

instance (c : Char) : Decidable (Settled c) :=
  decidable_of_iff (_ ∧ _) ⟨fun h => ⟨h.1, h.2⟩, fun h => ⟨h.upper, h.visible⟩⟩

/-- A single code point as a run. -/
def ShiftRun.single (n : Nat) : ShiftRun := ⟨n, n, 1, 0⟩

theorem ShiftRun.covers_iff {run : ShiftRun} {n : Nat} :
    run.covers n = true ↔ (run.first ≤ n ∧ n ≤ run.last) ∧ (n - run.first) % run.step = 0 := by
  simp [covers]

theorem ShiftRun.covers_single {n m : Nat} : (single n).covers m = true ↔ m = n := by
  rw [covers_iff]
  simp only [single]
  omega

/-- The code points of the blanks. -/
def blankRuns : List ShiftRun := [⟨0x09, 0x0D, 1, 0⟩, .single 0x20, .single 0x85, .single 0xA0,
  .single 0x1680, ⟨0x2000, 0x200A, 1, 0⟩, .single 0x2028, .single 0x2029, .single 0x202F,
  .single 0x205F, .single 0x3000]

/-- The code points of the characters that are not settled. -/
def restlessRuns : List ShiftRun :=
  CaseTable.upperRuns ++ CaseTable.upperSpecial.map (fun entry => .single entry.1) ++ blankRuns

theorem not_isBlank_of_not_covered {c : Char}
    (h : ∀ run ∈ blankRuns, run.covers c.toNat = false) : isBlank c = false := by
  simp only [← Bool.not_eq_true, ShiftRun.covers_iff] at h
  simp only [blankRuns, ShiftRun.single, List.mem_cons, List.not_mem_nil, or_false, not_and,
    and_imp, forall_eq_or_imp, Nat.mod_one, not_true_eq_false, imp_false, Nat.not_le,
    forall_eq] at h
  rw [Bool.eq_false_iff]
  simp only [isBlank, ne_eq, Bool.or_eq_true, Bool.and_eq_true, decide_eq_true_eq, beq_iff_eq]
  omega

/-- The capitals and the other characters of ASCII that have no upper-case form. -/
theorem toUpper_of_not_small : ∀ n : Fin 128, ¬(97 ≤ n.val ∧ n.val ≤ 122) →
    (Char.ofNat n).toUpper = Char.ofNat n := by
  decide

/-- **What no such run covers is settled.** -/
theorem settled_of_not_covered {c : Char}
    (h : ∀ run ∈ restlessRuns, run.covers c.toNat = false) : Settled c := by
  simp only [restlessRuns, List.forall_mem_append] at h
  obtain ⟨⟨runs, special⟩, blank⟩ := h
  refine ⟨?_, not_isBlank_of_not_covered blank⟩
  unfold upperOf
  split
  · rename_i ascii
    have small : (⟨0x61, 0x7A, 1, -32⟩ : ShiftRun).covers c.toNat = false := runs _ (.head _)
    have other : ¬(97 ≤ c.toNat ∧ c.toNat ≤ 122) := by
      rintro ⟨low, high⟩
      simp [ShiftRun.covers, low, high, Nat.mod_one] at small
    have same := toUpper_of_not_small ⟨c.toNat, ascii⟩ other
    rw [Char.ofNat_toNat] at same
    rw [same]
  · have alone : CaseTable.upperSpecial.lookup c.toNat = none := by
      rw [List.lookup_eq_none_iff]
      intro entry there
      have missed := special _ (List.mem_map_of_mem there)
      rw [Bool.eq_false_iff, ne_eq, ShiftRun.covers_single] at missed
      simpa using missed
    have fixed : shiftBy? CaseTable.upperRuns c.toNat = none := by
      rw [shiftBy?, Option.map_eq_none_iff, List.find?_eq_none]
      exact fun run there => by simp [runs run there]
    rw [alone, fixed]
    rfl

/-! ## 2. The tables -/

/-- The run holds none of the code points from `lo` to `hi`, or, if they are `sparse`, of every
second one of them. -/
def ShiftRun.avoids (run : ShiftRun) (lo hi : Nat) (sparse : Bool) : Bool :=
  Nat.blt hi run.first || Nat.blt run.last lo ||
    (sparse && run.step == 2 && (lo + run.first) % 2 == 1)

theorem ShiftRun.not_covers_of_avoids {run : ShiftRun} {lo hi n : Nat} {sparse : Bool}
    (h : run.avoids lo hi sparse = true) (low : lo ≤ n) (high : n ≤ hi)
    (even : sparse = true → (n - lo) % 2 = 0) : run.covers n = false := by
  rw [Bool.eq_false_iff]
  intro covered
  obtain ⟨⟨first, last⟩, step⟩ := covers_iff.mp covered
  simp only [avoids, Bool.or_eq_true, Bool.and_eq_true, Nat.blt_eq, beq_iff_eq] at h
  rcases h with (above | below) | ⟨⟨every, two⟩, odd⟩
  · omega
  · omega
  · have even := even every
    rw [two] at step
    omega

/-- The code points between which some runs lie. -/
def spanOf (runs : List ShiftRun) : Nat × Nat :=
  (runs.foldr (fun run n => min run.first n) 0x110000, runs.foldr (fun run n => max run.last n) 0)

theorem within_spanOf {run : ShiftRun} {runs : List ShiftRun} (h : run ∈ runs) :
    (spanOf runs).1 ≤ run.first ∧ run.last ≤ (spanOf runs).2 := by
  induction runs with
  | nil => cases h
  | cons head rest ih =>
    simp only [spanOf, List.foldr_cons] at ih ⊢
    rcases List.mem_cons.mp h with rfl | later
    · omega
    · have := ih later
      omega

/-- The runs avoid the code points: as a whole, which is so of most rows of runs that lie side by
side, or one by one. -/
def avoidedBy (runs : List ShiftRun) (lo hi : Nat) (sparse : Bool) : Bool :=
  Nat.blt hi (spanOf runs).1 || Nat.blt (spanOf runs).2 lo || runs.all (·.avoids lo hi sparse)

theorem avoids_of_avoidedBy {runs : List ShiftRun} {lo hi : Nat} {sparse : Bool}
    (h : avoidedBy runs lo hi sparse = true) {run : ShiftRun} (there : run ∈ runs) :
    run.avoids lo hi sparse = true := by
  obtain ⟨first, last⟩ := within_spanOf there
  simp only [avoidedBy, Bool.or_eq_true, Nat.blt_eq] at h
  rcases h with (above | below) | each
  · simp [ShiftRun.avoids, Nat.blt_eq, Nat.lt_of_lt_of_le above first]
  · simp [ShiftRun.avoids, Nat.blt_eq, Nat.lt_of_le_of_lt last below]
  · exact List.all_eq_true.mp each run there

/-- The restless runs in rows of sixteen. -/
def restlessRows : List (List ShiftRun) := (List.replicate 20 16).splitLengths restlessRuns

theorem flatten_restlessRows : restlessRows.flatten = restlessRuns :=
  List.flatten_splitLengths _ _ (by decide +kernel)

/-- The code points to which a run maps are those of characters, and restless runs avoid them. -/
def ShiftRun.landsAt (lo hi : Nat) (sparse : Bool) : Bool :=
  (Nat.blt hi 0xD800 || (Nat.blt 0xDFFF lo && Nat.blt hi 0x110000)) &&
    restlessRows.all (avoidedBy · lo hi sparse)

/-- A run maps to settled characters. -/
def ShiftRun.lands (run : ShiftRun) : Bool :=
  match run.first + run.shift, run.last + run.shift with
  | .ofNat lo, .ofNat hi => landsAt lo hi (run.step == 2 || lo == hi)
  | _, _ => false

theorem settled_of_landsAt {lo hi n : Nat} {sparse : Bool}
    (h : ShiftRun.landsAt lo hi sparse = true) (low : lo ≤ n) (high : n ≤ hi)
    (even : sparse = true → (n - lo) % 2 = 0) : Settled (Char.ofNat n) := by
  obtain ⟨valid, avoided⟩ := Bool.and_eq_true_iff.mp h
  have is_char : n.isValidChar := by
    simp only [Bool.or_eq_true, Bool.and_eq_true, Nat.blt_eq] at valid
    unfold Nat.isValidChar
    omega
  have code : (Char.ofNat n).toNat = n := by
    rw [Char.ofNat, dif_pos is_char]
    rfl
  refine settled_of_not_covered fun run there => ?_
  rw [← flatten_restlessRows] at there
  obtain ⟨row, listed, within⟩ := List.mem_flatten.mp there
  have away := avoids_of_avoidedBy (List.all_eq_true.mp avoided row listed) within
  rw [code]
  exact ShiftRun.not_covers_of_avoids away low high even

/-- A run that lands maps each of its code points to a settled character. -/
theorem settled_of_lands {run : ShiftRun} (h : run.lands = true) {n : Nat}
    (covered : run.covers n = true) : Settled (Char.ofNat ((n : Int) + run.shift).toNat) := by
  obtain ⟨⟨first, last⟩, step⟩ := ShiftRun.covers_iff.mp covered
  unfold ShiftRun.lands at h
  split at h
  · rename_i lo hi begins ends
    simp only [Int.ofNat_eq_natCast] at begins ends
    refine settled_of_landsAt h (by omega) (by omega) fun sparse => ?_
    rcases Bool.or_eq_true_iff.mp sparse with two | single
    · rw [eq_of_beq two] at step
      omega
    · have same := eq_of_beq single
      omega
  · cases h

/-- **No upper-case form is moved again.** -/
theorem upperRuns_land : ∀ run ∈ CaseTable.upperRuns, run.lands = true := by
  rw [← List.all_eq_true]
  decide +kernel

theorem upperSpecial_land :
    ∀ entry ∈ CaseTable.upperSpecial, ∀ n ∈ entry.2, ShiftRun.landsAt n n true = true := by
  decide +kernel

theorem mem_upperSpecial {n : Nat} {points : List Nat}
    (h : CaseTable.upperSpecial.lookup n = some points) : (n, points) ∈ CaseTable.upperSpecial := by
  obtain ⟨before, after, split, _⟩ := List.lookup_eq_some_iff.mp h
  rw [split]
  simp

/-- No character is lost by upper-casing. -/
theorem upperOf_ne_nil (c : Char) : upperOf c ≠ [] := by
  have filled : ∀ entry ∈ CaseTable.upperSpecial, entry.2 ≠ [] := by decide
  unfold upperOf
  split
  · exact List.cons_ne_nil _ _
  · split
    · rename_i points special
      simpa using filled _ (mem_upperSpecial special)
    · exact List.cons_ne_nil _ _

/-- **Upper-casing makes settled characters of a visible one.** -/
theorem settled_of_mem_upperOf {c u : Char} (visible : isBlank c = false) (h : u ∈ upperOf c) :
    Settled u := by
  have ascii : ∀ n : Fin 128, isBlank (Char.ofNat n) = false →
      Settled (Char.ofNat n).toUpper := by decide
  by_cases small : c.toNat < 0x80
  · rw [upperOf, if_pos small, List.mem_singleton] at h
    have settled := ascii ⟨c.toNat, small⟩
    rw [Char.ofNat_toNat] at settled
    exact h ▸ settled visible
  · rw [upperOf, if_neg small] at h
    cases special : CaseTable.upperSpecial.lookup c.toNat with
    | some points =>
      rw [special] at h
      obtain ⟨n, hn, rfl⟩ := List.mem_map.mp h
      have lands := upperSpecial_land _ (mem_upperSpecial special) n hn
      exact settled_of_landsAt lands (Nat.le_refl n) (Nat.le_refl n) fun _ => by simp
    | none =>
      rw [special] at h
      cases found : CaseTable.upperRuns.find? (·.covers c.toNat) with
      | some run =>
        simp only [shiftBy?, found, Option.map_some, Option.getD_some, List.mem_singleton] at h
        have lands := upperRuns_land run (List.mem_of_find?_eq_some found)
        have covered := List.find?_some found
        exact h ▸ settled_of_lands lands covered
      | none =>
        simp only [shiftBy?, found, Option.map_none, Option.getD_none, List.mem_singleton] at h
        refine h ▸ ⟨?_, visible⟩
        simp [upperOf, small, special, shiftBy?, found]

end Covenant.Text
