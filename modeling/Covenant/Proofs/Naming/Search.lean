import Covenant.Proofs.Naming.Identifier
/-!
# The search for a free name

Of a name that is taken, the name with 2, with 3 and so on is tried, until one of them is free. Here
this is read as a search without a bound, and what bounds it is the size of the scope.

* `Finds`: a search that comes to an end, and after how many candidates; `Finds.unique`: it ends in
  one way at most.
* `Finds.earlier`: all candidates but the last are taken; `Finds.le_card`: so there is at most one more
  of them than there are names in the scope.
* `exists_finds`: the search comes to an end with the name that is claimed.
* `claimEach_scope` and `claimEach_nodup`: what is claimed in a scope one after the other.
-/

namespace Covenant.Naming

variable {taken : Scope} {name tried found : String} {k n : Nat}

/-! ## 1. Searches -/

/-- **A search that comes to an end.** It tries `tried`, and while what it tries is taken, `name`
with the next number, the first of them `k`; it ends with `found` after `n` candidates. -/
inductive Finds (taken : Scope) (name : String) : String → Nat → Nat → String → Prop
  | free {tried : String} {k : Nat} : tried ∉ taken → Finds taken name tried k 1 tried
  | next {tried found : String} {k n : Nat} : tried ∈ taken →
      Finds taken name (name ++ toString k) (k + 1) n found → Finds taken name tried k (n + 1) found

/-- A search ends in one way at most. -/
theorem Finds.unique {m : Nat} {other : String} (h : Finds taken name tried k n found)
    (g : Finds taken name tried k m other) : m = n ∧ other = found := by
  induction h generalizing m with
  | free is_free =>
    cases g with
    | free _ => exact ⟨rfl, rfl⟩
    | next gone _ => exact absurd gone is_free
  | next gone _ ih =>
    cases g with
    | free is_free => exact absurd gone is_free
    | next _ later =>
      obtain ⟨rfl, rfl⟩ := ih later
      exact ⟨rfl, rfl⟩

/-- **All candidates before the last are taken.** -/
theorem Finds.earlier {i : Nat} (h : Finds taken name tried k n found)
    (candidates : tried = candidate name i) (number : k = i + 2) :
    ∃ before, n = before + 1 ∧ ∀ j < before, candidate name (i + j) ∈ taken := by
  -- the number that comes next tells which of the candidates is tried
  induction h generalizing i with
  | free _ => exact ⟨0, rfl, fun j early => absurd early (Nat.not_lt_zero j)⟩
  | next gone _ ih =>
    subst candidates number
    obtain ⟨before, rfl, all⟩ := ih (i := i + 1) rfl rfl
    refine ⟨before + 1, rfl, fun j early => ?_⟩
    cases j with
    | zero => exact gone
    | succ j =>
      have later := all j (Nat.lt_of_succ_lt_succ early)
      rwa [show i + 1 + j = i + (j + 1) by omega] at later

/-- **A search is bounded by its scope**: it ends after one more candidate than there are names in
the scope, or before. -/
theorem Finds.le_card (h : Finds taken name name 2 n found) : n ≤ taken.toFinset.card + 1 := by
  obtain ⟨before, rfl, all⟩ := h.earlier (i := 0) rfl rfl
  have gone : ∀ j < before, candidate name j ∈ taken := fun j early => by
    simpa only [Nat.zero_add] using all j early
  exact Nat.succ_le_succ (le_card_of_taken gone)

theorem exists_finds_from {fuel : Nat} (h : firstFreeFrom taken name fuel k ∉ taken) :
    ∃ n, Finds taken name (name ++ toString k) (k + 1) n (firstFreeFrom taken name fuel k) := by
  induction fuel generalizing k with
  | zero => exact ⟨1, .free h⟩
  | succ fuel ih =>
    rw [firstFreeFrom] at h ⊢
    split
    · rename_i gone
      rw [if_pos gone] at h
      obtain ⟨n, later⟩ := ih h
      exact ⟨n + 1, .next (by simpa using gone) later⟩
    · rename_i free
      exact ⟨1, .free (by simpa using free)⟩

/-- **The search comes to an end**, with what is found among so many candidates. -/
theorem exists_finds (taken : Scope) (name : String) :
    ∃ n, Finds taken name name 2 n (firstFree taken name) := by
  have fresh := firstFree_notMem taken name
  unfold firstFree at fresh ⊢
  split
  · rename_i gone
    rw [if_pos gone] at fresh
    obtain ⟨n, later⟩ := exists_finds_from fresh
    exact ⟨n + 1, .next (by simpa using gone) later⟩
  · rename_i free
    exact ⟨1, .free (by simpa using free)⟩

/-! ## 2. Names claimed one after the other -/

/-- What is asked of a scope. -/
structure Request where
  reserved : List String
  fallback : String
  converted : String
deriving Repr, DecidableEq

namespace Request

/-- The name that is looked for. -/
def spelled (request : Request) : String :=
  spell request.reserved request.fallback request.converted

/-- The identifier for a request, and the scope that holds it. -/
def claim (request : Request) (taken : Scope) : String × Scope :=
  Naming.claim request.reserved request.fallback request.converted taken

end Request

/-- The identifiers for requests that are made one after the other, and the scope that holds them. -/
def claimEach : List Request → Scope → List String × Scope
  | [], taken => ([], taken)
  | request :: rest, taken =>
    let (name, taken) := request.claim taken
    let (names, taken) := claimEach rest taken
    (name :: names, taken)

theorem claimEach_cons (request : Request) (rest : List Request) (taken : Scope) :
    claimEach (request :: rest) taken =
      ((request.claim taken).1 :: (claimEach rest (request.claim taken).2).1,
        (claimEach rest (request.claim taken).2).2) := rfl

/-- A scope gains what is claimed in it and nothing else. -/
theorem claimEach_scope (requests : List Request) (taken : Scope) :
    (claimEach requests taken).2 = (claimEach requests taken).1.reverse ++ taken := by
  induction requests generalizing taken with
  | nil => rfl
  | cons request rest ih =>
    have grows : (request.claim taken).2 = (request.claim taken).1 :: taken := rfl
    rw [claimEach_cons, ih, grows]
    simp

/-- What is claimed was free at first. -/
theorem claimEach_fresh (requests : List Request) (taken : Scope) :
    ∀ name ∈ (claimEach requests taken).1, name ∉ taken := by
  induction requests generalizing taken with
  | nil => exact fun _ none => nomatch none
  | cons request rest ih =>
    rw [claimEach_cons, List.forall_mem_cons]
    refine ⟨claim_fresh _ _ _ taken, fun name later there => ?_⟩
    exact ih (request.claim taken).2 name later (List.mem_cons_of_mem _ there)

/-- **Names that are claimed in one scope differ.** -/
theorem claimEach_nodup (requests : List Request) (taken : Scope) :
    (claimEach requests taken).1.Nodup := by
  induction requests generalizing taken with
  | nil => exact List.nodup_nil
  | cons request rest ih =>
    rw [claimEach_cons, List.nodup_cons]
    refine ⟨fun again => ?_, ih _⟩
    have fresh := claimEach_fresh rest (request.claim taken).2 _ again
    exact fresh List.mem_cons_self

/-- **Every request is answered, and with a new name.** The search for a free name comes to an end
after at most one more candidate than there are names in the scope, and in no other way; the scope
gains what was found, which was not in it and begins with no digit. So all names that are claimed in
one scope, however many, are new and differ. -/
theorem claim_ends_fresh (request : Request) (filled : request.fallback ≠ "") (taken : Scope) :
    (∃ tries ≤ taken.toFinset.card + 1, ∀ n found,
        Finds taken request.spelled request.spelled 2 n found ↔
          n = tries ∧ found = (request.claim taken).1) ∧
      (request.claim taken).1 ∉ taken ∧
      (request.claim taken).2 = (request.claim taken).1 :: taken ∧
      Headed (request.claim taken).1 ∧
      ∀ requests : List Request, (claimEach requests taken).1.Nodup ∧
        (∀ name ∈ (claimEach requests taken).1, name ∉ taken) ∧
        (claimEach requests taken).2 = (claimEach requests taken).1.reverse ++ taken := by
  obtain ⟨tries, search⟩ := exists_finds taken request.spelled
  refine ⟨⟨tries, search.le_card, fun n found => ⟨search.unique, ?_⟩⟩, claim_fresh _ _ _ taken, rfl,
    headed_claim filled _ taken, fun requests => ⟨claimEach_nodup requests taken,
      claimEach_fresh requests taken, claimEach_scope requests taken⟩⟩
  rintro ⟨rfl, rfl⟩
  exact search

/-- A reserved word with two names taken before it. -/
theorem class_claimed :
    let request : Request := ⟨["class"], "arg", "class"⟩
    let taken : Scope := ["class_2", "class_"]
    request.fallback ≠ "" ∧ (request.claim taken).1 = "class_3" ∧
      ∃ tries ≤ 3, Finds taken "class_" "class_" 2 tries "class_3" := by
  have found : (Request.claim ⟨["class"], "arg", "class"⟩ ["class_2", "class_"]).1 = "class_3" := by
    decide +kernel
  have spelled : Request.spelled ⟨["class"], "arg", "class"⟩ = "class_" := by decide +kernel
  have size : (["class_2", "class_"] : Scope).toFinset.card = 2 := by decide
  obtain ⟨⟨tries, few, search⟩, -⟩ :=
    claim_ends_fresh ⟨["class"], "arg", "class"⟩ (by decide) ["class_2", "class_"]
  rw [size] at few
  have ends := (search tries _).mpr ⟨rfl, found.symm⟩
  rw [spelled] at ends
  exact ⟨by decide, found, tries, few, ends⟩

end Covenant.Naming
