import Covenant.Text.Split
/-!
# Pieces of a text

`splitWhere` is the splitting of the library: what is known of `List.splitOnP` holds of it.
-/

namespace Covenant.Text

theorem splitWhereFrom_eq (p : Char → Bool) (done : List (List Char)) (piece s : List Char) :
    splitWhereFrom p done piece s = done.reverse ++ s.splitOnPPrepend p piece := by
  induction s generalizing done piece with
  | nil => simp [splitWhereFrom]
  | cons c r ih =>
    by_cases h : p c = true
    · simp [splitWhereFrom, h, ih, List.splitOnPPrepend_cons_pos]
    · simp [splitWhereFrom, h, ih, List.splitOnPPrepend_cons_neg]

theorem splitWhere_eq (p : Char → Bool) (s : List Char) : splitWhere p s = s.splitOnP p := by
  simp [splitWhere, splitWhereFrom_eq]

/-- The pieces of a text with one more character in front. -/
theorem splitWhere_cons {p : Char → Bool} {c : Char} {rest head : List Char}
    {tail : List (List Char)} (split : splitWhere p rest = head :: tail) :
    splitWhere p (c :: rest) =
      if p c = true then [] :: head :: tail else (c :: head) :: tail := by
  rw [splitWhere_eq] at split ⊢
  rw [List.splitOnP_cons_eq_if_modifyHead, split]
  rfl

theorem exists_splitWhere (p : Char → Bool) (s : List Char) :
    ∃ head tail, splitWhere p s = head :: tail := by
  rw [splitWhere_eq]
  exact List.exists_cons_of_ne_nil (List.splitOnP_ne_nil p s)

/-- What is in a piece is in the text, and the text is not cut there. -/
theorem mem_of_mem_splitWhere {p : Char → Bool} {s piece : List Char} (h : piece ∈ splitWhere p s)
    {c : Char} (hc : c ∈ piece) : c ∈ s ∧ p c = false := by
  induction s generalizing piece with
  | nil =>
    obtain rfl : piece = [] := by simpa [splitWhere_eq] using h
    cases hc
  | cons first rest ih =>
    obtain ⟨head, tail, split⟩ := exists_splitWhere p rest
    rw [splitWhere_cons split] at h
    rw [split] at ih
    have later : ∀ {piece}, piece ∈ head :: tail → c ∈ piece → c ∈ first :: rest ∧ p c = false :=
      fun hp hc => (ih hp hc).imp_left (List.mem_cons_of_mem first)
    by_cases hp : p first = true
    · rw [if_pos hp] at h
      rcases List.mem_cons.mp h with rfl | h
      · cases hc
      · exact later h hc
    · rw [if_neg hp] at h
      rcases List.mem_cons.mp h with rfl | h
      · rcases List.mem_cons.mp hc with rfl | hc
        · exact ⟨List.mem_cons_self, by simpa using hp⟩
        · exact later List.mem_cons_self hc
      · exact later (List.mem_cons_of_mem _ h) hc

/-- No piece holds a character at which the text is cut. -/
theorem not_of_mem_splitWhere {p : Char → Bool} {s piece : List Char} (h : piece ∈ splitWhere p s)
    {c : Char} (hc : c ∈ piece) : p c = false :=
  (mem_of_mem_splitWhere h hc).2

/-- A text cut at one place more. -/
theorem splitWhere_append {p : Char → Bool} {c : Char} (h : p c = true) (s t : List Char) :
    splitWhere p (s ++ c :: t) = splitWhere p s ++ splitWhere p t := by
  simp only [splitWhere_eq]
  exact List.splitOnP_append_cons s t h

/-- Pieces with such a character between them are cut there, and within themselves. -/
theorem splitWhere_intercalate {p : Char → Bool} {c : Char} (h : p c = true)
    {pieces : List (List Char)} (filled : pieces ≠ []) :
    splitWhere p ([c].intercalate pieces) = pieces.flatMap (splitWhere p) := by
  induction pieces with
  | nil => exact absurd rfl filled
  | cons first rest ih =>
    cases rest with
    | nil => simp
    | cons second more =>
      have joined : [c].intercalate (first :: second :: more) =
          first ++ c :: [c].intercalate (second :: more) := by
        simp [List.intercalate_cons_cons]
      rw [joined, splitWhere_append h, ih (List.cons_ne_nil _ _)]
      rfl

/-- A text without such a character is one piece. -/
theorem splitWhere_eq_singleton {p : Char → Bool} {s : List Char} (h : ∀ c ∈ s, p c = false) :
    splitWhere p s = [s] := by
  rw [splitWhere_eq]
  exact List.splitOnP_eq_singleton h

theorem splitAtChar_append (ch : Char) (s t : List Char) :
    splitAtChar ch (s ++ ch :: t) = splitAtChar ch s ++ splitAtChar ch t :=
  splitWhere_append (by simp) s t

theorem splitAtChar_eq_singleton {ch : Char} {s : List Char} (h : ch ∉ s) :
    splitAtChar ch s = [s] :=
  splitWhere_eq_singleton fun c hc => by simpa using fun e : c = ch => h (e ▸ hc)

theorem splitAtChar_ne_nil (ch : Char) (s : List Char) : splitAtChar ch s ≠ [] := by
  simp only [splitAtChar, splitWhere_eq]
  exact List.splitOnP_ne_nil _ s

/-- The first piece goes up to the first cut. -/
theorem exists_splitAtChar_eq_cons (ch : Char) (s : List Char) :
    ∃ more, splitAtChar ch s = s.takeWhile (· != ch) :: more := by
  have first : ch ∉ s.takeWhile (· != ch) := fun h => by
    simpa using List.all_eq_true.mp List.all_takeWhile _ h
  have whole : s.takeWhile (· != ch) ++ s.dropWhile (· != ch) = s := List.takeWhile_append_dropWhile
  rcases rest : s.dropWhile (· != ch) with _ | ⟨c, after⟩
  · rw [rest, List.append_nil] at whole
    rw [whole] at first ⊢
    exact ⟨[], splitAtChar_eq_singleton first⟩
  · have cut : c = ch := by
      have head := List.head?_dropWhile_not (· != ch) s
      simpa [rest] using head
    subst cut
    have split := splitAtChar_append c (s.takeWhile (· != c)) after
    rw [← rest, whole, splitAtChar_eq_singleton first] at split
    exact ⟨_, split⟩

/-- Only of the empty text is an empty piece the only one. -/
theorem eq_nil_of_splitAtChar {ch : Char} {s : List Char} (h : splitAtChar ch s = [[]]) :
    s = [] := by
  cases s with
  | nil => rfl
  | cons c r =>
    obtain ⟨head, tail, split⟩ := exists_splitWhere (· == ch) r
    rw [splitAtChar, splitWhere_cons split] at h
    by_cases hc : c = ch <;> simp [hc] at h

/-- What comes after a text belongs to its last piece, unless the text is cut there. -/
theorem exists_last_piece (ch : Char) (s : List Char) : ∃ inner last,
    splitAtChar ch s = inner ++ [last] ∧
      ∀ back, ch ∉ back → splitAtChar ch (s ++ back) = inner ++ [last ++ back] := by
  by_cases there : ch ∈ s
  · -- the last place at which the text is cut
    obtain ⟨after, before, cut, alone⟩ :=
      List.eq_append_cons_of_mem (List.mem_reverse.mpr there)
    have whole : s = before.reverse ++ ch :: after.reverse := by
      rw [← List.reverse_reverse s, cut]
      simp
    have plain : ch ∉ after.reverse := fun h => alone (List.mem_reverse.mp h)
    refine ⟨splitAtChar ch before.reverse, after.reverse, ?_, fun back none => ?_⟩
    · rw [whole, splitAtChar_append, splitAtChar_eq_singleton plain]
    · have last : ch ∉ after.reverse ++ back := by simp [alone, none]
      rw [whole, List.append_assoc, List.cons_append, splitAtChar_append,
        splitAtChar_eq_singleton last]
  · refine ⟨[], s, splitAtChar_eq_singleton there, fun back none => ?_⟩
    exact splitAtChar_eq_singleton (by simp [there, none])

/-- **What is around a text belongs to its first and to its last piece**, and the pieces between
them stay as they are. -/
theorem exists_pieces {ch : Char} {s : List Char} (there : ch ∈ s) : ∃ first inner last,
    splitAtChar ch s = first :: (inner ++ [last]) ∧
      ∀ front back, ch ∉ front → ch ∉ back →
        splitAtChar ch (front ++ s ++ back) = (front ++ first) :: (inner ++ [last ++ back]) := by
  obtain ⟨first, rest, rfl, alone⟩ := List.eq_append_cons_of_mem there
  obtain ⟨inner, last, split, around⟩ := exists_last_piece ch rest
  refine ⟨first, inner, last, ?_, fun front back none_front none_back => ?_⟩
  · rw [splitAtChar_append, splitAtChar_eq_singleton alone, split]
    rfl
  · have begins : ch ∉ front ++ first := by simp [none_front, alone]
    have whole : front ++ (first ++ ch :: rest) ++ back =
        (front ++ first) ++ ch :: (rest ++ back) := by simp
    rw [whole, splitAtChar_append, splitAtChar_eq_singleton begins, around back none_back]
    rfl

/-- What is in pieces with a character between them is this character or in a piece. -/
theorem mem_intercalate {c sep : Char} {pieces : List (List Char)}
    (h : c ∈ [sep].intercalate pieces) : c = sep ∨ ∃ piece ∈ pieces, c ∈ piece := by
  induction pieces with
  | nil => cases h
  | cons first rest ih =>
    cases rest with
    | nil => exact .inr ⟨first, .head _, by simpa using h⟩
    | cons second more =>
      rw [List.intercalate_cons_cons] at h
      rcases List.mem_append.mp h with h | later
      · rcases List.mem_append.mp h with here | between
        · exact .inr ⟨first, .head _, here⟩
        · exact .inl (List.mem_singleton.mp between)
      · exact (ih later).imp id fun ⟨piece, hp, hc⟩ => ⟨piece, .tail _ hp, hc⟩

/-- Joining pieces is the joining of the library. -/
theorem joinWith_eq_intercalate (sep : List Char) (pieces : List (List Char)) :
    joinWith sep pieces = sep.intercalate pieces := by
  fun_induction joinWith sep pieces with
  | case1 => rfl
  | case2 piece => simp
  | case3 piece rest filled ih =>
    obtain ⟨next, more, rfl⟩ := List.exists_cons_of_ne_nil (by simpa using filled)
    rw [ih, List.intercalate_cons_cons]

/-- What is in joined pieces is in what joins them or in a piece. -/
theorem mem_joinWith {sep : List Char} {pieces : List (List Char)} {c : Char}
    (h : c ∈ joinWith sep pieces) : c ∈ sep ∨ ∃ piece ∈ pieces, c ∈ piece := by
  fun_induction joinWith sep pieces with
  | case1 => cases h
  | case2 piece => exact .inr ⟨piece, List.mem_cons_self, h⟩
  | case3 piece rest _ ih =>
    rcases List.mem_append.mp h with h | later
    · rcases List.mem_append.mp h with here | between
      · exact .inr ⟨piece, List.mem_cons_self, here⟩
      · exact .inl between
    · exact (ih later).imp id fun ⟨p, hp, hc⟩ => ⟨p, List.mem_cons_of_mem _ hp, hc⟩

/-- What is in a piece is in the joined pieces. -/
theorem mem_joinWith_of_mem {sep : List Char} {pieces : List (List Char)} {piece : List Char}
    (h : piece ∈ pieces) {c : Char} (hc : c ∈ piece) : c ∈ joinWith sep pieces := by
  fun_induction joinWith sep pieces with
  | case1 => cases h
  | case2 first =>
    obtain rfl := List.mem_singleton.mp h
    exact hc
  | case3 first rest _ ih =>
    rcases List.mem_cons.mp h with rfl | later
    · exact List.mem_append_left _ (List.mem_append_left _ hc)
    · exact List.mem_append_right _ (ih later)

/-- Joined pieces without some characters are the pieces without them, joined. -/
theorem filter_joinWith (p : Char → Bool) (sep : List Char) (pieces : List (List Char)) :
    (joinWith sep pieces).filter p = joinWith (sep.filter p) (pieces.map (·.filter p)) := by
  fun_induction joinWith sep pieces with
  | case1 => rfl
  | case2 piece => rfl
  | case3 piece rest filled ih =>
    obtain ⟨next, more, rfl⟩ := List.exists_cons_of_ne_nil (by simpa using filled)
    rw [List.filter_append, List.filter_append, ih]
    rfl

end Covenant.Text
