import Covenant.Proofs.Json.Spelling
/-!
# The grammar of JSON

* `Written phrase s`: the characters are written for a value, for the items of an array or for the
  members of an object. `IsJson raw s`: they are a JSON text that says `raw`. `Written.bareText`,
  `Written.lastBare` and `Written.nextBare` write texts and names without escapes or white space.
* `Reads phrase s`: where the phrase is wanted, the reader takes the characters for it.
  `reads_of_written`: it does so for all that the grammar gives.
* `read?_of_isJson`: every JSON text is read, as what it says.
-/

namespace Covenant.Json

/-! ## 1. The grammar -/

/-- What a row of characters may be: a value, the items of an array that has some, or the members of
an object that has some. -/
inductive Phrase where
  | value (raw : Raw)
  | items (raws : List Raw)
  | members (raws : List (Option String × Raw))

/-- The characters `t` are `s` with white space around it. -/
def Spaced (s t : List Char) : Prop :=
  ∃ before after, (∀ c ∈ before, isSpace c = true) ∧ (∀ c ∈ after, isSpace c = true) ∧
    t = before ++ s ++ after

theorem Spaced.refl (s : List Char) : Spaced s s := ⟨[], [], by simp, by simp, by simp⟩

/-- How phrases are written. -/
inductive Written : Phrase → List Char → Prop
  | null : Written (.value .null) ['n', 'u', 'l', 'l']
  | yes : Written (.value (.flag true)) ['t', 'r', 'u', 'e']
  | no : Written (.value (.flag false)) ['f', 'a', 'l', 's', 'e']
  | number {n : WrittenNumber} (h : n.Valid) : Written (.value (.number n.number)) n.text
  | text {glyphs : List Glyph} (h : ∀ glyph ∈ glyphs, glyph.Valid) :
      Written (.value (.text (textOf glyphs))) (quoted glyphs)
  | noItems {space : List Char} (h : Spaced [] space) :
      Written (.value (.items [])) ('[' :: space ++ [']'])
  | items {raws : List Raw} {s : List Char} (h : Written (.items raws) s) :
      Written (.value (.items raws)) ('[' :: s ++ [']'])
  | noMembers {space : List Char} (h : Spaced [] space) :
      Written (.value (.members [])) ('\x7b' :: space ++ ['\x7d'])
  | members {raws : List (Option String × Raw)} {s : List Char} (h : Written (.members raws) s) :
      Written (.value (.members raws)) ('\x7b' :: s ++ ['\x7d'])
  | lastItem {raw : Raw} {s t : List Char} (h : Written (.value raw) s) (spaced : Spaced s t) :
      Written (.items [raw]) t
  | item {raw : Raw} {raws : List Raw} {s t more : List Char} (h : Written (.value raw) s)
      (spaced : Spaced s t) (later : Written (.items raws) more) :
      Written (.items (raw :: raws)) (t ++ ',' :: more)
  | lastMember {glyphs : List Glyph} {raw : Raw} {key s t : List Char}
      (named : ∀ glyph ∈ glyphs, glyph.Valid) (name : Spaced (quoted glyphs) key)
      (h : Written (.value raw) s) (spaced : Spaced s t) :
      Written (.members [(textOf glyphs, raw)]) (key ++ ':' :: t)
  | member {glyphs : List Glyph} {raw : Raw} {raws : List (Option String × Raw)}
      {key s t more : List Char}
      (named : ∀ glyph ∈ glyphs, glyph.Valid) (name : Spaced (quoted glyphs) key)
      (h : Written (.value raw) s) (spaced : Spaced s t) (later : Written (.members raws) more) :
      Written (.members ((textOf glyphs, raw) :: raws)) (key ++ ':' :: (t ++ ',' :: more))

/-- The characters are a JSON text, and the tree is what it says. -/
def IsJson (raw : Raw) (t : List Char) : Prop := ∃ s, Written (.value raw) s ∧ Spaced s t

section

variable {text : String} {raw : Raw} {s : List Char}
  (bare : ∀ c ∈ text.toList, c ≠ '"' ∧ c ≠ '\\' ∧ 0x20 ≤ c.toNat)

include bare

theorem Written.bareText :
    Written (.value (.text (some text))) (quoted (text.toList.map .bare)) :=
  textOf_bare text ▸ .text (valid_bare bare)

theorem Written.lastBare (h : Written (.value raw) s) :
    Written (.members [(some text, raw)]) (quoted (text.toList.map .bare) ++ ':' :: s) :=
  textOf_bare text ▸ .lastMember (valid_bare bare) (.refl _) h (.refl _)

theorem Written.nextBare {raws : List (Option String × Raw)} {more : List Char}
    (h : Written (.value raw) s) (later : Written (.members raws) more) :
    Written (.members ((some text, raw) :: raws))
      (quoted (text.toList.map .bare) ++ ':' :: (s ++ ',' :: more)) :=
  textOf_bare text ▸ .member (valid_bare bare) (.refl _) h (.refl _) later

end

/-! ## 2. Reading -/

/-- What may stand behind a value. -/
def delimits (c : Char) : Bool := isSpace c || c == ',' || c == ']' || c == '\x7d'

/-- Where a phrase is wanted the reader takes the characters for it. -/
def Reads : Phrase → List Char → Prop
  | .value raw, s => ∀ (stack : List Frame) (closable : Bool) (c : Char) (rest : List Char),
      delimits c = true →
        run (.value stack closable) (s ++ c :: rest) = run (complete stack raw) (c :: rest)
  | .items raws, s => ∀ (done : List Raw) (stack : List Frame) (closable : Bool)
      (rest : List Char),
      run (.value (.items done :: stack) closable) (s ++ ']' :: rest) =
        run (complete stack (.items (done.reverse ++ raws))) rest
  | .members raws, s => ∀ (done : List (Option String × Raw)) (stack : List Frame)
      (closable : Bool) (rest : List Char),
      run (.key stack done closable) (s ++ '\x7d' :: rest) =
        run (complete stack (.members (done.reverse ++ raws))) rest

theorem skips_complete (stack : List Frame) (raw : Raw) (c : Char) (space : isSpace c = true) :
    step (complete stack raw) c = some (complete stack raw) := by
  rcases stack with _ | ⟨frame, outer⟩
  · exact if_pos space
  · cases frame <;> exact if_pos space

/-- What may stand behind a number does not continue it. -/
theorem stepNumber_of_delimits (phase : NumberPhase) (b : NumberBuffer) {c : Char}
    (ends : delimits c = true) : stepNumber phase b c = none := by
  simp only [delimits, isSpace, Bool.or_eq_true, beq_iff_eq] at ends
  rcases ends with (((((rfl | rfl) | rfl) | rfl) | rfl) | rfl) | rfl <;> cases phase <;> rfl

theorem reads_number {n : WrittenNumber} (h : n.Valid) :
    Reads (.value (.number n.number)) n.text := by
  intro stack closable c rest ends
  obtain ⟨phase, b, final, said, read⟩ := exists_run_number h stack closable
  have same : step (.number stack phase b) c = step (complete stack (.number n.number)) c := by
    simp only [step, stepNumber_of_delimits phase b ends, final, if_true, said]
    rcases stack with _ | ⟨frame, outer⟩
    · rfl
    · cases frame <;> rfl
  rw [read, run, same, ← run]

theorem reads_spaced {raw : Raw} {s t : List Char} (h : Reads (.value raw) s)
    (spaced : Spaced s t) : Reads (.value raw) t := by
  obtain ⟨before, after, front, back, rfl⟩ := spaced
  intro stack closable c rest ends
  have skips : ∀ d, isSpace d = true →
      step (.value stack closable) d = some (.value stack closable) := fun _ hd => if_pos hd
  rw [List.append_assoc, List.append_assoc, run_spaces skips front]
  cases after with
  | nil => exact h stack closable c rest ends
  | cons d more =>
    have space : delimits d = true := by simp [delimits, back d List.mem_cons_self]
    rw [List.cons_append, h stack closable d _ space, ← List.cons_append,
      run_spaces (skips_complete stack raw) back]

/-- A value that shows its own end may have anything behind it. -/
theorem reads_of_run {raw : Raw} {s : List Char}
    (h : ∀ stack closable rest,
      run (.value stack closable) (s ++ rest) = run (complete stack raw) rest) :
    Reads (.value raw) s :=
  fun stack closable c rest _ => h stack closable (c :: rest)

theorem isSpace_of_spaced {space : List Char} (h : Spaced [] space) :
    ∀ c ∈ space, isSpace c = true := by
  obtain ⟨before, after, front, back, rfl⟩ := h
  simpa using List.forall_mem_append.mpr ⟨front, back⟩

/-- An item, up to what stands behind it. -/
theorem run_spacedItem {raw : Raw} {s t : List Char} (h : Reads (.value raw) s)
    (spaced : Spaced s t) {c : Char} (ends : delimits c = true) (done : List Raw)
    (stack : List Frame) (closable : Bool) (rest : List Char) :
    run (.value (.items done :: stack) closable) (t ++ c :: rest) =
      run (.after (.items (raw :: done) :: stack)) (c :: rest) :=
  reads_spaced h spaced _ closable c rest ends

/-- The name of a member and the colon behind it. -/
theorem run_name {glyphs : List Glyph} (h : ∀ glyph ∈ glyphs, glyph.Valid) {key : List Char}
    (spaced : Spaced (quoted glyphs) key) (done : List (Option String × Raw)) (stack : List Frame)
    (closable : Bool) (rest : List Char) :
    run (.key stack done closable) (key ++ ':' :: rest) =
      run (.value (.members done (textOf glyphs) :: stack) false) rest := by
  obtain ⟨before, after, front, back, rfl⟩ := spaced
  have skips : ∀ c, isSpace c = true →
      step (.key stack done closable) c = some (.key stack done closable) := fun _ hc => if_pos hc
  have skips_colon : ∀ name c, isSpace c = true →
      step (.colon stack done name) c = some (.colon stack done name) := fun _ _ hc => if_pos hc
  obtain ⟨b, said, read⟩ := run_quotedGlyphs h (.key stack done closable) rfl
    (after ++ ':' :: rest)
  rw [List.append_assoc, List.append_assoc, run_spaces skips front, read, closeText, said,
    run_spaces (skips_colon _) back]
  exact run_cons rfl rest

/-- A member, up to what stands behind its value. -/
theorem run_namedMember {glyphs : List Glyph} (named : ∀ glyph ∈ glyphs, glyph.Valid)
    {key : List Char} (name : Spaced (quoted glyphs) key) {raw : Raw} {s t : List Char}
    (h : Reads (.value raw) s) (spaced : Spaced s t) {c : Char} (ends : delimits c = true)
    (done : List (Option String × Raw)) (stack : List Frame) (closable : Bool)
    (rest : List Char) :
    run (.key stack done closable) (key ++ ':' :: (t ++ c :: rest)) =
      run (.after (.members ((textOf glyphs, raw) :: done) none :: stack)) (c :: rest) := by
  rw [run_name named name]
  exact reads_spaced h spaced _ false c rest ends

/-- A literal is read letter by letter. -/
theorem run_literal (stack : List Frame) {letters : List Char} (filled : letters ≠ []) (raw : Raw)
    (rest : List Char) :
    run (.literal stack letters raw) (letters ++ rest) = run (complete stack raw) rest := by
  induction letters with
  | nil => exact absurd rfl filled
  | cons c more ih =>
    cases more with
    | nil => exact run_cons (by simp [step]) rest
    | cons d later => exact (run_cons (by simp [step]) _).trans (ih (List.cons_ne_nil _ _))

theorem reads_literal {c : Char} {letters : List Char} (filled : letters ≠ []) {raw : Raw}
    (opened : ∀ stack closable,
      step (.value stack closable) c = some (.literal stack letters raw)) :
    Reads (.value raw) (c :: letters) :=
  reads_of_run fun stack closable rest =>
    (run_cons (opened stack closable) _).trans (run_literal stack filled raw rest)

/-- What is between brackets is read behind the opening one. -/
theorem reads_array {raws : List Raw} {s : List Char}
    (h : ∀ stack rest, run (.value (.items [] :: stack) true) (s ++ ']' :: rest) =
      run (complete stack (.items raws)) rest) :
    Reads (.value (.items raws)) ('[' :: s ++ [']']) := by
  refine reads_of_run fun stack closable rest => ?_
  have opened : step (.value stack closable) '[' = some (.value (.items [] :: stack) true) :=
    step_value rfl (by decide)
  rw [List.cons_append, List.cons_append, run_cons opened, List.append_assoc,
    List.singleton_append, h]

/-- What is between braces is read behind the opening one. -/
theorem reads_object {raws : List (Option String × Raw)} {s : List Char}
    (h : ∀ stack rest, run (.key stack [] true) (s ++ '\x7d' :: rest) =
      run (complete stack (.members raws)) rest) :
    Reads (.value (.members raws)) ('\x7b' :: s ++ ['\x7d']) := by
  refine reads_of_run fun stack closable rest => ?_
  have opened : step (.value stack closable) '\x7b' = some (.key stack [] true) :=
    step_value rfl (by decide)
  rw [List.cons_append, List.cons_append, run_cons opened, List.append_assoc,
    List.singleton_append, h]

/-- **What the grammar gives is read**, phrase by phrase. -/
theorem reads_of_written {phrase : Phrase} {s : List Char} (h : Written phrase s) :
    Reads phrase s := by
  induction h with
  | null => exact reads_literal (by simp) fun _ _ => step_value rfl (by decide)
  | yes => exact reads_literal (by simp) fun _ _ => step_value rfl (by decide)
  | no => exact reads_literal (by simp) fun _ _ => step_value rfl (by decide)
  | number h => exact reads_number h
  | text h =>
    refine reads_of_run fun stack closable rest => ?_
    obtain ⟨b, said, read⟩ := run_quotedGlyphs h (.value stack closable)
      (step_value rfl (by decide)) rest
    rw [read, closeText, said]
  | noItems h =>
    refine reads_array fun stack rest => ?_
    have skips : ∀ c, isSpace c = true → step (.value (.items [] :: stack) true) c =
        some (.value (.items [] :: stack) true) := fun _ hc => if_pos hc
    rw [run_spaces skips (isSpace_of_spaced h)]
    exact run_cons rfl rest
  | items h ih => exact reads_array fun stack rest => ih [] stack true rest
  | noMembers h =>
    refine reads_object fun stack rest => ?_
    have skips : ∀ c, isSpace c = true →
        step (.key stack [] true) c = some (.key stack [] true) := fun _ hc => if_pos hc
    rw [run_spaces skips (isSpace_of_spaced h)]
    exact run_cons rfl rest
  | members h ih => exact reads_object fun stack rest => ih [] stack true rest
  | lastItem h spaced ih =>
    intro done stack closable rest
    rw [run_spacedItem ih spaced rfl, ← List.reverse_cons]
    exact run_cons rfl rest
  | @item raw raws s t more h spaced later ih ihl =>
    intro done stack closable rest
    have comma : step (.after (.items (raw :: done) :: stack)) ',' =
        some (.value (.items (raw :: done) :: stack) false) := rfl
    rw [List.append_assoc, List.cons_append, run_spacedItem ih spaced rfl, run_cons comma, ihl,
      List.reverse_cons, ← List.append_cons]
  | lastMember named name h spaced ih =>
    intro done stack closable rest
    rw [List.append_assoc, List.cons_append, run_namedMember named name ih spaced rfl,
      ← List.reverse_cons]
    exact run_cons rfl rest
  | @member glyphs raw raws key s t more named name h spaced later ih ihl =>
    intro done stack closable rest
    have comma : step (.after (.members ((textOf glyphs, raw) :: done) none :: stack)) ',' =
        some (.key stack ((textOf glyphs, raw) :: done) false) := rfl
    rw [List.append_assoc, List.cons_append, List.append_assoc, List.cons_append,
      run_namedMember named name ih spaced rfl, run_cons comma, ihl, List.reverse_cons,
      ← List.append_cons]

/-! ## 3. Whole texts -/

theorem run_append (state : State) (s t : List Char) :
    run state (s ++ t) = (run state s).bind (run · t) := by
  induction s generalizing state with
  | nil => rfl
  | cons c rest ih =>
    rw [List.cons_append, run, run]
    cases step state c with
    | none => rfl
    | some next => exact ih next

/-- A text has ended where white space of any kind ends it. -/
theorem value?_of_step {state : State} {raw : Raw}
    (h : ∀ c, isSpace c = true → step state c = some (.finished raw)) :
    state.value? = some raw := by
  have feed := h '\n' rfl
  cases state with
  | value stack closable => cases feed
  | key stack done closable => cases feed
  | colon stack done key => cases feed
  | after stack => cases feed
  | finished value => exact congrArg State.value? (Option.some.inj feed)
  | literal stack left value =>
    rcases left with _ | ⟨last, _ | ⟨next, more⟩⟩
    · cases feed
    · -- white space of two kinds cannot both be the last letter
      have letter : ∀ c, isSpace c = true → c = last := by
        intro c space
        by_contra other
        have none : step (.literal stack [last] value) c = none := if_neg (by simpa using other)
        rw [h c space] at none
        cases none
      exact absurd ((letter '\n' rfl).trans (letter ' ' rfl).symm) (by decide)
    · have goes_on : step (.literal stack (last :: next :: more) value) '\n' =
          if '\n' == last then some (.literal stack (next :: more) value) else none := rfl
      rw [goes_on] at feed
      split at feed <;> cases feed
  | number stack phase b =>
    have stops : stepNumber phase b '\n' = none := stepNumber_of_delimits phase b rfl
    cases final : phase.final with
    | false =>
      simp only [step, stops, final] at feed
      cases feed
    | true =>
      simp only [step, stops, final, if_true] at feed
      rcases stack with _ | ⟨frame, outer⟩
      · obtain rfl : .number (b.close phase) = raw := State.finished.inj (Option.some.inj feed)
        exact if_pos final
      · cases frame <;> cases feed
  | text stack role escape b =>
    cases escape <;> cases feed

/-- **Every JSON text is read as its tree.** -/
theorem read?_of_isJson {raw : Raw} {s : List Char} (h : IsJson raw s) : read? s = some raw := by
  obtain ⟨inner, written, spaced⟩ := h
  have read := reads_spaced (reads_of_written written) spaced [] false
  have ended : ∀ c, isSpace c = true →
      (run (.value [] false) s).bind (run · [c]) = some (.finished raw) := by
    intro c space
    rw [← run_append, read c [] (by simp [delimits, space])]
    simp [run, complete, step, space]
  obtain ⟨state, stopped, -⟩ := Option.bind_eq_some_iff.mp (ended ' ' rfl)
  rw [read?, stopped, Option.bind_some]
  refine value?_of_step fun c space => ?_
  have last := ended c space
  rw [stopped, Option.bind_some, run] at last
  split at last
  · rename_i next taken
    exact taken.trans last
  · cases last

end Covenant.Json
