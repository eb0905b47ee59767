import Covenant.Proofs.Json.Pretty
/-!
# Numbers and texts of JSON as they are written

* `WrittenNumber`: a number in parts. `exists_run_number`: the reader takes it up to its end, and
  then holds what the parts say.
* `Glyph`: a character of a text as it is written. `spelled` are the characters that glyphs stand
  for, if no half of a surrogate pair stands alone, and `run_quotedGlyphs`: this is what the reader
  holds at the end of a text.
-/

namespace Covenant.Json

open Covenant.Decimal

/-! ## 1. Numbers -/

/-- A row of digits with at least one. -/
structure AllDigits (s : List Char) : Prop where
  filled : s ≠ []
  digits : ∀ c ∈ s, c.isDigit = true

/-- An exponent in parts. -/
structure WrittenExponent where
  mark : Char
  sign : Option Char
  digits : List Char

/-- An exponent that a number may have. -/
structure WrittenExponent.Valid (e : WrittenExponent) : Prop where
  mark : e.mark = 'e' ∨ e.mark = 'E'
  sign : ∀ c ∈ e.sign, c = '+' ∨ c = '-'
  digits : AllDigits e.digits

/-- The exponent as it is written. -/
def WrittenExponent.text (e : WrittenExponent) : List Char := e.mark :: (e.sign.toList ++ e.digits)

/-- The power of ten that an exponent says. -/
def WrittenExponent.power (e : WrittenExponent) : Int :=
  if e.sign = some '-' then -(readDigits e.digits : Int) else readDigits e.digits

/-- A number in parts. -/
structure WrittenNumber where
  negative : Bool
  whole : List Char
  fraction : Option (List Char)
  exponent : Option WrittenExponent

/-- A number of JSON: no zero stands in front of another digit. -/
structure WrittenNumber.Valid (n : WrittenNumber) : Prop where
  whole : AllDigits n.whole
  no_zero : n.whole.head? = some '0' → n.whole = ['0']
  fraction : ∀ digits ∈ n.fraction, AllDigits digits
  exponent : ∀ e ∈ n.exponent, e.Valid

/-- The number as it is written. -/
def WrittenNumber.text (n : WrittenNumber) : List Char :=
  (if n.negative then ['-'] else []) ++ n.whole ++ n.fraction.elim [] ('.' :: ·) ++
    n.exponent.elim [] (·.text)

/-- What the number says: it is whole if it has neither fraction nor exponent. -/
def WrittenNumber.number (n : WrittenNumber) : RawNumber :=
  let places := n.fraction.getD []
  let numeral : Numeral :=
    ⟨n.negative, n.whole ++ places, n.exponent.elim 0 (·.power) - places.length⟩
  if n.fraction.isNone && n.exponent.isNone then .whole numeral else .real numeral

/-- The buffer after more digits in front of the exponent. -/
def NumberBuffer.addDigits (b : NumberBuffer) (digits : List Char) : NumberBuffer :=
  { b with digits := digits.reverse ++ b.digits }

/-- The buffer after more digits behind the point. -/
def NumberBuffer.addPlaces (b : NumberBuffer) (digits : List Char) : NumberBuffer :=
  { b with digits := digits.reverse ++ b.digits, places := b.places + digits.length }

/-- The buffer after more digits of the exponent. -/
def NumberBuffer.addExponent (b : NumberBuffer) (digits : List Char) : NumberBuffer :=
  { b with exponent := digits.reverse ++ b.exponent }

theorem run_number {stack : List Frame} {phase next : NumberPhase} {b b' : NumberBuffer} {c : Char}
    (h : stepNumber phase b c = some (next, b')) (rest : List Char) :
    run (.number stack phase b) (c :: rest) = run (.number stack next b') rest :=
  run_cons (by simp [step, h]) rest

/-- Digits are read one by one in a phase that takes them. -/
theorem run_digits {phase : NumberPhase} {add : NumberBuffer → List Char → NumberBuffer}
    (none : ∀ b, add b [] = b)
    (one : ∀ b c, c.isDigit = true → ∃ next, stepNumber phase b c = some (phase, next) ∧
      ∀ more, add next more = add b (c :: more))
    {digits : List Char} (h : ∀ c ∈ digits, c.isDigit = true) (stack : List Frame)
    (b : NumberBuffer) (rest : List Char) :
    run (.number stack phase b) (digits ++ rest) =
      run (.number stack phase (add b digits)) rest := by
  induction digits generalizing b with
  | nil => rw [none, List.nil_append]
  | cons c more ih =>
    obtain ⟨digit, later⟩ := List.forall_mem_cons.mp h
    obtain ⟨next, taken, grown⟩ := one b c digit
    rw [List.cons_append, run_number taken, ih later next, grown]

section

variable {stack : List Frame} {digits : List Char}

theorem run_wholeDigits (h : ∀ c ∈ digits, c.isDigit = true) (b : NumberBuffer)
    (rest : List Char) :
    run (.number stack .whole b) (digits ++ rest) =
      run (.number stack .whole (b.addDigits digits)) rest :=
  run_digits (fun _ => rfl) (fun b c digit => ⟨b.addDigits [c], by simp [stepNumber, digit,
    NumberBuffer.addDigits], fun more => by simp [NumberBuffer.addDigits]⟩) h stack b rest

theorem run_places (h : ∀ c ∈ digits, c.isDigit = true) (b : NumberBuffer) (rest : List Char) :
    run (.number stack .fraction b) (digits ++ rest) =
      run (.number stack .fraction (b.addPlaces digits)) rest :=
  run_digits (fun _ => rfl) (fun b c digit => ⟨b.addPlaces [c], by simp [stepNumber, digit,
    NumberBuffer.addPlaces], fun more => by simp [NumberBuffer.addPlaces]; omega⟩) h stack b rest

theorem run_exponentDigits (h : ∀ c ∈ digits, c.isDigit = true) (b : NumberBuffer)
    (rest : List Char) :
    run (.number stack .exponent b) (digits ++ rest) =
      run (.number stack .exponent (b.addExponent digits)) rest :=
  run_digits (fun _ => rfl) (fun b c digit => ⟨b.addExponent [c], by simp [stepNumber, digit,
    NumberBuffer.addExponent], fun more => by simp [NumberBuffer.addExponent]⟩) h stack b rest

/-- A fraction behind the whole part. -/
theorem run_fraction {phase : NumberPhase} (whole : phase = .zero ∨ phase = .whole)
    (h : AllDigits digits) (b : NumberBuffer) (rest : List Char) :
    run (.number stack phase b) ('.' :: digits ++ rest) =
      run (.number stack .fraction (b.addPlaces digits)) rest := by
  obtain ⟨c, more, rfl⟩ := List.exists_cons_of_ne_nil h.filled
  obtain ⟨digit, later⟩ := List.forall_mem_cons.mp h.digits
  have point : stepNumber phase b '.' = some (.point, b) := by
    rcases whole with rfl | rfl <;> rfl
  have first : stepNumber .point b c = some (.fraction, b.addPlaces [c]) := by
    simp [stepNumber, digit, NumberBuffer.addPlaces]
  have grown : (b.addPlaces [c]).addPlaces more = b.addPlaces (c :: more) := by
    simp [NumberBuffer.addPlaces]
    omega
  rw [List.cons_append, List.cons_append, run_number point, run_number first, run_places later,
    grown]

/-- An exponent behind the rest of the number. -/
theorem run_exponent {phase : NumberPhase}
    (before : phase = .zero ∨ phase = .whole ∨ phase = .fraction) {e : WrittenExponent}
    (h : e.Valid) (b : NumberBuffer) (rest : List Char) :
    run (.number stack phase b) (e.text ++ rest) =
      run (.number stack .exponent { b with
        exponentNegative := b.exponentNegative || e.sign == some '-'
        exponent := e.digits.reverse }) rest := by
  obtain ⟨mark, sign, digits⟩ := e
  obtain ⟨c, more, rfl⟩ := List.exists_cons_of_ne_nil h.digits.filled
  obtain ⟨digit, later⟩ := List.forall_mem_cons.mp h.digits.digits
  have marked : stepNumber phase b mark = some (.mark, b) := by
    rcases h.mark with rfl | rfl <;> rcases before with rfl | rfl | rfl <;> rfl
  have first : ∀ b : NumberBuffer, run (.number stack .exponent { b with exponent := [c] })
      (more ++ rest) = run (.number stack .exponent { b with exponent := (c :: more).reverse })
        rest := by
    intro b
    rw [run_exponentDigits later]
    simp [NumberBuffer.addExponent]
  rw [WrittenExponent.text, List.cons_append, run_number marked]
  cases sign with
  | none =>
    have opened : stepNumber .mark b c = some (.exponent, { b with exponent := [c] }) := by
      have plus : c ≠ '+' := fun same => by simp [same] at digit
      have minus : c ≠ '-' := fun same => by simp [same] at digit
      simp [stepNumber, digit, plus, minus]
    rw [Option.toList_none, List.nil_append, List.cons_append, run_number opened, first]
    simp
  | some d =>
    have opened : ∀ b : NumberBuffer,
        stepNumber .markSign b c = some (.exponent, { b with exponent := [c] }) := by
      simp [stepNumber, digit]
    have signed : stepNumber .mark b d =
        some (.markSign, { b with exponentNegative := b.exponentNegative || d == '-' }) := by
      rcases h.sign d rfl with rfl | rfl <;> simp [stepNumber]
    rw [Option.toList_some, List.singleton_append, List.cons_append, run_number signed,
      List.cons_append, run_number (opened _), first]
    rfl

theorem ne_of_digit {c d : Char} (h : c.isDigit = true) (other : d.isDigit = false) : c ≠ d := by
  rintro rfl
  rw [h] at other
  cases other

theorem not_isSpace_of_digit {c : Char} (h : c.isDigit = true) : isSpace c = false := by
  simp [isSpace, ne_of_digit h]

/-- The sign and the whole part of a number. -/
theorem run_whole {n : WrittenNumber} (h : n.Valid) (stack : List Frame) (closable : Bool)
    (rest : List Char) :
    run (.value stack closable) ((if n.negative then ['-'] else []) ++ n.whole ++ rest) =
      run (.number stack (if n.whole = ['0'] then .zero else .whole)
        ⟨n.negative, n.whole.reverse, 0, false, []⟩) rest := by
  obtain ⟨negative, whole, fraction, exponent⟩ := n
  obtain ⟨c, more, rfl⟩ := List.exists_cons_of_ne_nil h.whole.filled
  obtain ⟨digit, later⟩ := List.forall_mem_cons.mp h.whole.digits
  by_cases zero : c = '0'
  · subst zero
    obtain rfl : more = [] := (List.cons.inj (h.no_zero rfl)).2
    cases negative with
    | false => exact run_cons (step_value rfl (by decide)) rest
    | true =>
      have minus : step (.value stack closable) '-' =
          some (.number stack .sign ⟨true, [], 0, false, []⟩) := step_value rfl (by decide)
      exact (run_cons minus _).trans (run_number rfl rest)
  · have read : ∀ negative, run (.number stack .whole ⟨negative, [c], 0, false, []⟩)
        (more ++ rest) =
          run (.number stack .whole ⟨negative, (c :: more).reverse, 0, false, []⟩) rest := by
      intro negative
      rw [run_wholeDigits later]
      simp [NumberBuffer.addDigits]
    have phase : (if c :: more = ['0'] then NumberPhase.zero else .whole) = .whole :=
      if_neg fun same => zero (List.cons.inj same).1
    cases negative with
    | false =>
      have opened : step (.value stack closable) c =
          some (.number stack .whole ⟨false, [c], 0, false, []⟩) := by
        rw [step_value (not_isSpace_of_digit digit) (ne_of_digit digit rfl)]
        simp [openValue, digit, zero, ne_of_digit digit]
      simp only [phase]
      exact (run_cons opened _).trans (read false)
    | true =>
      have minus : step (.value stack closable) '-' =
          some (.number stack .sign ⟨true, [], 0, false, []⟩) := step_value rfl (by decide)
      have first : stepNumber .sign ⟨true, [], 0, false, []⟩ c =
          some (.whole, ⟨true, [c], 0, false, []⟩) := by
        simp [stepNumber, zero, digit]
      simp only [phase]
      exact (run_cons minus _).trans ((run_number first _).trans (read true))

/-- A number up to its exponent. -/
theorem exists_run_fraction {n : WrittenNumber} (h : n.Valid) (stack : List Frame)
    (closable : Bool) :
    ∃ phase : NumberPhase, (phase = .zero ∨ phase = .whole ∨ phase = .fraction) ∧
      (phase = .zero || phase = .whole) = n.fraction.isNone ∧
      ∀ rest, run (.value stack closable) ((if n.negative then ['-'] else []) ++ n.whole ++
          n.fraction.elim [] ('.' :: ·) ++ rest) =
        run (.number stack phase ⟨n.negative, (n.whole ++ n.fraction.getD []).reverse,
          (n.fraction.getD []).length, false, []⟩) rest := by
  have whole := fun rest => run_whole h stack closable rest
  obtain ⟨phase, zero, first⟩ : ∃ phase : NumberPhase,
      (if n.whole = ['0'] then NumberPhase.zero else .whole) = phase ∧
      (phase = .zero ∨ phase = .whole) := by
    split
    · exact ⟨_, rfl, .inl rfl⟩
    · exact ⟨_, rfl, .inr rfl⟩
  rw [zero] at whole
  cases none : n.fraction with
  | none =>
    refine ⟨phase, by tauto, by simpa using first, fun rest => ?_⟩
    simpa using whole rest
  | some places =>
    refine ⟨.fraction, .inr (.inr rfl), rfl, fun rest => ?_⟩
    rw [Option.elim_some, List.append_assoc _ _ rest, whole,
      run_fraction first (h.fraction places none)]
    simp [NumberBuffer.addPlaces]

/-- **A number is read up to its end**, and then says what its parts say. -/
theorem exists_run_number {n : WrittenNumber} (h : n.Valid) (stack : List Frame)
    (closable : Bool) :
    ∃ phase b, NumberPhase.final phase = true ∧ NumberBuffer.close b phase = n.number ∧
      ∀ rest, run (.value stack closable) (n.text ++ rest) = run (.number stack phase b) rest := by
  obtain ⟨phase, before, whole, read⟩ := exists_run_fraction h stack closable
  cases none : n.exponent with
  | none =>
    rw [WrittenNumber.text, none, Option.elim_none, List.append_nil]
    refine ⟨phase, _, ?_, ?_, read⟩
    · rcases before with rfl | rfl | rfl <;> rfl
    · simp only [NumberBuffer.close, WrittenNumber.number, none, Option.isNone_none, Bool.and_true,
        ← whole]
      rcases before with rfl | rfl | rfl <;> simp [readDigits]
  | some e =>
    refine ⟨.exponent, ?buffer, rfl, ?said, fun rest => ?read⟩
    case read =>
      rw [WrittenNumber.text, none, Option.elim_some, List.append_assoc _ _ rest, read,
        run_exponent before (h.exponent e none)]
    case said =>
      simp [NumberBuffer.close, WrittenNumber.number, none, WrittenExponent.power]

end

/-! ## 2. Texts -/

/-- A character of a text as it is written: bare, behind a backslash, or as a code unit. -/
inductive Glyph where
  | bare (c : Char)
  | short (letter c : Char)
  | unit (digits : List Char)

/-- The escapes of one letter, with what they stand for. -/
def shortEscapes : List (Char × Char) := [
  ('"', '"'), ('\\', '\\'), ('/', '/'), ('b', '\x08'), ('f', '\x0c'), ('n', '\n'), ('r', '\r'),
  ('t', '\t')]

/-- The glyphs of JSON: no bare character is a quote, a backslash or a control character, and a code
unit has four digits. -/
def Glyph.Valid : Glyph → Prop
  | .bare c => c ≠ '"' ∧ c ≠ '\\' ∧ 0x20 ≤ c.toNat
  | .short letter c => (letter, c) ∈ shortEscapes
  | .unit digits => digits.length = 4 ∧ ∀ d ∈ digits, (hexValue? d).isSome

theorem valid_bare {s : List Char} (h : ∀ c ∈ s, c ≠ '"' ∧ c ≠ '\\' ∧ 0x20 ≤ c.toNat) :
    ∀ glyph ∈ s.map Glyph.bare, glyph.Valid := by
  simpa [Glyph.Valid] using h

/-- A glyph as it is written. -/
def Glyph.text : Glyph → List Char
  | .bare c => [c]
  | .short letter _ => ['\\', letter]
  | .unit digits => '\\' :: 'u' :: digits

/-- The number that hexadecimal digits spell. -/
def readHex (digits : List Char) : Nat :=
  digits.foldl (fun n d => n * 16 + (hexValue? d).getD 0) 0

/-- The unit is the first half of a surrogate pair. -/
def isHigh (unit : Nat) : Bool := 0xD800 ≤ unit && unit < 0xDC00

/-- The unit is the second half of a surrogate pair. -/
def isLow (unit : Nat) : Bool := 0xDC00 ≤ unit && unit < 0xE000

/-- The characters that glyphs stand for; none if half of a surrogate pair stands alone. -/
def spelled : List Glyph → Option (List Char)
  | [] => some []
  | .bare c :: rest => (spelled rest).map (c :: ·)
  | .short _ c :: rest => (spelled rest).map (c :: ·)
  | .unit digits :: rest =>
    let unit := readHex digits
    if isHigh unit then
      match rest with
      | .unit more :: later =>
        if isLow (readHex more) then
          (spelled later).map
            (Char.ofNat (0x10000 + (unit - 0xD800) * 0x400 + (readHex more - 0xDC00)) :: ·)
        else none
      | _ => none
    else if isLow unit then none
    else (spelled rest).map (Char.ofNat unit :: ·)

/-- The buffer after one more glyph. -/
def TextBuffer.pushGlyph (b : TextBuffer) : Glyph → TextBuffer
  | .bare c => b.push c
  | .short _ c => b.push c
  | .unit digits => b.pushUnit (readHex digits)

theorem run_glyph {glyph : Glyph} (h : glyph.Valid) (stack : List Frame) (role : TextRole)
    (b : TextBuffer) (rest : List Char) :
    run (.text stack role .none b) (glyph.text ++ rest) =
      run (.text stack role .none (b.pushGlyph glyph)) rest := by
  cases glyph with
  | bare c =>
    obtain ⟨quote, backslash, bare⟩ := h
    have bare : ¬c.toNat < 0x20 := by omega
    exact run_cons (by simp [step, stepText, quote, backslash, bare, TextBuffer.pushGlyph]) rest
  | short letter c =>
    obtain ⟨other, escaped⟩ : letter ≠ 'u' ∧ escaped? letter = some c :=
      (by decide : ∀ pair ∈ shortEscapes, pair.1 ≠ 'u' ∧ escaped? pair.1 = some pair.2) _ h
    simp [Glyph.text, run, step, stepText, other, escaped, TextBuffer.pushGlyph]
  | unit digits =>
    obtain ⟨four, hex⟩ := h
    obtain ⟨d₁, d₂, d₃, d₄, rfl⟩ := List.length_eq_four.mp four
    simp only [List.forall_mem_cons, Option.isSome_iff_exists] at hex
    obtain ⟨⟨v₁, h₁⟩, ⟨v₂, h₂⟩, ⟨v₃, h₃⟩, ⟨v₄, h₄⟩, -⟩ := hex
    simp [Glyph.text, run, step, stepText, h₁, h₂, h₃, h₄, TextBuffer.pushGlyph, readHex]

theorem run_glyphs {glyphs : List Glyph} (h : ∀ glyph ∈ glyphs, glyph.Valid) (stack : List Frame)
    (role : TextRole) (b : TextBuffer) (rest : List Char) :
    run (.text stack role .none b) (glyphs.flatMap Glyph.text ++ '"' :: rest) =
      run (closeText stack role (glyphs.foldl .pushGlyph b)) rest := by
  induction glyphs generalizing b with
  | nil => exact run_cons rfl rest
  | cons glyph more ih =>
    obtain ⟨first, later⟩ := List.forall_mem_cons.mp h
    rw [List.flatMap_cons, List.append_assoc, run_glyph first, ih later, List.foldl_cons]

section

variable {b : TextBuffer} {unit : Nat}

theorem pushUnit_of_high (high : isHigh unit = true) :
    b.pushUnit unit = ⟨b.chars, some unit, b.broken || b.high.isSome⟩ :=
  if_pos high

theorem pushUnit_of_low (low : isLow unit = true) :
    b.pushUnit unit =
      match b.high with
      | some first =>
        ⟨Char.ofNat (0x10000 + (first - 0xD800) * 0x400 + (unit - 0xDC00)) :: b.chars, none,
          b.broken⟩
      | none => ⟨b.chars, none, true⟩ := by
  have other : ¬isHigh unit = true := by
    simp only [isLow, isHigh, Bool.and_eq_true, decide_eq_true_eq] at low ⊢
    omega
  exact (if_neg other).trans (if_pos low)

theorem pushUnit_of_char (high : ¬isHigh unit = true) (low : ¬isLow unit = true) :
    b.pushUnit unit = b.push (Char.ofNat unit) :=
  (if_neg high).trans (if_neg low)

theorem broken_pushGlyph (broken : b.broken = true) (glyph : Glyph) :
    (b.pushGlyph glyph).broken = true := by
  cases glyph with
  | bare c => simp [TextBuffer.pushGlyph, TextBuffer.push, broken]
  | short letter c => simp [TextBuffer.pushGlyph, TextBuffer.push, broken]
  | unit digits =>
    rw [TextBuffer.pushGlyph]
    by_cases high : isHigh (readHex digits) = true
    · simp [pushUnit_of_high high, broken]
    · by_cases low : isLow (readHex digits) = true
      · rw [pushUnit_of_low low]
        split
        · exact broken
        · rfl
      · simp [pushUnit_of_char high low, TextBuffer.push, broken]

/-- A broken text stays broken. -/
theorem close_of_broken (broken : b.broken = true) (glyphs : List Glyph) :
    (glyphs.foldl .pushGlyph b).close = none := by
  induction glyphs generalizing b with
  | nil => simp [TextBuffer.close, broken]
  | cons glyph more ih => exact ih (broken_pushGlyph broken glyph)

/-- A first half of a pair breaks the text if its second half does not come at once. -/
theorem close_of_alone (waits : b.high.isSome = true) {glyphs : List Glyph}
    (alone : ∀ digits later, glyphs = .unit digits :: later → ¬isLow (readHex digits) = true) :
    (glyphs.foldl .pushGlyph b).close = none := by
  cases glyphs with
  | nil => simp [TextBuffer.close, waits]
  | cons glyph more =>
    refine close_of_broken ?_ more
    cases glyph with
    | bare c => simp [TextBuffer.pushGlyph, TextBuffer.push, waits]
    | short letter c => simp [TextBuffer.pushGlyph, TextBuffer.push, waits]
    | unit digits =>
      rw [TextBuffer.pushGlyph]
      by_cases high : isHigh (readHex digits) = true
      · simp [pushUnit_of_high high, waits]
      · simp [pushUnit_of_char high (alone digits more rfl), TextBuffer.push, waits]

end

/-- What is in a sound buffer is read on by what the glyphs stand for. -/
def Adds (glyphs : List Glyph) (chars : Option (List Char)) : Prop :=
  ∀ b : TextBuffer, b.high = none → b.broken = false →
    (glyphs.foldl .pushGlyph b).close =
      chars.map fun chars => .ofList (b.chars.reverse ++ chars)

theorem Adds.push {glyphs : List Glyph} {chars : Option (List Char)} (h : Adds glyphs chars)
    {b : TextBuffer} (whole : b.high = none) (sound : b.broken = false) (c : Char) :
    (glyphs.foldl .pushGlyph (b.push c)).close =
      (chars.map (c :: ·)).map fun chars => .ofList (b.chars.reverse ++ chars) := by
  rw [h _ rfl (by simp [TextBuffer.push, whole, sound])]
  simp [TextBuffer.push, Function.comp_def]

/-- **A text says what its glyphs stand for.** -/
theorem adds_spelled (glyphs : List Glyph) : Adds glyphs (spelled glyphs) := by
  fun_induction spelled glyphs with intro b whole sound
  | case1 => simp [TextBuffer.close, whole, sound]
  | case2 c rest ih => exact ih.push whole sound c
  | case3 letter c rest ih => exact ih.push whole sound c
  | case4 digits unit high more later low ih =>
    have pair : (b.pushGlyph (.unit digits)).pushGlyph (.unit more) =
        b.push (Char.ofNat (0x10000 + (unit - 0xD800) * 0x400 + (readHex more - 0xDC00))) := by
      have first : b.pushGlyph (.unit digits) = ⟨b.chars, some unit, false⟩ :=
        (pushUnit_of_high high).trans (by simp [whole, sound])
      rw [first]
      exact (pushUnit_of_low low).trans (by simp [TextBuffer.push, whole, sound])
    rw [List.foldl_cons, List.foldl_cons, pair]
    exact ih.push whole sound _
  | case5 digits unit high more later low =>
    rw [List.foldl_cons, TextBuffer.pushGlyph, pushUnit_of_high high]
    refine close_of_alone rfl fun other rest same => ?_
    obtain rfl : more = other := Glyph.unit.inj (List.cons.inj same).1
    exact low
  | case6 digits rest unit high alone =>
    rw [List.foldl_cons, TextBuffer.pushGlyph, pushUnit_of_high high]
    exact close_of_alone rfl fun other later same => (alone other later same).elim
  | case7 digits rest unit high low =>
    rw [List.foldl_cons, TextBuffer.pushGlyph, pushUnit_of_low low, whole]
    exact close_of_broken rfl rest
  | case8 digits rest unit high low ih =>
    rw [List.foldl_cons, TextBuffer.pushGlyph, pushUnit_of_char high low]
    exact ih.push whole sound (Char.ofNat unit)

/-- Glyphs in quotes. -/
def quoted (glyphs : List Glyph) : List Char := '"' :: (glyphs.flatMap Glyph.text ++ ['"'])

/-- What a text of glyphs says. -/
def textOf (glyphs : List Glyph) : Option String := (spelled glyphs).map .ofList

/-- Bare characters stand for themselves. -/
theorem textOf_bare (text : String) : textOf (text.toList.map .bare) = some text := by
  have alone : ∀ s : List Char, spelled (s.map .bare) = some s := fun s => by
    induction s with
    | nil => rfl
    | cons c rest ih => rw [List.map_cons, spelled, ih, Option.map_some]
  rw [textOf, alone, Option.map_some, String.ofList_toList]

/-- Quoted glyphs are read up to the quote at their end. -/
theorem run_quotedGlyphs {glyphs : List Glyph} (h : ∀ glyph ∈ glyphs, glyph.Valid)
    (state : State) {stack : List Frame} {role : TextRole}
    (opened : step state '"' = some (.text stack role .none .empty)) (rest : List Char) :
    ∃ b, b.close = textOf glyphs ∧
      run state (quoted glyphs ++ rest) = run (closeText stack role b) rest := by
  refine ⟨glyphs.foldl .pushGlyph .empty, adds_spelled glyphs .empty rfl rfl, ?_⟩
  rw [quoted, List.cons_append, run_cons opened, List.append_assoc, List.singleton_append,
    run_glyphs h]

end Covenant.Json
