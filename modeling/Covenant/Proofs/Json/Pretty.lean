import Covenant.Json.Printer
import Covenant.Json.Reader
import Mathlib.Data.List.Forall2
/-!
# Written JSON is read back

* `Prints value raw` says that the reader, where a value is wanted, takes the written `value` for
  the tree `raw`, at whatever level it is written and whatever comes after it.
* Texts print (`prints_text`), and arrays and objects print if what is in them does
  (`prints_items`, `prints_members`).
* `read?_pretty` is about a whole text with a line end after it.
-/

namespace Covenant.Json

/-! ## 1. Rows of characters -/

theorem run_cons {state next : State} {c : Char} (h : step state c = some next) (rest : List Char) :
    run state (c :: rest) = run next rest := by
  rw [run, h]

/-- Where a value is wanted, any sign but white space and a closing bracket opens one. -/
theorem step_value {stack : List Frame} {closable : Bool} {c : Char} (solid : isSpace c = false)
    (h : c ≠ ']') : step (.value stack closable) c = openValue stack c := by
  simp [step, solid, h]

/-- White space changes nothing in a state that skips it. -/
theorem run_spaces {state : State} (skips : ∀ c, isSpace c = true → step state c = some state)
    {spaces : List Char} (h : ∀ c ∈ spaces, isSpace c = true) (rest : List Char) :
    run state (spaces ++ rest) = run state rest := by
  induction spaces with
  | nil => rfl
  | cons c more ih =>
    rw [List.cons_append, run_cons (skips c (h c List.mem_cons_self))]
    exact ih fun d hd => h d (List.mem_cons_of_mem _ hd)

theorem isSpace_of_mem_newline {level : Nat} {c : Char} (h : c ∈ newline level) :
    isSpace c = true := by
  rcases List.mem_cons.mp h with rfl | h
  · rfl
  · obtain rfl := List.eq_of_mem_replicate h
    rfl

theorem run_value_newline (stack : List Frame) (closable : Bool) (level : Nat) (rest : List Char) :
    run (.value stack closable) (newline level ++ rest) = run (.value stack closable) rest := by
  have skips : ∀ c, isSpace c = true →
      step (.value stack closable) c = some (.value stack closable) := fun _ hc => if_pos hc
  exact run_spaces skips (fun _ => isSpace_of_mem_newline) rest

theorem run_key_newline (stack : List Frame) (done : List (Option String × Raw)) (closable : Bool)
    (level : Nat) (rest : List Char) :
    run (.key stack done closable) (newline level ++ rest) =
      run (.key stack done closable) rest := by
  have skips : ∀ c, isSpace c = true →
      step (.key stack done closable) c = some (.key stack done closable) := fun _ hc => if_pos hc
  exact run_spaces skips (fun _ => isSpace_of_mem_newline) rest

theorem run_after_newline (stack : List Frame) (level : Nat) (rest : List Char) :
    run (.after stack) (newline level ++ rest) = run (.after stack) rest := by
  have skips : ∀ c, isSpace c = true → step (.after stack) c = some (.after stack) :=
    fun _ hc => if_pos hc
  exact run_spaces skips (fun _ => isSpace_of_mem_newline) rest

/-! ## 2. Texts -/

theorem hexValue?_hexDigit : ∀ n < 16, hexValue? (hexDigit n) = some n := by decide

/-- The unit of a control character is the character. -/
theorem pushUnit_of_lt (b : TextBuffer) {n : Nat} (h : n < 0xD800) :
    b.pushUnit n = b.push (Char.ofNat n) := by
  have high : ¬(0xD800 ≤ n) := by omega
  have low : ¬(0xDC00 ≤ n) := by omega
  simp [TextBuffer.pushUnit, high, low]

/-- A character as it is written inside of quotes is read as the character. -/
theorem run_escape (stack : List Frame) (role : TextRole) (b : TextBuffer) (c : Char)
    (rest : List Char) :
    run (.text stack role .none b) (escape c ++ rest) =
      run (.text stack role .none (b.push c)) rest := by
  unfold escape
  split_ifs with quote backslash plain feed tab return_ back form
  · obtain rfl := eq_of_beq quote
    rfl
  · obtain rfl := eq_of_beq backslash
    rfl
  · have bare : ¬c.toNat < 0x20 := by omega
    exact run_cons (by simp [step, stepText, quote, backslash, bare]) rest
  · obtain rfl := eq_of_beq feed
    rfl
  · obtain rfl := eq_of_beq tab
    rfl
  · obtain rfl := eq_of_beq return_
    rfl
  · have e : c = '\x08' := Char.toNat_inj.mp (eq_of_beq back)
    subst e
    rfl
  · have e : c = '\x0c' := Char.toNat_inj.mp (eq_of_beq form)
    subst e
    rfl
  · have low : c.toNat < 0x20 := by omega
    have first := hexValue?_hexDigit (c.toNat / 16) (by omega)
    have second := hexValue?_hexDigit (c.toNat % 16) (by omega)
    have unit : c.toNat / 16 * 16 + c.toNat % 16 = c.toNat := by omega
    have zero : hexValue? '0' = some 0 := rfl
    have pushed := pushUnit_of_lt b (n := c.toNat) (by omega)
    simp [run, step, stepText, zero, first, second, unit, pushed]

/-- What stands between quotes is read up to the quote at its end. -/
theorem run_quoted (stack : List Frame) (role : TextRole) (s : List Char) (b : TextBuffer)
    (whole : b.high = none) (rest : List Char) :
    run (.text stack role .none b) (s.flatMap escape ++ '"' :: rest) =
      run (closeText stack role ⟨s.reverse ++ b.chars, none, b.broken⟩) rest := by
  induction s generalizing b with
  | nil =>
    obtain ⟨chars, high, broken⟩ := b
    obtain rfl : high = none := whole
    rfl
  | cons c more ih =>
    rw [List.flatMap_cons, List.append_assoc, run_escape, ih (b.push c) rfl]
    simp [TextBuffer.push, whole]

theorem run_quote_value (stack : List Frame) (closable : Bool) (s : String) (rest : List Char) :
    run (.value stack closable) (quote s ++ rest) = run (complete stack (.text (some s))) rest := by
  have opened : step (.value stack closable) '"' = some (.text stack .value .none .empty) :=
    step_value rfl (by decide)
  have closed : (TextBuffer.mk (s.toList.reverse ++ []) none false).close = some s := by
    simp [TextBuffer.close]
  simp only [quote, List.cons_append, List.append_assoc, List.nil_append]
  rw [run_cons opened, run_quoted stack .value s.toList .empty rfl]
  simp only [closeText, TextBuffer.empty, closed]

theorem run_quote_key (stack : List Frame) (done : List (Option String × Raw)) (closable : Bool)
    (s : String) (rest : List Char) :
    run (.key stack done closable) (quote s ++ rest) =
      run (.colon stack done (some s)) rest := by
  have opened : step (.key stack done closable) '"' =
      some (.text stack (.key done) .none .empty) := rfl
  have closed : (TextBuffer.mk (s.toList.reverse ++ []) none false).close = some s := by
    simp [TextBuffer.close]
  simp only [quote, List.cons_append, List.append_assoc, List.nil_append]
  rw [run_cons opened, run_quoted stack (.key done) s.toList .empty rfl]
  simp only [closeText, TextBuffer.empty, closed]

/-! ## 3. Values -/

/-- Where a value is wanted, the written `value` is read as `raw`. -/
def Prints (value : Value) (raw : Raw) : Prop :=
  ∀ (stack : List Frame) (closable : Bool) (level : Nat) (rest : List Char),
    run (.value stack closable) (value.prettyAt level ++ rest) = run (complete stack raw) rest

theorem prints_text (s : String) : Prints (.text s) (.text (some s)) :=
  fun stack closable _ rest => run_quote_value stack closable s rest

theorem complete_items (done : List Raw) (outer : List Frame) (raw : Raw) :
    complete (.items done :: outer) raw = .after (.items (raw :: done) :: outer) := rfl

/-- The items after the first one join those that were read. -/
theorem run_prettyItems {values : List Value} {raws : List Raw}
    (h : List.Forall₂ Prints values raws) (done : List Raw) (stack : List Frame) (level : Nat)
    (rest : List Char) :
    run (.after (.items done :: stack)) (prettyItems level values ++ rest) =
      run (.after (.items (raws.reverse ++ done) :: stack)) rest := by
  induction h generalizing done with
  | nil => rfl
  | @cons value raw values raws first _ ih =>
    have comma : step (.after (.items done :: stack)) ',' =
        some (.value (.items done :: stack) false) := rfl
    simp only [prettyItems, List.cons_append, List.append_assoc]
    rw [run_cons comma, run_value_newline, first, complete_items, ih (raw :: done)]
    simp

/-- **An array prints if its items do.** -/
theorem prints_items {values : List Value} {raws : List Raw}
    (h : List.Forall₂ Prints values raws) : Prints (.items values) (.items raws) := by
  intro stack closable level rest
  have opened : step (.value stack closable) '[' = some (.value (.items [] :: stack) true) :=
    step_value rfl (by decide)
  cases h with
  | nil =>
    simp only [Value.prettyAt, List.cons_append, List.nil_append]
    rw [run_cons opened]
    rfl
  | @cons value raw values raws first more =>
    have closed : step (.after (.items (raws.reverse ++ [raw]) :: stack)) ']' =
        some (complete stack (.items (raw :: raws))) := by
      have back : (raws.reverse ++ [raw]).reverse = raw :: raws := by simp
      rw [← back]
      rfl
    simp only [Value.prettyAt, List.cons_append, List.append_assoc, List.nil_append]
    rw [run_cons opened, run_value_newline, first, complete_items, run_prettyItems more,
      run_after_newline, run_cons closed]

/-- A member prints: it is read with its name. -/
def MemberPrints (member : String × Value) (raw : Option String × Raw) : Prop :=
  raw.1 = some member.1 ∧ Prints member.2 raw.2

/-- A member is read behind those that were read before. -/
theorem run_member {member : String × Value} {raw : Option String × Raw}
    (h : MemberPrints member raw) (done : List (Option String × Raw)) (stack : List Frame)
    (closable : Bool) (level : Nat) (rest : List Char) :
    run (.key stack done closable)
        (quote member.1 ++ ':' :: ' ' :: (member.2.prettyAt level ++ rest)) =
      run (.after (.members (raw :: done) none :: stack)) rest := by
  obtain ⟨name, value⟩ := member
  obtain ⟨key, tree⟩ := raw
  obtain ⟨rfl, prints⟩ : key = some name ∧ Prints value tree := h
  have colon : step (.colon stack done (some name)) ':' =
      some (.value (.members done (some name) :: stack) false) := rfl
  have space : step (.value (.members done (some name) :: stack) false) ' ' =
      some (.value (.members done (some name) :: stack) false) := rfl
  rw [run_quote_key, run_cons colon, run_cons space, prints]
  rfl

/-- The members after the first one join those that were read. -/
theorem run_prettyMembers {members : List (String × Value)} {raws : List (Option String × Raw)}
    (h : List.Forall₂ MemberPrints members raws) (done : List (Option String × Raw))
    (stack : List Frame) (level : Nat) (rest : List Char) :
    run (.after (.members done none :: stack)) (prettyMembers level members ++ rest) =
      run (.after (.members (raws.reverse ++ done) none :: stack)) rest := by
  induction h generalizing done with
  | nil => rfl
  | @cons member raw members raws first _ ih =>
    have comma : step (.after (.members done none :: stack)) ',' =
        some (.key stack done false) := rfl
    simp only [prettyMembers, List.cons_append, List.append_assoc]
    rw [run_cons comma, run_key_newline, run_member first, ih (raw :: done)]
    simp

/-- **An object prints if its members do.** -/
theorem prints_members {members : List (String × Value)} {raws : List (Option String × Raw)}
    (h : List.Forall₂ MemberPrints members raws) : Prints (.members members) (.members raws) := by
  intro stack closable level rest
  have opened : step (.value stack closable) '{' = some (.key stack [] true) :=
    step_value rfl (by decide)
  cases h with
  | nil =>
    simp only [Value.prettyAt, List.cons_append, List.nil_append]
    rw [run_cons opened]
    rfl
  | @cons member raw members raws first more =>
    have closed : step (.after (.members (raws.reverse ++ [raw]) none :: stack)) '}' =
        some (complete stack (.members (raw :: raws))) := by
      have back : (raws.reverse ++ [raw]).reverse = raw :: raws := by simp
      rw [← back]
      rfl
    simp only [Value.prettyAt, List.cons_append, List.append_assoc, List.nil_append]
    rw [run_cons opened, run_key_newline, run_member first, run_prettyMembers more,
      run_after_newline, run_cons closed]

/-! ## 4. Whole texts -/

/-- **A written value with a line end after it is read as its tree.** -/
theorem read?_pretty {value : Value} {raw : Raw} (h : Prints value raw) :
    read? (value.pretty ++ "\n").toList = some raw := by
  have text : (value.pretty ++ "\n").toList = value.prettyAt 0 ++ ['\n'] := by
    simp [Value.pretty]
  have ended : run (.finished raw) ['\n'] = some (.finished raw) := rfl
  rw [read?, text, h [] false 0 ['\n'], complete, ended]
  rfl

end Covenant.Json
