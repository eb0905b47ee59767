import Covenant.Proofs.Guard.Marker
import Covenant.Proofs.Pattern.Sketch
/-!
# The closing lines of an entry point under the default rules

Only names of a context come into the lines after the listing. What a rule may find there is decided
on sketches of these lines, but for one line in Java and one in TypeScript, in which the client is
made.

* `sketched_row`: a filled row is a text of its sketch.
* `closing_rows`: what the sketches of all closing rows say.
* `obeys_closing_iff`: no closing line breaks a default rule, unless the class of the client is
  called so that the line does in which a client is made.
-/

namespace Covenant.Guard

open Covenant.Client Covenant.Contract Covenant.Naming Covenant.Pattern Covenant.Text

/-! ## 1. Sketches of rows -/

/-- The characters of ASCII with a property. -/
def asciiWhere (p : Char → Bool) : List Char := ((List.range 128).map Char.ofNat).filter p

theorem mem_asciiWhere {p : Char → Bool} {c : Char} (counts : c.isAlphanum = true ∨ c.toNat < 128)
    (h : p c = true) : c ∈ asciiWhere p := by
  have ascii : c.toNat < 128 := by
    rcases counts with counts | ascii
    · have codes := code_of_alphanum counts
      omega
    · exact ascii
  exact List.mem_filter.mpr
    ⟨List.mem_map.mpr ⟨c.toNat, List.mem_range.mpr ascii, Char.ofNat_toNat c⟩, h⟩

/-- The slots for names. -/
def nameSlots : List String := ["service_name", "class_name", "package"]

/-- What a name in a slot is made of. -/
def slotSketch : String → Sketch (List Char)
  | "class_name" =>
    [.many (asciiWhere Char.isAlphanum), .one ['A'], .one ['P', 'p'], .one ['I', 'i']]
  | "service_name" => [.many (asciiWhere fun c => isSmall c || ['-'].contains c)]
  | "package" => [.many (asciiWhere fun c => isSmall c || ['-', '_', '.'].contains c)]
  | _ => []

/-- The slots in a row. -/
def slotsIn (row : List Cell) : List String :=
  row.filterMap fun
    | .fixed _ => none
    | .slot name => some name

/-- What a row is made of. -/
def rowSketch (row : List Cell) : Sketch (List Char) :=
  row.flatMap fun
    | .fixed c => [.one [c]]
    | .slot name => slotSketch name

theorem sketched_many {set text : List Char} (h : ∀ c ∈ text, c ∈ set) :
    Sketched [.many set] text :=
  ⟨text, [], (List.append_nil text).symm, h, rfl⟩

theorem sketched_className (title : String) :
    Sketched (slotSketch "class_name") (apiClassName title).toList := by
  have word := (apiClassName_isWord title).1.chars
  have front : ∀ {start last : List Char}, start ++ last = (apiClassName title).toList →
      ∀ c ∈ start, c ∈ asciiWhere Char.isAlphanum := by
    intro start last split c hc
    have counts := word c (split ▸ List.mem_append_left _ hc)
    exact mem_asciiWhere (.inl counts) counts
  rcases apiClassName_suffix title with ⟨start, split⟩ | ⟨start, split⟩
  · exact ⟨start, _, split.symm, front split, 'A', _, rfl, by decide, 'p', _, rfl, by decide,
      'i', _, rfl, by decide, rfl⟩
  · exact ⟨start, _, split.symm, front split, 'A', _, rfl, by decide, 'P', _, rfl, by decide,
      'I', _, rfl, by decide, rfl⟩

theorem sketched_smallName {between : List Char} {name : String} (h : IsSmallName between name)
    (ascii : ∀ c ∈ between, c.toNat < 128) :
    Sketched [.many (asciiWhere fun c => isSmall c || between.contains c)] name.toList := by
  refine sketched_many fun c hc => ?_
  rcases h c hc with small | joins
  · exact mem_asciiWhere (.inl (isAlphanum_of_small small)) (by simp [small])
  · exact mem_asciiWhere (.inr (ascii c joins)) (by simp [joins])

section

variable {document : Document} {context : EmitContext} (made : context.Of document)
  (target : Target) (operations : List Operation)
include made

theorem sketched_slot : ∀ name ∈ nameSlots,
    Sketched (slotSketch name) (slotChars target operations context name) := by
  have named := made.named
  simp only [nameSlots, List.forall_mem_cons, slotChars_service, slotChars_className,
    slotChars_package]
  refine ⟨sketched_smallName named.service (by simp), ?_, ?_, List.forall_mem_nil _⟩
  · rw [named.className]
    exact sketched_className _
  · have joined : ∀ {between : List Char} {name : String}, between ⊆ ['-', '_', '.'] →
        IsSmallName between name → Sketched (slotSketch "package") name.toList :=
      fun within small => sketched_smallName (small.mono within) (by simp)
    cases target with
    | go | rust => exact joined (by decide) named.service
    | java => exact joined (by decide) named.package
    | python | typescript => exact sketched_many (List.forall_mem_nil _)

/-- **A filled row is a text of its sketch.** -/
theorem sketched_row {row : List Cell} (names : ∀ name ∈ slotsIn row, name ∈ nameSlots) :
    Sketched (rowSketch row) (fillCells (slotChars target operations context) row) := by
  induction row with
  | nil => rfl
  | cons cell rest ih =>
    cases cell with
    | fixed c => exact ⟨c, _, rfl, List.mem_singleton.mpr rfl, ih names⟩
    | slot name =>
      obtain ⟨here, later⟩ := List.forall_mem_cons.mp names
      exact (sketched_slot made target operations name here).append (ih later)

end

/-! ## 2. What closing rows may hold -/

/-- The line breaks no default rule for the language. -/
def Obeys (language : Language) (line : List Char) : Prop :=
  ∀ rule ∈ defaultRules, rule.appliesTo language = true → rule.brokenBy line = false

/-- The pattern occurs in no text of the sketch. -/
def StaysOff (sketch : Sketch (List Char)) : LinePattern → Prop
  | .pattern p => p.IsProper ∧ p.mayOccur sketch = false
  | .literal _ => False

instance (sketch : Sketch (List Char)) : DecidablePred (StaysOff sketch)
  | .pattern _ => inferInstanceAs (Decidable (_ ∧ _))
  | .literal _ => inferInstanceAs (Decidable False)

/-- What no code calls in a browser. -/
def xhrPattern : Pattern :=
  .all [.ofText "new", .times (.char .blank) 1 none, .ofText "XMLHttpRequest"]

/-- What no code calls in Java. -/
def javaHttpPattern : Pattern :=
  .any [.ofText "HttpClient.new", .ofText "HttpURLConnection",
    .seq (.ofText ".openConnection") callOpen]

/-- The row in which a client is made, where a rule may find the name of its class, and what the
rule looks for. -/
def clientRow? : Target → Option (List Cell × Pattern)
  | .java => some (spelled "        " ++ .slot "class_name" :: spelled " client = new " ++
      .slot "class_name" :: spelled "();", javaHttpPattern)
  | .typescript => some (spelled "export const client = new " ++
      .slot "class_name" :: spelled "();", xhrPattern)
  | .go | .python | .rust => none

/-- What is known of a row after the listing. -/
structure IsClosing (target : Target) (row : List Cell) : Prop where
  names : ∀ name ∈ slotsIn row, name ∈ nameSlots
  no_star : mayHold overlaps [.one (.single '*')] (rowSketch row) = false
  no_slash : canMeet overlaps [.many .blank, .one (.single '/')] (rowSketch row) = false
  no_hash : canMeet overlaps [.many .blank, .one (.single '#')] (rowSketch row) = false
  rules : ∀ rule ∈ defaultRules, rule.appliesTo (languageOf target) = true →
    StaysOff (rowSketch row) rule.pattern ∨
      ∃ entry ∈ clientRow? target, entry.1 = row ∧ rule.pattern = .pattern entry.2

instance (target : Target) (row : List Cell) : Decidable (IsClosing target row) :=
  decidable_of_iff (_ ∧ _ ∧ _ ∧ _ ∧ _)
    ⟨fun h => ⟨h.1, h.2.1, h.2.2.1, h.2.2.2.1, h.2.2.2.2⟩, fun h => ⟨h.1, h.2, h.3, h.4, h.5⟩⟩

theorem closing_rows (target : Target) : ∀ row ∈ target.tailRows, IsClosing target row := by
  cases target <;> decide +kernel

/-- The rule that may find the name of the class. -/
theorem client_row (target : Target) : ∀ entry ∈ clientRow? target, entry.1 ∈ target.tailRows ∧
    ∃ rule ∈ defaultRules, rule.appliesTo (languageOf target) = true ∧
      rule.pattern = .pattern entry.2 ∧ rule.skips = [] := by
  cases target <;> decide +kernel

theorem occursIn_eq_false_of_staysOff {sketch : Sketch (List Char)} {p : LinePattern}
    (h : StaysOff sketch p) {line : List Char} (sketched : Sketched sketch line) :
    p.occursIn line = false := by
  cases p with
  | pattern p => exact occursIn_eq_false h.1 h.2 sketched
  | literal text => cases h

/-- **The closing lines break no default rule**, unless the line does in which a client is made. -/
theorem obeys_closing_iff_row {document : Document} {context : EmitContext}
    (made : context.Of document) (target : Target) (operations : List Operation) :
    (∀ line ∈ target.closing operations context, Obeys (languageOf target) line) ↔
      ∀ entry ∈ clientRow? target,
        entry.2.occursIn (fillCells (slotChars target operations context) entry.1) = false := by
  rw [Target.closing, List.forall_mem_map]
  constructor
  · intro obeys entry he
    obtain ⟨there, rule, hr, applies, pattern, skips⟩ := client_row target entry he
    simpa [Rule.brokenBy, pattern, skips, LinePattern.occursIn] using
      obeys entry.1 there rule hr applies
  · intro made_quietly row hr rule hrule applies
    have closing := closing_rows target row hr
    have none : rule.pattern.occursIn
        (fillCells (slotChars target operations context) row) = false := by
      rcases closing.rules rule hrule applies with off | ⟨entry, he, rfl, pattern⟩
      · exact occursIn_eq_false_of_staysOff off (sketched_row made target operations closing.names)
      · rw [pattern]
        exact made_quietly entry he
    rw [Rule.brokenBy, none, Bool.false_and]

/-! ## 3. The line in which a client is made -/

/-- A class of this name cannot be made without breaking a rule. -/
def IsForbidden (target : Target) (className : String) : Prop :=
  match target with
  | .java => "HttpURLConnection".toList <:+: className.toList
  | .typescript => "XMLHttpRequest".toList <+: className.toList
  | .go | .python | .rust => False

instance (target : Target) (className : String) : Decidable (IsForbidden target className) := by
  unfold IsForbidden
  cases target <;> infer_instance

theorem solid_of_word {name : List Char} (word : IsWord name) {rest : List Char}
    (solid : ∀ c ∈ rest, isBlank c = false) : ∀ c ∈ name ++ rest, isBlank c = false := by
  refine List.forall_mem_append.mpr ⟨fun c hc => ?_, solid⟩
  rw [Bool.eq_false_iff]
  intro blank
  have no_word := not_isWordChar_of_blank blank
  rw [isWordChar_of_alphanum (word.chars c hc)] at no_word
  cases no_word

theorem matches_xhr {before : Option Char} {text rest : List Char} :
    xhrPattern.Matches before text rest ↔ ∃ blank blanks, isBlank blank = true ∧
      (∀ c ∈ blanks, isBlank c = true) ∧
      text = "new".toList ++ blank :: (blanks ++ "XMLHttpRequest".toList) := by
  simp only [xhrPattern, matches_all_cons, matches_ofText, matches_times_char]
  constructor
  · rintro ⟨_, _, rfl, rfl, blanks, _, rfl, ⟨some_blank, _, within⟩, _, _, rfl, rfl, rfl⟩
    obtain ⟨c, more, rfl⟩ := List.exists_cons_of_length_pos some_blank
    obtain ⟨here, others⟩ := List.forall_mem_cons.mp within
    exact ⟨c, more, here, others, by simp⟩
  · rintro ⟨c, more, here, others, rfl⟩
    refine ⟨_, _, rfl, rfl, c :: more, _, rfl, ⟨by simp, by simp, ?_⟩, _, [], by simp, rfl, rfl⟩
    exact List.forall_mem_cons.mpr ⟨here, others⟩

/-- **When the line in TypeScript breaks a rule**: if the name of the class begins so. -/
theorem occursIn_xhr_iff {name : List Char} (word : IsWord name) :
    xhrPattern.occursIn ("export const client = new".toList ++ ' ' :: (name ++ "();".toList)) =
      true ↔ "XMLHttpRequest".toList <+: name := by
  have solid : ∀ c ∈ name ++ "();".toList, isBlank c = false :=
    solid_of_word word (by simp [isBlank])
  rw [occursIn_iff (by decide)]
  constructor
  · rintro ⟨skipped, _, rest, split, found⟩
    obtain ⟨blank, blanks, here, others, rfl⟩ := matches_xhr.mp found
    have cut : "export const client = new".toList ++ ' ' :: (name ++ "();".toList) =
        (skipped ++ "new".toList) ++ blank :: (blanks ++ ("XMLHttpRequest".toList ++ rest)) := by
      simpa using split
    -- no blank comes after the last one of the line, and no other comes after `new`
    have behind : name ++ "();".toList = blanks ++ ("XMLHttpRequest".toList ++ rest) := by
      rcases List.append_eq_append_iff.mp cut with
        ⟨_ | ⟨c, more⟩, _, same⟩ | ⟨_ | ⟨c, more⟩, begin, same⟩
      · exact (List.cons.inj same).2
      · have late : blank ∈ name ++ "();".toList := (List.cons.inj same).2 ▸ by simp
        rw [solid blank late] at here
        cases here
      · exact (List.cons.inj same).2.symm
      · have early : 'w' ∈ "export const client = new".toList.dropLast := by
          rw [begin, List.dropLast_append_of_ne_nil (List.cons_ne_nil c more)]
          simp
        exact absurd early (by decide)
    obtain rfl : blanks = [] := by
      refine List.eq_nil_iff_forall_not_mem.mpr fun c hc => ?_
      have late : c ∈ name ++ "();".toList := behind ▸ List.mem_append_left _ hc
      have blank := others c hc
      rw [solid c late] at blank
      cases blank
    exact (prefix_append_cons_iff (by decide)).mp ⟨rest, behind.symm⟩
  · rintro ⟨more, rfl⟩
    refine ⟨"export const client = ".toList, _, more ++ "();".toList, ?_,
      matches_xhr.mpr ⟨' ', [], rfl, List.forall_mem_nil _, rfl⟩⟩
    simp

/-- **When the line in Java breaks a rule**: if the name of the class holds the name of the
connection. -/
theorem occursIn_javaHttp_iff {name : List Char} (word : IsWord name) :
    javaHttpPattern.occursIn ("       ".toList ++ ' ' :: (name ++ ' ' :: ("client = new".toList ++
      ' ' :: (name ++ '(' :: ");".toList)))) = true ↔ "HttpURLConnection".toList <:+: name := by
  let line := "       ".toList ++ ' ' :: (name ++ ' ' :: ("client = new".toList ++
    ' ' :: (name ++ '(' :: ");".toList)))
  have no_dot : '.' ∉ line := by
    have plain : '.' ∉ name := fun dot => absurd (word.chars _ dot) (by decide)
    simp [line, plain]
  have no_client : ¬(ofText "HttpClient.new").Occurs none line := fun found =>
    not_infix_of_mem (c := '.') (by decide) no_dot (occurs_ofText.mp found)
  have no_opening : ¬(seq (ofText ".openConnection") callOpen).Occurs none line := by
    rintro ⟨skipped, _, rest, split, _, more, rfl, found, _⟩
    refine no_dot ?_
    rw [split, matches_ofText.mp found]
    simp
  have split : javaHttpPattern = alt (ofText "HttpClient.new") (alt (ofText "HttpURLConnection")
      (seq (ofText ".openConnection") callOpen)) := rfl
  have spaced : ∀ {first second : List Char},
      "HttpURLConnection".toList <:+: first ++ ' ' :: second ↔
        "HttpURLConnection".toList <:+: first ∨ "HttpURLConnection".toList <:+: second :=
    infix_append_cons_iff (by decide)
  rw [occursIn_iff (by decide), split, occurs_alt, or_iff_right no_client, occurs_alt,
    or_iff_left no_opening, occurs_ofText, spaced, spaced, spaced,
    infix_append_cons_iff (by decide)]
  have begin : ¬"HttpURLConnection".toList <:+: "       ".toList := by decide
  have middle : ¬"HttpURLConnection".toList <:+: "client = new".toList := by decide
  have last : ¬"HttpURLConnection".toList <:+: ");".toList := by decide
  tauto

/-- **The closing lines break no default rule, unless the class has a forbidden name.** -/
theorem obeys_closing_iff {document : Document} {context : EmitContext}
    (made : context.Of document) (target : Target) (operations : List Operation) :
    (∀ line ∈ target.closing operations context, Obeys (languageOf target) line) ↔
      ¬IsForbidden target context.className := by
  rw [obeys_closing_iff_row made]
  have word := made.wellFormed.className
  cases target with
  | go | python | rust => simp [clientRow?, IsForbidden]
  | java =>
    have iff := occursIn_javaHttp_iff word
    simpa [clientRow?, IsForbidden, spelled, ← Bool.not_eq_true] using not_congr iff
  | typescript =>
    have iff := occursIn_xhr_iff word
    simpa [clientRow?, IsForbidden, spelled, ← Bool.not_eq_true] using not_congr iff

end Covenant.Guard
