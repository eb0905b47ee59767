import Covenant.Proofs.Guard.Closing
import Covenant.Proofs.Guard.Comment
/-!
# When a generated project passes the default rules

* `codesOf` is what a scan looks at in some lines; `codesOf_append`: it goes through them one part
  after another.
* `codesOf_heading` and `codesOf_closing`: of an entry point it looks at nothing in the heading, and
  at nothing in the closing lines if a block comment is taken to be open there.
* `isClean_iff`: when the report on a generated project is clean.
-/

namespace Covenant.Guard

open Covenant.Client Covenant.Contract Covenant.Naming Covenant.Pattern Covenant.Text

/-! ## 1. What is looked at -/

section

variable {language : Language}

/-- The code of lines that is held against the rules. -/
def codesOf (language : Language) : Bool → List (List Char) → List (List Char)
  | _, [] => []
  | open_, line :: rest =>
    (codeOf language open_ line).1.toList ++ codesOf language (codeOf language open_ line).2 rest

theorem map_codeLines (open_ : Bool) (number : Nat) (lines : List (List Char)) :
    (codeLines language open_ number lines).map (fun found => found.2.2) =
      codesOf language open_ lines := by
  induction lines generalizing open_ number with
  | nil => rfl
  | cons line rest ih =>
    rw [codeLines, codesOf, ← ih _ (number + 1)]
    rcases codeOf language open_ line with ⟨_ | code, after⟩ <;> rfl

theorem codesOf_append (open_ : Bool) (first second : List (List Char)) :
    codesOf language open_ (first ++ second) = codesOf language open_ first ++
      codesOf language (rememberedFrom language open_ first) second := by
  induction first generalizing open_ with
  | nil => rfl
  | cons line rest ih =>
    rw [List.cons_append, codesOf, ih, codesOf, List.append_assoc]
    rfl

/-- **A file has no violations** just if it is marked or what is looked at in it breaks no rule. -/
theorem scanLines_eq_nil_iff {file : String} {lines : List (List Char)} :
    scanLines defaultRules file language lines = [] ↔
      isMarked lines = true ∨ ∀ code ∈ codesOf language false lines, Obeys language code := by
  unfold scanLines
  split
  · rename_i marked
    simp [marked]
  · rename_i unmarked
    simp only [List.flatMap_eq_nil_iff, violationsIn, List.map_eq_nil_iff, List.filter_eq_nil_iff,
      ← map_codeLines false 1 lines, List.forall_mem_map, unmarked, Bool.false_eq_true,
      false_or, List.mem_filter,
      Obeys, and_imp, Bool.not_eq_true]

/-- Lines of which each is left out, and after which no block comment is remembered. -/
theorem codesOf_idle {lines : List (List Char)}
    (idle : ∀ line ∈ lines, codeOf language false line = (none, false)) :
    codesOf language false lines = [] ∧ rememberedFrom language false lines = false := by
  induction lines with
  | nil => exact ⟨rfl, rfl⟩
  | cons line rest ih =>
    obtain ⟨here, later⟩ := List.forall_mem_cons.mp idle
    obtain ⟨none, closed⟩ := ih later
    refine ⟨?_, ?_⟩
    · rw [codesOf, here, none]
      rfl
    · rw [rememberedFrom, List.foldl_cons, here]
      exact closed

/-- Nothing is looked at where a block comment is open and no line ends it. -/
theorem codesOf_open (slash : language.hasSlashComments = true) {lines : List (List Char)}
    (unended : ∀ line ∈ lines, '*' ∉ line) : codesOf language true lines = [] := by
  have no_end : ∀ line : List Char, '*' ∉ line → afterBlock? line = none := by
    intro line star
    fun_induction afterBlock? line with
    | case1 => rfl
    | case2 rest => simp at star
    | case3 c rest _ ih => exact ih fun later => star (List.mem_cons_of_mem _ later)
  induction lines with
  | nil => rfl
  | cons line rest ih =>
    obtain ⟨here, later⟩ := List.forall_mem_cons.mp unended
    have skipped : codeOf language true line = (none, true) := by
      simp [codeOf, slash, slashCode, no_end line here]
    rw [codesOf, skipped, ih later]
    rfl

/-- A block comment is remembered only where there are block comments. -/
theorem slash_of_remembered {lines : List (List Char)}
    (remembers : rememberedFrom language false lines = true) :
    language.hasSlashComments = true := by
  by_contra other
  have closed : ∀ line, (codeOf language false line).2 = false := by
    intro line
    rw [codeOf, if_neg other]
    split <;> rfl
  have never : rememberedFrom language false lines = false := by
    induction lines with
    | nil => rfl
    | cons line rest ih =>
      rw [rememberedFrom, List.foldl_cons, closed] at remembers ⊢
      exact ih remembers
  rw [never] at remembers
  cases remembers

/-- The first character of a line that is not blank begins no comment. -/
def BeginsPlain (line : List Char) : Prop :=
  ∀ c rest, trimStart line = c :: rest → c ≠ '/' ∧ c ≠ '#'

/-- Such a line is looked at as it is, unless it is blank. -/
theorem codeOf_plain {line : List Char} (plain : BeginsPlain line) :
    (codeOf language false line).2 = false ∧
      ((codeOf language false line).1 = some line ∨
        (codeOf language false line).1 = none ∧ trimStart line = []) := by
  unfold codeOf
  split
  · rw [slashCode, if_neg Bool.false_ne_true, codeOutside]
    split
    · rename_i inner start
      exact absurd rfl (plain _ _ start).1
    · rename_i start
      exact absurd rfl (plain _ _ start).1
    · rename_i start
      exact ⟨rfl, .inr ⟨rfl, start⟩⟩
    · exact ⟨rfl, .inl rfl⟩
  · have no_hash : ((trimStart line).head? == some '#') = false := by
      rcases start : trimStart line with _ | ⟨c, rest⟩
      · rfl
      · simpa using (plain c rest start).2
    rw [no_hash]
    exact ⟨rfl, .inl rfl⟩

/-- The blank characters. -/
def blankChars : List Char :=
  (List.range' 0x09 5 ++ [0x20, 0x85, 0xA0, 0x1680] ++ List.range' 0x2000 11 ++
    [0x2028, 0x2029, 0x202F, 0x205F, 0x3000]).map Char.ofNat

theorem mem_blankChars {c : Char} (h : isBlank c = true) : c ∈ blankChars := by
  refine List.mem_map.mpr ⟨c.toNat, ?_, Char.ofNat_toNat c⟩
  simp only [isBlank, Bool.or_eq_true, Bool.and_eq_true, decide_eq_true_eq, beq_iff_eq] at h
  simp only [List.mem_append, List.mem_range'_1, List.mem_cons, List.not_mem_nil, or_false]
  omega

/-- A blank line breaks no rule. -/
theorem obeys_blank {line : List Char} (blank : trimStart line = []) : Obeys language line := by
  have off : ∀ rule ∈ defaultRules, StaysOff [.many blankChars] rule.pattern := by decide +kernel
  have sketched : Sketched [.many blankChars] line :=
    sketched_many fun c hc => mem_blankChars (List.dropWhile_eq_nil_iff.mp blank c hc)
  intro rule hr _
  rw [Rule.brokenBy, occursIn_eq_false_of_staysOff (off rule hr) sketched, Bool.false_and]

/-- Of lines that begin no comment the code obeys the rules just if the lines do. -/
theorem obeys_codesOf_iff {lines : List (List Char)} (plain : ∀ line ∈ lines, BeginsPlain line) :
    (∀ code ∈ codesOf language false lines, Obeys language code) ↔
      ∀ line ∈ lines, Obeys language line := by
  induction lines with
  | nil => simp [codesOf]
  | cons line rest ih =>
    obtain ⟨here, later⟩ := List.forall_mem_cons.mp plain
    obtain ⟨closed, looked⟩ : (codeOf language false line).2 = false ∧ _ := codeOf_plain here
    rw [codesOf, closed, List.forall_mem_append, ih later, List.forall_mem_cons]
    refine and_congr_left fun _ => ?_
    rcases looked with whole | ⟨none, blank⟩
    · simp [whole]
    · simpa [none] using obeys_blank blank

end

/-! ## 2. The lines of an entry point -/

/-- A line that begins with what begins a comment is left out. -/
theorem codeOf_comment (target : Target) (rest : List Char) :
    codeOf (languageOf target) false (target.dialect.comment.toList ++ rest) = (none, false) := by
  have slashes : codeOutside ('/' :: '/' :: rest) = (none, false) := by
    have start : trimStart ('/' :: '/' :: rest) = '/' :: '/' :: rest := by
      simp [trimStart, show isBlank '/' = false by decide]
    rw [codeOutside]
    split
    · rename_i inner found
      simp [start] at found
    · rfl
    · rfl
    · rename_i other _
      exact absurd start (other rest)
  have hash : trimStart ('#' :: rest) = '#' :: rest := by
    simp [trimStart, show isBlank '#' = false by decide]
  cases target with
  | go | java | rust | typescript => exact slashes
  | python =>
    have line : Target.python.dialect.comment.toList ++ rest = '#' :: rest := rfl
    rw [line, codeOf, if_neg (by decide), hash]
    rfl

theorem codesOf_heading (target : Target) (context : EmitContext) :
    codesOf (languageOf target) false ((target.heading context).map String.toList) = [] ∧
      rememberedFrom (languageOf target) false ((target.heading context).map String.toList) =
        false := by
  refine codesOf_idle ?_
  simp only [Target.heading, List.map_cons, List.map_nil, List.forall_mem_cons,
    String.toList_append, List.append_assoc]
  refine ⟨codeOf_comment _ _, codeOf_comment _ _, ?_, codeOf_comment _ _, List.forall_mem_nil _⟩
  simpa using codeOf_comment target []

section

variable {document : Document} {context : EmitContext} (made : context.Of document)
  (target : Target) (operations : List Operation)
include made

theorem no_star_closing : ∀ line ∈ target.closing operations context, '*' ∉ line := by
  rw [Target.closing, List.forall_mem_map]
  intro row hr star
  have closing := closing_rows target row hr
  have sketched := sketched_row made target operations closing.names
  obtain ⟨before, after, split⟩ := List.append_of_mem star
  have within : ['*'] <:+: fillCells (slotChars target operations context) row :=
    ⟨before, after, by simp [split]⟩
  exact not_follows_infix closing.no_star sketched within
    ⟨'*', [], rfl, contains_single.mpr rfl, rfl⟩

theorem beginsPlain_closing : ∀ line ∈ target.closing operations context, BeginsPlain line := by
  rw [Target.closing, List.forall_mem_map]
  intro row hr c rest start
  have closing := closing_rows target row hr
  have sketched := sketched_row made target operations closing.names
  generalize fillCells (slotChars target operations context) row = line at start sketched
  have begins : line.takeWhile isBlank ++ [c] <+: line := by
    refine ⟨rest, ?_⟩
    rw [List.append_assoc, List.singleton_append, ← start, takeWhile_append_trimStart]
  have follows : Follows [.many .blank, .one (.single c)] (line.takeWhile isBlank ++ [c]) :=
    ⟨_, _, rfl, blank_of_mem_takeWhile line, c, [], rfl, contains_single.mpr rfl, rfl⟩
  constructor
  · rintro rfl
    exact not_follows_prefix closing.no_slash sketched begins follows
  · rintro rfl
    exact not_follows_prefix closing.no_hash sketched begins follows

/-- **What is looked at in the closing lines obeys the rules** just if a block comment is taken to
be open before them, or if the class has no forbidden name. -/
theorem obeys_codesOf_closing_iff {lines : List (List Char)} :
    (∀ code ∈ codesOf (languageOf target) (rememberedFrom (languageOf target) false lines)
        (target.closing operations context), Obeys (languageOf target) code) ↔
      rememberedFrom (languageOf target) false lines = true ∨
        ¬IsForbidden target context.className := by
  cases remembers : rememberedFrom (languageOf target) false lines with
  | true =>
    have slash := slash_of_remembered remembers
    simp [codesOf_open slash (no_star_closing made target operations)]
  | false =>
    rw [obeys_codesOf_iff (beginsPlain_closing made target operations), obeys_closing_iff made]
    simp

/-- **When the entry point of a project has no violations.** -/
theorem violations_entry_iff {file : String} :
    scanLines defaultRules file (languageOf target) (lines
        (weaveFile target operations context target.dialect.templates.entry).text.toList) = [] ↔
      (∃ text ∈ leadingTexts document operations, containsString clientMarker text = true) ∨
      (∀ code ∈ codesOf (languageOf target) false
          (listingLines target.dialect.comment operations), Obeys (languageOf target) code) ∧
        (rememberedFrom (languageOf target) false
            (listingLines target.dialect.comment operations) = true ∨
          ¬IsForbidden target context.className) := by
  obtain ⟨no_code, closed⟩ := codesOf_heading target context
  rw [scanLines_eq_nil_iff, isMarked_entry_iff made, lines_entry made, List.append_assoc,
    codesOf_append, codesOf_append, no_code, closed, List.nil_append, List.forall_mem_append,
    obeys_codesOf_closing_iff made]

end

/-! ## 3. Reports on projects -/

/-- A listing of ids without line feeds is nothing but comment. -/
theorem codesOf_listing {target : Target} {operations : List Operation}
    (plain : ∀ operation ∈ operations, '\n' ∉ operation.id.toList) :
    (∀ code ∈ codesOf (languageOf target) false
        (listingLines target.dialect.comment operations), Obeys (languageOf target) code) ∧
      rememberedFrom (languageOf target) false
        (listingLines target.dialect.comment operations) = false := by
  by_cases filled : operations = []
  · subst filled
    have empty : listingLines target.dialect.comment [] = [[]] := rfl
    have begins : BeginsPlain [] := fun c rest start => by cases start
    rw [empty, obeys_codesOf_iff (List.forall_mem_singleton.mpr begins)]
    exact ⟨List.forall_mem_singleton.mpr (obeys_blank rfl), (codeOf_plain begins).1⟩
  · have lines : listingLines target.dialect.comment operations =
        (operations.map (listedLine target.dialect.comment)).map dropReturn := by
      refine congrArg (List.map dropReturn)
        (splitWhere_operationComments lineBreaks_feed filled fun operation ho c hc => ?_)
      simpa using fun e : c = '\n' => plain operation ho (e ▸ hc)
    have idle : ∀ line ∈ listingLines target.dialect.comment operations,
        codeOf (languageOf target) false line = (none, false) := by
      rw [lines, List.map_map, List.forall_mem_map]
      intro operation _
      have no_return : '\r' ∉ target.dialect.comment.toList := by
        cases target <;> decide
      obtain ⟨rest, line⟩ := prefix_dropReturn no_return
        (comment_prefix_listedLine target.dialect.comment operation)
      rw [Function.comp_apply, ← line]
      exact codeOf_comment target rest
    obtain ⟨none, closed⟩ := codesOf_idle idle
    exact ⟨none ▸ List.forall_mem_nil _, closed⟩

/-- The files of a project in known languages are its entry point and its client module. -/
theorem known_perm_weaveProject {document : Document} {context : EmitContext}
    (made : context.Of document) (target : Target) (operations : List Operation) :
    [((target.dialect.layout context).entry,
        (weaveFile target operations context target.dialect.templates.entry).text),
      ((target.dialect.layout context).client,
        (weaveFile target operations context target.dialect.templates.client).text)].Perm
      ((weaveProject target operations context).toList.filter fun file => IsKnown file.1) := by
  have keyed := areKeyed_of_emit made (emit_eq_weave target operations context)
  obtain ⟨other, _⟩ := List.nodup_cons.mp (keys_nodup target made.wellFormed)
  have apart : (target.dialect.layout context).entry ≠ (target.dialect.layout context).client :=
    fun same => other (same ▸ .head _)
  refine (List.perm_ext_iff_of_nodup (by simp [apart]) (keyed.distinct.of_map.filter _)).mpr
    fun file => ?_
  simpa [List.mem_filter] using (known_weaveProject_iff made target operations file).symm

/-- What a scan shows of a file whose language is known. -/
theorem scanFile_of_language {rules : List Rule} {path text : String} {language : Language}
    (h : Language.ofPath? path = some language) :
    scanFile rules path text = ⟨1, scanLines rules path language (lines text.toList)⟩ := by
  rw [scanFile, h]

/-- **A scan of a project looks at its entry point and its client module.** -/
theorem scanFiles_weaveProject {document : Document} {context : EmitContext}
    (made : context.Of document) (target : Target) (operations : List Operation)
    (rules : List Rule) :
    (scanFiles rules (weaveProject target operations context)).scanned = 2 ∧
      ((scanFiles rules (weaveProject target operations context)).isClean = true ↔
        scanLines rules (target.dialect.layout context).entry (languageOf target) (lines
            (weaveFile target operations context target.dialect.templates.entry).text.toList) = [] ∧
          scanLines rules (target.dialect.layout context).client (languageOf target) (lines
            (weaveFile target operations context target.dialect.templates.client).text.toList) =
              []) := by
  have languages := ofPath?_layout target made.wellFormed.className
  simp only [Layout.keys, List.map_cons, List.map_nil, List.cons.injEq, and_true] at languages
  obtain ⟨entry_language, client_language, _⟩ := languages
  obtain ⟨scanned, violations⟩ := (isReportOn_scanFiles rules _).agree
    (.of_known (known_perm_weaveProject made target operations))
  simp only [reportIn, concat_eq, List.map_cons, List.map_nil, scanFile_of_language entry_language,
    scanFile_of_language client_language, List.flatMap_cons, List.flatMap_nil,
    List.append_nil] at scanned violations
  refine ⟨scanned, ?_⟩
  rw [Report.isClean, List.isEmpty_iff, ← List.length_eq_zero_iff, violations.length_eq,
    List.length_eq_zero_iff, List.append_eq_nil_iff]

/-- **When a generated project passes the default rules.** Its entry point has to be exempt, or what
its listing shows besides comment has to obey the rules, and then the class must not have a
forbidden name unless the listing leaves a block comment open. If no id has a line feed, only the
name counts. -/
theorem isClean_iff {document : Document} {context : EmitContext} (made : context.Of document)
    {language : String} {target : Target} (meant : Target.resolve? language = some target)
    (operations : List Operation) :
    ∃ files, emit operations language context = .ok files ∧
      (scanFiles defaultRules files).scanned = 2 ∧
      ((scanFiles defaultRules files).isClean = true ↔
        (∃ text ∈ leadingTexts document operations, containsString clientMarker text = true) ∨
        (∀ code ∈ codesOf (languageOf target) false
            (listingLines target.dialect.comment operations), Obeys (languageOf target) code) ∧
          (rememberedFrom (languageOf target) false
              (listingLines target.dialect.comment operations) = true ∨
            ¬IsForbidden target context.className)) ∧
      ((∀ operation ∈ operations, '\n' ∉ operation.id.toList) →
        ((scanFiles defaultRules files).isClean = true ↔
          (∃ text ∈ leadingTexts document operations, containsString clientMarker text = true) ∨
            ¬IsForbidden target context.className)) := by
  obtain ⟨scanned, clean⟩ := scanFiles_weaveProject made target operations defaultRules
  have client : scanLines defaultRules (target.dialect.layout context).client (languageOf target)
      (lines (weaveFile target operations context target.dialect.templates.client).text.toList) =
        [] := scanLines_eq_nil_iff.mpr (.inl (isMarked_client made target operations))
  rw [and_iff_left client, violations_entry_iff made] at clean
  refine ⟨weaveProject target operations context, ?_, scanned, clean, fun plain => ?_⟩
  · simp only [emit, meant, emit_eq_weave]
    rfl
  · obtain ⟨obeys, closed⟩ := codesOf_listing plain
    rw [clean, closed, or_iff_right Bool.false_ne_true]
    exact or_congr_right (and_iff_right obeys)

/-- The project of a plain contract passes. -/
theorem pets_project_clean :
    Target.resolve? "typescript" = some .typescript ∧
      (∀ operation ∈ (titled "Pets").extract none, '\n' ∉ operation.id.toList) ∧
      ∃ files, emit ((titled "Pets").extract none) "typescript" (.ofDocument (titled "Pets")) =
          .ok files ∧
        (scanFiles defaultRules files).scanned = 2 ∧
        (scanFiles defaultRules files).isClean = true := by
  have meant : Target.resolve? "typescript" = some .typescript := resolve?_id .typescript
  have plain : ∀ operation ∈ (titled "Pets").extract none, '\n' ∉ operation.id.toList := by
    decide +kernel
  have allowed : ¬IsForbidden .typescript (EmitContext.ofDocument (titled "Pets")).className := by
    decide +kernel
  obtain ⟨files, emitted, scanned, _, clean⟩ :=
    isClean_iff .given meant ((titled "Pets").extract none)
  exact ⟨meant, plain, files, emitted, scanned, (clean plain).mpr (.inr allowed)⟩

/-- The project of a contract of this title does not: the entry point makes a client of the class
`XMLHttpRequestApi`. -/
theorem xhr_project_unclean :
    ∃ files, emit ((titled "XMLHttpRequest").extract none) "typescript"
        (.ofDocument (titled "XMLHttpRequest")) = .ok files ∧
      (scanFiles defaultRules files).scanned = 2 ∧
      (scanFiles defaultRules files).isClean = false := by
  have made : EmitContext.Of (titled "XMLHttpRequest") (.ofDocument (titled "XMLHttpRequest")) :=
    .given
  have meant : Target.resolve? "typescript" = some .typescript := resolve?_id .typescript
  have plain : ∀ operation ∈ (titled "XMLHttpRequest").extract none,
      '\n' ∉ operation.id.toList := by
    decide +kernel
  have unmarked : ¬∃ text ∈ leadingTexts (titled "XMLHttpRequest")
      ((titled "XMLHttpRequest").extract none), containsString clientMarker text = true := by
    decide +kernel
  have forbidden : IsForbidden .typescript
      (EmitContext.ofDocument (titled "XMLHttpRequest")).className := by
    decide +kernel
  obtain ⟨scanned, clean⟩ := scanFiles_weaveProject made .typescript
    ((titled "XMLHttpRequest").extract none) defaultRules
  refine ⟨_, ?_, scanned, Bool.eq_false_iff.mpr fun passes => ?_⟩
  · simp only [emit, meant, emit_eq_weave]
    rfl
  · have closed : rememberedFrom (languageOf .typescript) false _ = false :=
      (codesOf_listing plain).2
    rcases (violations_entry_iff made .typescript _).mp (clean.mp passes).1 with marked | obeys
    · exact unmarked marked
    · rcases obeys.2 with opened | allowed
      · rw [closed] at opened
        cases opened
      · exact allowed forbidden

end Covenant.Guard
