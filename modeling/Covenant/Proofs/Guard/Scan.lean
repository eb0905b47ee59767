import Covenant.Proofs.Guard.Comment
import Covenant.Proofs.Guard.Report
import Covenant.Proofs.Text.Lines
/-!
# What a scan reports

A scan goes through files, through the lines of each and through the rules for each line. What it
finds is one finding for each rule that a line of code breaks.

* `scanFiles_eq`: the three loops as one, in which patterns are asked only whether they occur in a line
  of code. `scanUnder occurs` is this scan with any other answers.
* `mem_codeLinesIn_iff`: the lines of code that are held against the rules.
* `mem_findingsIn_iff` and `findingsIn_pairwise`: the findings are exactly the rules that are broken, in
  the order of files, lines and rules.
* `scan_exact` puts this together for a report and its groups.
-/

namespace Covenant.Guard

open Covenant.Text

variable {language : Language} {rules : List Rule} {files : TextMap String}

/-! ## 1. Lines of code -/

/-- The code of a line, by its number from one on, for a scan that has gone through the lines before
it. -/
def codeAt? (language : Language) (lines : List (List Char)) : Nat → Option (List Char)
  | 0 => none
  | before + 1 => lines[before]?.bind fun line =>
      (codeOf language (rememberedFrom language false (lines.take before)) line).1

theorem mem_codeLines_iff_codeAt? {lines : List (List Char)} {number : Nat}
    {line code : List Char} :
    (number, line, code) ∈ codeLines language false 1 lines ↔
      lines[number - 1]? = some line ∧ codeAt? language lines number = some code := by
  rw [mem_codeLines_iff]
  constructor
  · rintro ⟨before, after, rfl, rfl, looked⟩
    simp [Nat.add_comm 1, codeAt?, looked]
  · rintro ⟨there, looked⟩
    cases number with
    | zero => cases looked
    | succ before =>
      rw [Nat.add_sub_cancel] at there
      obtain ⟨short, rfl⟩ := List.getElem?_eq_some_iff.mp there
      refine ⟨lines.take before, lines.drop (before + 1), ?_, ?_, ?_⟩
      · rw [List.getElem_cons_drop, List.take_append_drop]
      · rw [List.length_take_of_le (Nat.le_of_lt short), Nat.add_comm]
      · simpa [codeAt?, there] using looked

theorem le_of_mem_codeLines {open_ : Bool} {start : Nat} {lines : List (List Char)}
    {found : Nat × List Char × List Char} (h : found ∈ codeLines language open_ start lines) :
    start ≤ found.1 := by
  obtain ⟨before, _, _, count, _⟩ := mem_codeLines_iff.mp h
  omega

/-- Lines of code come in the order of their numbers. -/
theorem codeLines_pairwise (open_ : Bool) (start : Nat) (lines : List (List Char)) :
    (codeLines language open_ start lines).Pairwise fun first second => first.1 < second.1 := by
  induction lines generalizing open_ start with
  | nil => exact .nil
  | cons line rest ih =>
    rw [codeLines]
    rcases codeOf language open_ line with ⟨_ | code, after⟩
    · exact ih after (start + 1)
    · exact .cons (fun found hf => le_of_mem_codeLines hf) (ih after (start + 1))

/-- A line of code in a file. -/
structure CodeLine where
  file : String
  language : Language
  number : Nat
  line : List Char
  code : List Char

/-- The lines of code of a file that are held against rules: none if it is in no known language or is
marked as a generated client. -/
def codeLinesOf (file contents : String) : List CodeLine :=
  match Language.ofPath? file with
  | none => []
  | some language =>
    if isMarked (lines contents.toList) then []
    else (codeLines language false 1 (lines contents.toList)).map fun found =>
      { file, language, number := found.1, line := found.2.1, code := found.2.2 }

/-- The lines of code of some files that are held against rules. -/
def codeLinesIn (files : TextMap String) : List CodeLine :=
  files.toList.flatMap fun file => codeLinesOf file.1 file.2

/-- A line of code is in one of the files, which has these contents, is in a known language and has no
marker in its first five lines. -/
structure IsHeld (files : TextMap String) (contents : String) (found : CodeLine) : Prop where
  stored : files.get? found.file = some contents
  known : Language.ofPath? found.file = some found.language
  unmarked : ∀ line ∈ (lines contents.toList).take markerLines, ¬clientMarker.toList <:+: line
  there : (lines contents.toList)[found.number - 1]? = some found.line
  looked : codeAt? found.language (lines contents.toList) found.number = some found.code

theorem isMarked_eq_false_iff {lines : List (List Char)} :
    isMarked lines = false ↔ ∀ line ∈ lines.take markerLines, ¬clientMarker.toList <:+: line := by
  simp only [isMarked, List.any_eq_false, contains_iff]

theorem mem_codeLinesOf_iff {file contents : String} {found : CodeLine} :
    found ∈ codeLinesOf file contents ↔
      found.file = file ∧ Language.ofPath? file = some found.language ∧
        isMarked (lines contents.toList) = false ∧
          (found.number, found.line, found.code) ∈
            codeLines found.language false 1 (lines contents.toList) := by
  obtain ⟨path, language, number, line, code⟩ := found
  rw [codeLinesOf]
  cases known : Language.ofPath? file with
  | none => simp
  | some other =>
    cases marked : isMarked (lines contents.toList) with
    | true => simp
    | false =>
      simp only [Bool.false_eq_true, if_false, List.mem_map, Prod.exists, CodeLine.mk.injEq,
        Option.some.injEq, true_and]
      constructor
      · rintro ⟨_, _, _, there, rfl, rfl, rfl, rfl, rfl⟩
        exact ⟨rfl, rfl, there⟩
      · rintro ⟨rfl, rfl, there⟩
        exact ⟨_, _, _, there, rfl, rfl, rfl, rfl, rfl⟩

/-- **The lines of code that are held against rules.** -/
theorem mem_codeLinesIn_iff {found : CodeLine} :
    found ∈ codeLinesIn files ↔ ∃ contents, IsHeld files contents found := by
  simp only [codeLinesIn, List.mem_flatMap, Prod.exists, ← TextMap.get?_eq_some_iff,
    mem_codeLinesOf_iff, mem_codeLines_iff_codeAt?, isMarked_eq_false_iff]
  constructor
  · rintro ⟨_, contents, stored, rfl, known, unmarked, there, looked⟩
    exact ⟨contents, stored, known, unmarked, there, looked⟩
  · rintro ⟨contents, stored, known, unmarked, there, looked⟩
    exact ⟨_, contents, stored, rfl, known, unmarked, there, looked⟩

/-- Lines of code come in the order of the files and in each in the order of their numbers. -/
theorem codeLinesIn_pairwise (files : TextMap String) :
    (codeLinesIn files).Pairwise fun first second =>
      utf8Bytes first.file < utf8Bytes second.file ∨
        first.file = second.file ∧ first.number < second.number := by
  refine List.pairwise_flatMap.mpr ⟨fun file _ => ?_, files.rising.imp fun lt a ha b hb => ?_⟩
  · unfold codeLinesOf
    split
    · exact .nil
    · split
      · exact .nil
      · exact List.pairwise_map.mpr ((codeLines_pairwise _ _ _).imp fun lt => .inr ⟨rfl, lt⟩)
  · rw [(mem_codeLinesOf_iff.mp ha).1, (mem_codeLinesOf_iff.mp hb).1]
    exact .inl (utf8_lt_iff.mpr lt)

/-! ## 2. The scan as one loop -/

/-- Which patterns occur in a line. -/
abbrev Matching := List Char → LinePattern → Bool

variable {occurs : Matching}

/-- The line breaks a rule for its language, if patterns occur as `occurs` says. -/
def CodeLine.breaks (occurs : Matching) (found : CodeLine) (rule : Rule) : Bool :=
  rule.appliesTo found.language &&
    (occurs found.code rule.pattern && !rule.skips.any (occurs found.code))

/-- What is reported of a line that breaks a rule. -/
def CodeLine.violation (found : CodeLine) (rule : Rule) : Violation :=
  ⟨rule.name, found.file, found.number, rule.message, .ofList (trim found.line)⟩

/-- The report on files by path, if patterns occur as `occurs` says. -/
def scanUnder (occurs : Matching) (rules : List Rule) (files : TextMap String) : Report where
  scanned := files.keys.countP fun file => (Language.ofPath? file).isSome
  violations := (codeLinesIn files).flatMap fun found =>
    (rules.filter (found.breaks occurs)).map found.violation

theorem violations_scanFile (rules : List Rule) (file contents : String) :
    (scanFile rules file contents).violations = (codeLinesOf file contents).flatMap fun found =>
      (rules.filter (found.breaks LinePattern.occursIn)).map found.violation := by
  rw [scanFile, codeLinesOf]
  cases Language.ofPath? file with
  | none => rfl
  | some language =>
    simp only [scanLines]
    split
    · rfl
    · rw [List.flatMap_map]
      refine List.flatMap_congr fun found _ => ?_
      rw [violationsIn, List.filter_filter]
      refine congrArg (List.map _) (List.filter_congr fun rule _ => ?_)
      exact Bool.and_comm _ _

/-- **A scan goes through lines of code and asks which rules they break.** -/
theorem scanFiles_eq (rules : List Rule) (files : TextMap String) :
    scanFiles rules files = scanUnder LinePattern.occursIn rules files := by
  have scanned : (scanFiles rules files).scanned =
      (scanUnder LinePattern.occursIn rules files).scanned :=
    (isReportOn_scanFiles rules files).scanned.trans
      (List.countP_congr fun _ _ => decide_eq_true_iff)
  have violations : (scanFiles rules files).violations =
      (scanUnder LinePattern.occursIn rules files).violations := by
    simp only [scanFiles, concat_eq, List.flatMap_map, violations_scanFile, scanUnder, codeLinesIn,
      List.flatMap_assoc]
  exact Report.mk.injEq .. ▸ ⟨scanned, violations⟩

/-! ## 3. Findings -/

/-- A rule, by its position in a list of rules, and a line of code. -/
structure Finding extends CodeLine where
  position : Nat
  rule : Rule

/-- What is reported of a finding. -/
def Finding.violation (finding : Finding) : Violation :=
  finding.toCodeLine.violation finding.rule

/-- One finding comes before another: its file does in the order of bytes, or in the same file its
line, or on the same line its rule. -/
def Finding.Before (first second : Finding) : Prop :=
  utf8Bytes first.file < utf8Bytes second.file ∨
    first.file = second.file ∧ (first.number < second.number ∨
      first.number = second.number ∧ first.position < second.position)

/-- A line of code in one of the files breaks one of the rules: the rule applies to the language of the
file, its pattern occurs in the code, and none of its skips does. -/
structure IsFinding (occurs : Matching) (rules : List Rule) (files : TextMap String)
    (finding : Finding) : Prop where
  held : ∃ contents, IsHeld files contents finding.toCodeLine
  listed : rules[finding.position]? = some finding.rule
  applies : ∀ languages, finding.rule.languages = some languages → finding.language ∈ languages
  found : occurs finding.code finding.rule.pattern = true
  unskipped : ∀ skip ∈ finding.rule.skips, occurs finding.code skip = false

/-- The findings in some files, file by file, line by line and rule by rule. -/
def findingsIn (occurs : Matching) (rules : List Rule) (files : TextMap String) : List Finding :=
  (codeLinesIn files).flatMap fun found =>
    (rules.zipIdx.filter fun rule => found.breaks occurs rule.1).map fun rule =>
      { found with rule := rule.1, position := rule.2 }

theorem violations_scanUnder :
    (scanUnder occurs rules files).violations =
      (findingsIn occurs rules files).map Finding.violation := by
  rw [scanUnder, findingsIn, List.map_flatMap]
  refine List.flatMap_congr fun found _ => ?_
  have numbered : rules.filter (found.breaks occurs) =
      (rules.zipIdx.filter fun rule => found.breaks occurs rule.1).map Prod.fst := by
    conv_lhs => rw [← List.zipIdx_map_fst 0 rules, List.filter_map]
    rfl
  rw [numbered, List.map_map, List.map_map]
  rfl

theorem breaks_iff {found : CodeLine} {rule : Rule} :
    found.breaks occurs rule = true ↔
      (∀ languages, rule.languages = some languages → found.language ∈ languages) ∧
        occurs found.code rule.pattern = true ∧ ∀ skip ∈ rule.skips, occurs found.code skip = false := by
  have applies : rule.appliesTo found.language = true ↔
      ∀ languages, rule.languages = some languages → found.language ∈ languages := by
    rw [Rule.appliesTo]
    cases rule.languages <;> simp
  rw [CodeLine.breaks, Bool.and_eq_true, applies]
  simp

/-- **The findings are exactly the rules that are broken.** -/
theorem mem_findingsIn_iff {finding : Finding} :
    finding ∈ findingsIn occurs rules files ↔ IsFinding occurs rules files finding := by
  simp only [findingsIn, List.mem_flatMap, List.mem_map, List.mem_filter, Prod.exists,
    List.mem_zipIdx_iff_getElem?, mem_codeLinesIn_iff, breaks_iff]
  constructor
  · rintro ⟨found, held, rule, position, ⟨listed, applies, occurs, unskipped⟩, rfl⟩
    exact ⟨held, listed, applies, occurs, unskipped⟩
  · rintro ⟨held, listed, applies, occurs, unskipped⟩
    exact ⟨_, held, _, _, ⟨listed, applies, occurs, unskipped⟩, rfl⟩

/-- **Findings come in the order of files, lines and rules**, none of them twice. -/
theorem findingsIn_pairwise (occurs : Matching) (rules : List Rule) (files : TextMap String) :
    (findingsIn occurs rules files).Pairwise Finding.Before := by
  have positions : rules.zipIdx.Pairwise fun first second => first.2 < second.2 := by
    rw [← List.pairwise_map, List.zipIdx_map_snd]
    exact List.pairwise_lt_range'
  refine List.pairwise_flatMap.mpr ⟨fun found _ => ?_,
    (codeLinesIn_pairwise files).imp fun before a ha b hb => ?_⟩
  · exact List.pairwise_map.mpr ((positions.filter _).imp fun lt => .inr ⟨rfl, .inr ⟨rfl, lt⟩⟩)
  · obtain ⟨_, _, rfl⟩ := List.mem_map.mp ha
    obtain ⟨_, _, rfl⟩ := List.mem_map.mp hb
    exact before.imp_right fun ⟨same, lt⟩ => ⟨same, .inl lt⟩

/-- A report lists what breaks the rules: the findings, each once, by file, line and rule. It counts the
files in known languages, and its groups by rule hold the list between them in its order. -/
structure IsExact (occurs : Matching) (rules : List Rule) (files : TextMap String)
    (report : Report) : Prop where
  listed : ∃ findings : List Finding,
    (∀ finding, finding ∈ findings ↔ IsFinding occurs rules files finding) ∧
    findings.Pairwise Finding.Before ∧ report.violations = findings.map Finding.violation
  counted : report.scanned = files.keys.countP fun file => (Language.ofPath? file).isSome
  grouped : IsGrouping report.grouped report.violations

theorem isExact_scanUnder (occurs : Matching) (rules : List Rule) (files : TextMap String) :
    IsExact occurs rules files (scanUnder occurs rules files) where
  listed := ⟨findingsIn occurs rules files, fun _ => mem_findingsIn_iff,
    findingsIn_pairwise occurs rules files, violations_scanUnder⟩
  counted := rfl
  grouped := isGrouping_grouped _

/-- **A report is exact and ordered**, for all rules, whatever their names, and all files. A scan asks of
a pattern only whether it occurs in a line of code; so the same holds of every scan in which these
answers are others. -/
theorem scan_exact (rules : List Rule) (files : TextMap String) :
    IsExact LinePattern.occursIn rules files (scanFiles rules files) ∧
      scanFiles rules files = scanUnder LinePattern.occursIn rules files ∧
      ∀ occurs, IsExact occurs rules files (scanUnder occurs rules files) := by
  have one_loop := scanFiles_eq rules files
  refine ⟨?_, one_loop, fun occurs => isExact_scanUnder occurs rules files⟩
  rw [one_loop]
  exact isExact_scanUnder LinePattern.occursIn rules files

end Covenant.Guard
