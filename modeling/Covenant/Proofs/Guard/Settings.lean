import Covenant.Proofs.Guard.Scan
import Covenant.Proofs.Result
/-!
# What settings change in a report

Settings leave rules out and give others more skips. Neither touches what a scan looks at, so all that
they do to a report is to take something out of it.

* `rules_eq_thin`: the rules under settings are the default rules that they do not leave out, each with
  the skips that they give it.
* `scanUnder_thin`: of a report under any rules, settings keep what they do not suppress.
* `Settings.Alike`: settings that say the same of every default rule; the rest of them is ignored.
* `settings_only_suppress` puts this together for what a scan finds.
-/

namespace Covenant.Guard

open Covenant.Pattern Covenant.Text

variable {settings : Settings} {rules : List Rule} {occurs : Matching} {files : TextMap String}

/-! ## 1. Rules -/

/-- The skips that settings give to the rules of a name. -/
def Settings.skipsFor (settings : Settings) (name : String) : List LinePattern :=
  ((settings.extraSkips.get? name).getD []).filterMap fun text =>
    (Pattern.read? text).map .pattern

/-- A rule with these skips besides its own. -/
def Rule.adding (rule : Rule) (extra : List LinePattern) : Rule :=
  { rule with skips := rule.skips ++ extra }

/-- Rules without those that settings leave out, each with the skips that they give it. -/
def Settings.thin (settings : Settings) (rules : List Rule) : List Rule :=
  (rules.filter fun rule => !settings.disabled.contains rule.name).map fun rule =>
    rule.adding (settings.skipsFor rule.name)

theorem read?_of_patternOf {rule text : String} {pattern : LinePattern}
    (h : patternOf rule text = .ok pattern) :
    (Pattern.read? text).map .pattern = some pattern := by
  unfold patternOf at h
  split at h
  · rename_i read
    cases h
    rw [read, Option.map_some]
  · cases h

/-- **The rules under settings**, if every skip of a rule that applies can be read. -/
theorem rules_eq_thin (built : settings.rules = .ok rules) : rules = settings.thin defaultRules := by
  have added : ∀ rule result : Rule,
      rule.withSkips ((settings.extraSkips.get? rule.name).getD []) = .ok result →
        some (rule.adding (settings.skipsFor rule.name)) = some result := by
    intro rule result h
    obtain ⟨extra, read, h⟩ := bind_eq_ok_iff.mp h
    cases h
    rw [Rule.adding, Settings.skipsFor,
      eq_filterMap_of_mapM_eq_ok (fun _ _ => read?_of_patternOf) read]
  exact (eq_filterMap_of_mapM_eq_ok added built).trans (congrFun List.filterMap_eq_map _)

/-- No skip of a rule that applies is ignored. -/
theorem readable_of_built (built : settings.rules = .ok rules) {rule : Rule}
    (listed : rule ∈ defaultRules) (applies : settings.disabled.contains rule.name = false)
    {text : String} (given : text ∈ (settings.extraSkips.get? rule.name).getD []) :
    ∃ pattern, Pattern.read? text = some pattern := by
  have kept : rule ∈ defaultRules.filter fun rule => !settings.disabled.contains rule.name :=
    List.mem_filter.mpr ⟨listed, by rw [applies, Bool.not_false]⟩
  obtain ⟨result, added⟩ := ok_of_mem_of_mapM_eq_ok built kept
  obtain ⟨extra, read, _⟩ := bind_eq_ok_iff.mp added
  obtain ⟨pattern, one⟩ := ok_of_mem_of_mapM_eq_ok read given
  exact (Option.map_eq_some_iff.mp (read?_of_patternOf one)).imp fun _ => And.left

theorem rules_none : Settings.none.rules = .ok defaultRules := rfl

/-- Settings say the same of every default rule. -/
def Settings.Alike (first second : Settings) : Prop :=
  ∀ rule ∈ defaultRules, first.disabled.contains rule.name = second.disabled.contains rule.name ∧
    first.extraSkips.get? rule.name = second.extraSkips.get? rule.name

/-- What settings say of other names has no effect. -/
theorem Settings.Alike.rules_eq {other : Settings} (h : other.Alike settings) :
    other.rules = settings.rules := by
  have kept : (defaultRules.filter fun rule => !other.disabled.contains rule.name) =
      defaultRules.filter fun rule => !settings.disabled.contains rule.name :=
    List.filter_congr fun rule member => by rw [(h rule member).1]
  rw [Settings.rules, Settings.rules, kept]
  refine mapM_congr fun rule member => ?_
  rw [(h rule (List.mem_of_mem_filter member)).2]

/-! ## 2. Reports -/

/-- The code of a line of a file, by its number. -/
def codeIn? (files : TextMap String) (file : String) (number : Nat) : Option (List Char) := do
  let contents ← files.get? file
  let language ← Language.ofPath? file
  codeAt? language (lines contents.toList) number

/-- Settings suppress what is found if they leave out its rule, or if a skip that they give to the rule
occurs in the code of the line. -/
def Settings.suppresses (settings : Settings) (occurs : Matching) (files : TextMap String)
    (violation : Violation) : Bool :=
  settings.disabled.contains violation.rule ||
    (codeIn? files violation.file violation.number).any fun code =>
      (settings.skipsFor violation.rule).any (occurs code)

/-- A report without some of what it lists. -/
def Report.without (report : Report) (dropped : Violation → Bool) : Report :=
  { report with violations := report.violations.filter fun violation => !dropped violation }

theorem breaks_adding (found : CodeLine) (rule : Rule) (extra : List LinePattern) :
    found.breaks occurs (rule.adding extra) =
      (found.breaks occurs rule && !extra.any (occurs found.code)) := by
  simp only [CodeLine.breaks, Rule.adding, Rule.appliesTo, List.any_append, Bool.not_or,
    Bool.and_assoc]

theorem suppresses_violation {found : CodeLine} (held : found ∈ codeLinesIn files) (rule : Rule) :
    settings.suppresses occurs files (found.violation rule) =
      (settings.disabled.contains rule.name ||
        (settings.skipsFor rule.name).any (occurs found.code)) := by
  obtain ⟨contents, stored, known, _, _, looked⟩ := mem_codeLinesIn_iff.mp held
  have code : codeIn? files found.file found.number = some found.code := by
    simp [codeIn?, stored, known, looked]
  simp [Settings.suppresses, CodeLine.violation, code]

/-- **Settings keep of a report what they do not suppress**, whatever the rules. -/
theorem scanUnder_thin (settings : Settings) (occurs : Matching) (rules : List Rule)
    (files : TextMap String) :
    scanUnder occurs (settings.thin rules) files =
      (scanUnder occurs rules files).without (settings.suppresses occurs files) := by
  rw [scanUnder, Report.without, scanUnder, List.filter_flatMap]
  refine congrArg (Report.mk _) (List.flatMap_congr fun found held => ?_)
  rw [Settings.thin, List.filter_map, List.map_map, List.filter_map, List.filter_filter,
    List.filter_filter]
  -- the same rules are broken on the line, and a skip more does not change what is said of them
  refine congrArg (List.map _) (List.filter_congr fun rule _ => ?_)
  simp only [Function.comp_apply, breaks_adding, suppresses_violation held, Bool.not_or]
  ac_rfl

/-- **Settings only suppress, and exactly what they name.** What a scan finds under them is what it finds
under the default rules, in the same order, without the rules that they leave out and without the lines
in whose code a skip occurs that they give to the rule. This holds of every scan in which other patterns
occur. Of the skips of a rule that applies none is ignored; other settings that say the same of every
default rule are built into the same rules. -/
theorem settings_only_suppress (built : settings.rules = .ok rules) (files : TextMap String) :
    Settings.none.rules = .ok defaultRules ∧
      scanFiles rules files =
        (scanFiles defaultRules files).without (settings.suppresses LinePattern.occursIn files) ∧
      (∀ occurs, scanUnder occurs rules files =
        (scanUnder occurs defaultRules files).without (settings.suppresses occurs files)) ∧
      (∀ rule ∈ defaultRules, settings.disabled.contains rule.name = false →
        ∀ text ∈ (settings.extraSkips.get? rule.name).getD [],
          ∃ pattern, Pattern.read? text = some pattern) ∧
      ∀ other : Settings, other.Alike settings → other.rules = .ok rules := by
  obtain rfl := rules_eq_thin built
  refine ⟨rules_none, ?_, fun occurs => scanUnder_thin settings occurs defaultRules files,
    fun rule listed applies text => readable_of_built built listed applies,
    fun other alike => alike.rules_eq.trans built⟩
  rw [scanFiles_eq, scanFiles_eq]
  exact scanUnder_thin settings LinePattern.occursIn defaultRules files

/-- Settings that name two default rules. -/
def twoNames : Settings where
  disabled := .ofList ["no-raw-url"]
  extraSkips := .ofList [("no-fetch", ["allowed-f.tch"])]

/-- Settings that name two rules besides that there are not, one with a text that is no pattern. -/
def fourNames : Settings where
  disabled := twoNames.disabled.insert "no-such-rule"
  extraSkips := twoNames.extraSkips.insert "no-other-rule" ["("]

/-- A file with a call that is allowed, a call and an address. -/
def threeLines : TextMap String :=
  .ofList [("a.ts", "fetch(u) // allowed-fetch\nfetch(u)\nconst u = \"https://x.io\";\n")]

/-- Of the three lines in which something is found, one is left. -/
theorem one_line_left :
    fourNames.rules = .ok (fourNames.thin defaultRules) ∧ twoNames.rules = fourNames.rules ∧
      (scanFiles defaultRules threeLines).violations.map (·.number) = [1, 2, 3] ∧
      (scanFiles (fourNames.thin defaultRules) threeLines).violations.map (·.number) = [2] := by
  have built : fourNames.rules = .ok (fourNames.thin defaultRules) := by decide +kernel
  obtain ⟨-, suppressed, -, -, alike⟩ := settings_only_suppress built threeLines
  refine ⟨built, (alike twoNames ?_).trans built.symm, by decide +kernel, ?_⟩
  · unfold Settings.Alike
    decide +kernel
  · rw [suppressed]
    decide +kernel

end Covenant.Guard
