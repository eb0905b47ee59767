import Covenant.Guard.Scan
import Covenant.Proofs.Text.Ordered
import Mathlib.Algebra.GroupWithZero.Nat
import Mathlib.Data.List.Perm.Basic
/-!
# Reports

* `IsReportOn rules files report`: the report is what scanning the files in some order gives; it counts
  the files in known languages.
* `IsGrouping groups violations`: the groups go by the names of rules, one group for each, and hold the
  violations between them in their order.
* `isGrouping_grouped`: this is how a report groups what it lists.
-/

namespace Covenant.Guard

open Covenant.Text

variable {rules : List Rule}

/-! ## 1. Reports on files -/

theorem foldl_append_eq (reports : List Report) (first : Report) :
    reports.foldl Report.append first =
      ⟨first.scanned + (reports.map Report.scanned).sum,
        first.violations ++ reports.flatMap Report.violations⟩ := by
  induction reports generalizing first with
  | nil => simp
  | cons second rest ih => simp [ih, Report.append, Nat.add_assoc]

/-- Reports put together count and list what each of them counts and lists. -/
theorem concat_eq (reports : List Report) :
    Report.concat reports =
      ⟨(reports.map Report.scanned).sum, reports.flatMap Report.violations⟩ := by
  simp [Report.concat, foldl_append_eq, Report.empty]

/-- The report on files in this order. -/
def reportIn (rules : List Rule) (files : List (String × String)) : Report :=
  .concat (files.map fun file => scanFile rules file.1 file.2)

/-- The report on files in some order. -/
def IsReportOn (rules : List Rule) (files : List (String × String)) (report : Report) : Prop :=
  ∃ order : List (String × String), order.Perm files ∧ report = reportIn rules order

/-- What is scanned in memory is scanned in the order of the keys. -/
theorem isReportOn_scanFiles (rules : List Rule) (files : TextMap String) :
    IsReportOn rules files.toList (scanFiles rules files) := ⟨files.toList, .refl _, rfl⟩

/-- **Two reports on the same files count the same and find the same**, whatever the orders. -/
theorem IsReportOn.agree {files : List (String × String)} {report other : Report}
    (h : IsReportOn rules files report) (g : IsReportOn rules files other) :
    report.scanned = other.scanned ∧ report.violations.Perm other.violations := by
  obtain ⟨first, hf, rfl⟩ := h
  obtain ⟨second, hs, rfl⟩ := g
  have same := hf.trans hs.symm
  simp only [reportIn, concat_eq]
  exact ⟨((same.map _).map _).sum_nat, (same.map _).flatMap_right _⟩

/-- The file is in a language that is scanned. -/
def IsKnown (key : String) : Prop := (Language.ofPath? key).isSome = true

instance (key : String) : Decidable (IsKnown key) :=
  inferInstanceAs (Decidable (_ = true))

/-- A file in a known language counts. -/
theorem scanFile_of_known {path text : String} (known : (Language.ofPath? path).isSome) :
    scanFile rules path text = ⟨1, (scanFile rules path text).violations⟩ := by
  obtain ⟨language, h⟩ := Option.isSome_iff_exists.mp known
  simp [scanFile, h]

theorem scanned_scanFile (rules : List Rule) (key text : String) :
    (scanFile rules key text).scanned = if IsKnown key then 1 else 0 := by
  split
  · rename_i known
    rw [scanFile_of_known known]
  · rename_i unknown
    have none := Option.not_isSome_iff_eq_none.mp unknown
    simp [scanFile, none, Report.empty]

/-- **A report counts the files that are in a known language.** -/
theorem IsReportOn.scanned {files : List (String × String)} {report : Report}
    (h : IsReportOn rules files report) :
    report.scanned = (files.map Prod.fst).countP fun key => IsKnown key := by
  obtain ⟨order, perm, rfl⟩ := h
  rw [← (perm.map Prod.fst).countP_eq]
  simp only [reportIn, concat_eq, List.map_map]
  clear perm
  induction order with
  | nil => rfl
  | cons file rest ih => simp [scanned_scanFile, ih, List.countP_cons, Nat.add_comm]

/-- Files in no known language add nothing to a report. -/
theorem reportIn_append_unknown {files unknown : List (String × String)}
    (h : ∀ file ∈ unknown, ¬IsKnown file.1) :
    reportIn rules (files ++ unknown) = reportIn rules files := by
  have nothing : ∀ file ∈ unknown, scanFile rules file.1 file.2 = .empty := fun file hf => by
    have none := Option.not_isSome_iff_eq_none.mp (h file hf)
    simp [scanFile, none]
  have empty : unknown.map (fun file => scanFile rules file.1 file.2) =
      unknown.map fun _ => Report.empty := List.map_congr_left nothing
  simp [reportIn, concat_eq, empty, Report.empty, Function.comp_def]

/-- What the files in known languages show is a report on all of them. -/
theorem IsReportOn.of_known {files known : List (String × String)}
    (h : known.Perm (files.filter fun file => IsKnown file.1)) :
    IsReportOn rules files (reportIn rules known) := by
  have unknown : ∀ file ∈ files.filter (fun file => ¬IsKnown file.1), ¬IsKnown file.1 :=
    fun file hf => by simpa using (List.mem_filter.mp hf).2
  refine ⟨known ++ files.filter fun file => ¬IsKnown file.1, ?_,
    (reportIn_append_unknown unknown).symm⟩
  refine (h.append_right _).trans ?_
  simpa using List.filter_append_perm (fun file => decide (IsKnown file.1)) files

/-! ## 2. Groups -/

/-- Groups of what breaks each rule: the names rise, no group is empty or holds what breaks another
rule, each group keeps the order, and nothing is lost or there twice. -/
structure IsGrouping (groups : List (String × List Violation)) (violations : List Violation) :
    Prop where
  rise : (groups.map Prod.fst).Pairwise fun a b => utf8Bytes a < utf8Bytes b
  filled : ∀ group ∈ groups, group.2 ≠ []
  named : ∀ group ∈ groups, ∀ violation ∈ group.2, violation.rule = group.1
  ordered : ∀ group ∈ groups, group.2.Sublist violations
  whole : (groups.flatMap Prod.snd).Perm violations

/-- The members with each of some keys are together the members with any of them. -/
theorem flatMap_filter_perm {α : Type} {key : α → String} {keys : List String}
    (distinct : keys.Nodup) (l : List α) :
    (keys.flatMap fun k => l.filter fun a => key a == k).Perm
      (l.filter fun a => keys.contains (key a)) := by
  induction keys with
  | nil => simp
  | cons first rest ih =>
    obtain ⟨apart, later⟩ := List.nodup_cons.mp distinct
    rw [List.flatMap_cons]
    refine ((ih later).append_left _).trans ?_
    -- what has the first key, and what has not, of what has any of the keys
    refine .trans (.of_eq ?_) (List.filter_append_perm (fun a => key a == first) _)
    rw [List.filter_filter, List.filter_filter]
    congr 1 <;> refine List.filter_congr fun a _ => ?_
    · by_cases same : key a = first <;> simp [same]
    · by_cases same : key a = first
      · simp [same, apart]
      · simp [same]

/-- **A report groups what it lists by the rules that are broken.** -/
theorem isGrouping_grouped (report : Report) : IsGrouping report.grouped report.violations := by
  have broken : ∀ name, name ∈ report.brokenRules ↔
      ∃ violation ∈ report.violations, violation.rule = name := fun name => by
    rw [Report.brokenRules, mem_ofList, List.mem_map]
  have names : report.grouped.map Prod.fst = report.brokenRules := by
    simp [Report.grouped, Function.comp_def]
  refine ⟨?_, ?_, ?_, ?_, ?_⟩
  · rw [names]
    exact toList_utf8_rise _
  · intro group hg
    obtain ⟨name, hn, rfl⟩ := List.mem_map.mp hg
    obtain ⟨violation, hv, same⟩ := (broken name).mp hn
    exact List.ne_nil_of_mem (List.mem_filter.mpr ⟨hv, beq_iff_eq.mpr same⟩)
  · intro group hg violation hv
    obtain ⟨name, _, rfl⟩ := List.mem_map.mp hg
    exact beq_iff_eq.mp (List.mem_filter.mp hv).2
  · intro group hg
    obtain ⟨name, _, rfl⟩ := List.mem_map.mp hg
    exact List.filter_sublist
  · have all : (report.violations.filter fun violation =>
        report.brokenRules.contains violation.rule) = report.violations :=
      List.filter_eq_self.mpr fun violation hv =>
        List.contains_iff_mem.mpr ((broken _).mpr ⟨violation, hv, rfl⟩)
    rw [Report.grouped, List.flatMap_map]
    exact (flatMap_filter_perm (nodup_toList _) report.violations).trans (.of_eq all)

end Covenant.Guard
