import Covenant.Config.Document
import Covenant.Proofs.Result
import Covenant.Proofs.Text.Blank
/-!
# Configurations that are accepted

What is known of a configuration, of its sections and of its paths when the check lets them pass.

* `checkPath_eq_ok_iff`: a path passes just if it is within the limits without the blanks around it.
* `GenerateSection.check_eq_ok_iff`, `check_eq_ok_iff`: of what a check changes nothing but the
  languages, and of what it asks.
* `check_of_ofToml`: what is read from a text has passed.
-/

namespace Covenant.Config

open Covenant.Files Covenant.Text

/-! ## 1. Paths -/

/-- A path that is not blank, has at most 4096 bytes and has no part of more than 255 bytes. -/
structure WithinLimits (path : String) : Prop where
  filled : blankString path = false
  short : path.utf8ByteSize ≤ 4096
  parts : ∀ part ∈ Path.components path, part.text.utf8ByteSize ≤ 255

instance (path : String) : Decidable (WithinLimits path) :=
  decidable_of_iff (blankString path = false ∧ path.utf8ByteSize ≤ 4096 ∧
      ∀ part ∈ Path.components path, part.text.utf8ByteSize ≤ 255)
    ⟨fun ⟨filled, short, parts⟩ => ⟨filled, short, parts⟩, fun h => ⟨h.filled, h.short, h.parts⟩⟩

theorem partLength_eq (part : Component) : partLength part = part.text.utf8ByteSize := by
  cases part <;> rfl

theorem checkFilled_eq_ok_iff {setting value : String} :
    checkFilled setting value = .ok () ↔ blankString value = false := by
  rw [checkFilled]
  by_cases blank : blankString value = true
  · simp [blank]
  · simp [blank]

theorem checkLengths_eq_ok_iff {setting path : String} :
    checkLengths setting path = .ok () ↔ path.utf8ByteSize ≤ 4096 ∧
      ∀ part ∈ Path.components path, part.text.utf8ByteSize ≤ 255 := by
  have parts : (Path.components path).any (maxPart < partLength ·) = false ↔
      ∀ part ∈ Path.components path, part.text.utf8ByteSize ≤ 255 := by
    simp [partLength_eq, maxPart]
  rw [← parts, checkLengths]
  by_cases long : maxPath < path.utf8ByteSize
  · have beyond : ¬path.utf8ByteSize ≤ 4096 := Nat.not_le.mpr long
    simp [long, beyond]
  · have within : path.utf8ByteSize ≤ 4096 := Nat.not_lt.mp long
    cases (Path.components path).any (maxPart < partLength ·) <;> simp [long, within]

theorem blankString_trimString (value : String) :
    blankString (trimString value) = blankString value := by
  rw [Bool.eq_iff_iff, blankString, blankString, trimString, String.toList_ofList,
    ← trim_eq_nil_iff, ← trim_eq_nil_iff, trim_trim]

/-- **A path passes just if it is within the limits without the blanks around it.** -/
theorem checkPath_eq_ok_iff {setting value : String} :
    checkPath setting value = .ok () ↔ WithinLimits (trimString value) := by
  rw [checkPath, bind_eq_ok_iff]
  constructor
  · rintro ⟨_, filled, lengths⟩
    obtain ⟨short, parts⟩ := checkLengths_eq_ok_iff.mp lengths
    exact ⟨(blankString_trimString value).trans (checkFilled_eq_ok_iff.mp filled), short, parts⟩
  · intro h
    have filled := (blankString_trimString value).symm.trans h.filled
    exact ⟨(), checkFilled_eq_ok_iff.mpr filled, checkLengths_eq_ok_iff.mpr ⟨h.short, h.parts⟩⟩

/-! ## 2. Sections -/

theorem ContractSection.withinLimits_of_check {contract : ContractSection}
    (h : contract.check = .ok ()) : WithinLimits (trimString contract.path) := by
  obtain ⟨_, path, _⟩ := bind_eq_ok_iff.mp h
  exact checkPath_eq_ok_iff.mp path

theorem forM_checkFilled_eq_ok_iff {setting : String} {value : Option String} :
    value.forM (checkFilled setting) = .ok () ↔ ∀ text ∈ value, blankString text = false := by
  cases value with
  | none => simp [pure, Except.pure]
  | some text => simp [checkFilled_eq_ok_iff]

/-- **What the check asks of the section on generation, and makes of it.** -/
theorem GenerateSection.check_eq_ok_iff {generate checked : GenerateSection} :
    generate.check = .ok checked ↔
      WithinLimits (trimString generate.outputDir) ∧ generate.languages ≠ [] ∧
        checkName "generate.service_name" generate.serviceName = .ok () ∧
        checkName "generate.package_name" generate.packageName = .ok () ∧
        (∀ url ∈ generate.baseUrl, blankString url = false) ∧
        ∃ languages, canonicalLanguages generate.languages = .ok languages ∧
          checked = { generate with languages } := by
  have filled : ¬generate.languages.isEmpty = true ↔ generate.languages ≠ [] := by simp
  have steps : generate.check = do
      checkPath "generate.output_dir" generate.outputDir
      if generate.languages.isEmpty then throw (.empty "generate.languages")
      let languages ← canonicalLanguages generate.languages
      checkName "generate.service_name" generate.serviceName
      checkName "generate.package_name" generate.packageName
      generate.baseUrl.forM (checkFilled "generate.base_url")
      return { generate with languages } := by
    rw [check]
    cases generate.baseUrl <;> rfl
  rw [steps]
  simp only [bind_eq_ok_iff, ite_throw_eq_ok_iff, pure, Except.pure, Except.ok.injEq]
  rw [filled]
  constructor
  · rintro ⟨_, output, some_language, languages, known, _, service, _, package, _, address, rfl⟩
    exact ⟨checkPath_eq_ok_iff.mp output, some_language, service, package,
      forM_checkFilled_eq_ok_iff.mp address, languages, known, rfl⟩
  · rintro ⟨output, some_language, service, package, address, languages, known, rfl⟩
    exact ⟨(), checkPath_eq_ok_iff.mpr output, some_language, languages, known, (), service, (),
      package, (), forM_checkFilled_eq_ok_iff.mpr address, rfl⟩

/-- **What the check asks of a configuration, and makes of it.** -/
theorem check_eq_ok_iff {config checked : Config} :
    config.check = .ok checked ↔
      config.contract.check = .ok () ∧ WithinLimits (trimString config.plan.path) ∧
        config.guard.check = .ok () ∧
        ∃ generate, config.generate.check = .ok generate ∧ checked = { config with generate } := by
  simp only [check, bind_eq_ok_iff, pure, Except.pure, Except.ok.injEq]
  constructor
  · rintro ⟨_, contract, generate, generated, _, plan, _, guarded, rfl⟩
    exact ⟨contract, checkPath_eq_ok_iff.mp plan, guarded, generate, generated, rfl⟩
  · rintro ⟨contract, plan, guarded, generate, generated, rfl⟩
    exact ⟨(), contract, generate, generated, (), checkPath_eq_ok_iff.mpr plan, (), guarded, rfl⟩

/-- What is read from a text is what the check makes of something. -/
theorem check_of_ofToml {text : String} {config : Config} (h : ofToml text = .ok config) :
    ∃ written : Config, written.check = .ok config := by
  rw [ofToml] at h
  cases members : Toml.read? text.toList with
  | none =>
    rw [members] at h
    cases h
  | some members =>
    obtain ⟨written, _, checked⟩ := bind_eq_ok_iff.mp (by simpa [members] using h)
    exact ⟨written, mapError_eq_ok_iff.mp checked⟩

end Covenant.Config
