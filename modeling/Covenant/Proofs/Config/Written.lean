import Covenant.Config.Document
import Covenant.Proofs.Config.Check
/-!
# A configuration that names the path of the contract

What is read from the text of a configuration that sets nothing but this path.

* `value?_quoted`: a text without escapes is read as what stands between its quotes.
* `read?_contractText`: the text has one table with the path in it.
* `ofToml_contractText`: the path is kept as it is written, if it passes the check.
-/

namespace Covenant.Toml

/-! ## 1. Texts without escapes -/

/-- A character that stands for itself between double quotes. -/
def standsForItself (c : Char) : Bool := isPlain c && c != '"' && c != '\\'

theorem standsForItself_iff {c : Char} :
    standsForItself c = true ↔ isPlain c = true ∧ c ≠ '"' ∧ c ≠ '\\' := by
  simp [standsForItself, and_assoc]

variable {chars : List Char}

theorem quoted?_eq (plain : ∀ c ∈ chars, standsForItself c = true) (rest : List Char) {fuel : Nat}
    (room : chars.length < fuel) : quoted? fuel (chars ++ '"' :: rest) = some (chars, rest) := by
  induction chars generalizing fuel with
  | nil =>
    obtain ⟨fuel, rfl⟩ := Nat.exists_eq_add_one_of_ne_zero (Nat.ne_zero_of_lt room)
    rfl
  | cons c more ih =>
    obtain ⟨fuel, rfl⟩ := Nat.exists_eq_add_one_of_ne_zero (Nat.ne_zero_of_lt room)
    obtain ⟨here, later⟩ := List.forall_mem_cons.mp plain
    obtain ⟨shown, no_quote, no_escape⟩ := standsForItself_iff.mp here
    have read := ih later (Nat.lt_of_succ_lt_succ room)
    rw [List.cons_append, quoted?, if_neg (by simp [no_quote]), if_neg (by simp [no_escape]),
      if_pos shown, read]
    rfl

/-- Two quotes in a row would be those of an empty text or begin a text over several lines. -/
theorem text?_quoted (filled : chars ≠ []) (plain : ∀ c ∈ chars, standsForItself c = true)
    (rest : List Char) : text? ('"' :: (chars ++ '"' :: rest)) = some (chars, rest) := by
  obtain ⟨c, more, rfl⟩ := List.exists_cons_of_ne_nil filled
  obtain ⟨-, no_quote, -⟩ := standsForItself_iff.mp (plain c List.mem_cons_self)
  unfold text?
  split
  · rename_i same
    simp [no_quote] at same
  · rename_i same
    cases same
  · exact quoted?_eq plain rest (by simp)

theorem value?_quoted (filled : chars ≠ []) (plain : ∀ c ∈ chars, standsForItself c = true)
    (rest : List Char) :
    value? ('"' :: (chars ++ '"' :: rest)) = some (.text (.ofList chars), rest) := by
  rw [value?, maxDepth, valueFrom]
  · rw [scalar?, text?_quoted filled plain]
    rfl
  all_goals simp

/-! ## 2. The lines of the text -/

theorem readFrom_header (fuel : Nat) (rest : List Char) :
    Reading.readFrom (fuel + 1) ⟨[], []⟩ ("[contract]\n".toList ++ rest) =
      Reading.readFrom fuel ⟨[("contract", .table .opened [])], ["contract"]⟩ rest := rfl

/-- The line of a path is one of a member. -/
theorem readFrom_member (fuel : Nat) (reading : Reading) (rest : List Char) :
    Reading.readFrom (fuel + 1) reading ('p' :: rest) = (do
      let (reading, rest) ← reading.addMember ('p' :: rest)
      Reading.readFrom fuel reading rest) := rfl

theorem addMember_path (filled : chars ≠ []) (plain : ∀ c ∈ chars, standsForItself c = true) :
    Reading.addMember ⟨[("contract", .table .opened [])], ["contract"]⟩
        ("path = \"".toList ++ (chars ++ ['"', '\n'])) =
      some (⟨[("contract", .table .opened [("path", .text (.ofList chars))])], ["contract"]⟩, []) := by
  have sign : keySign? ("path = \"".toList ++ (chars ++ ['"', '\n'])) =
      some ([], "path", '"' :: (chars ++ ['"', '\n'])) := rfl
  rw [Reading.addMember, sign, Option.bind_eq_bind, Option.bind_some]
  dsimp only
  rw [value?_quoted filled plain]
  rfl

theorem readFrom_lines (filled : chars ≠ []) (plain : ∀ c ∈ chars, standsForItself c = true)
    (fuel : Nat) :
    Reading.readFrom (fuel + 3) ⟨[], []⟩
        ("[contract]\n".toList ++ ("path = \"".toList ++ (chars ++ ['"', '\n']))) =
      some [("contract", .table .opened [("path", .text (.ofList chars))])] := by
  -- what a line is goes by its first character
  have begins : "path = \"".toList ++ (chars ++ ['"', '\n']) =
      'p' :: ("ath = \"".toList ++ (chars ++ ['"', '\n'])) := rfl
  rw [readFrom_header, begins, readFrom_member, ← begins, addMember_path filled plain]
  rfl

end Covenant.Toml

namespace Covenant.Config

open Covenant.Text Covenant.Toml

/-! ## 3. The configuration -/

/-- The text of a configuration that names a path for the contract. -/
def contractText (path : String) : String :=
  "[contract]\n" ++ ("path = \"" ++ (path ++ "\"\n"))

/-- A configuration that sets nothing but the path of the contract. -/
def withContract (path : String) : Config :=
  { default with contract := { ContractSection.default with path } }

variable {path : String}

theorem read?_contractText (filled : path.toList ≠ [])
    (plain : ∀ c ∈ path.toList, standsForItself c = true) :
    read? (contractText path).toList =
      some [("contract", .table .opened [("path", .text path)])] := by
  have chars : (contractText path).toList = "[contract]\n".toList ++
      ("path = \"".toList ++ (path.toList ++ ['"', '\n'])) := by
    rw [contractText, String.toList_append, String.toList_append, String.toList_append]
    rfl
  have length : (contractText path).toList.length = path.toList.length + 18 + 3 := by
    have header : "[contract]\n".toList.length = 11 := rfl
    have sign : "path = \"".toList.length = 8 := rfl
    rw [chars, List.length_append, List.length_append, List.length_append, header, sign]
    simp only [List.length_cons, List.length_nil]
    omega
  have unmarked : ∀ rest, skipMark ("[contract]\n".toList ++ rest) =
      "[contract]\n".toList ++ rest := fun _ => rfl
  rw [read?, length, chars, unmarked, readFrom_lines filled plain, String.ofList_toList]

theorem check_withContract (within : WithinLimits (trimString path)) :
    (withContract path).check = .ok (withContract path) := by
  have contract : (withContract path).contract.check = .ok () :=
    bind_eq_ok_iff.mpr ⟨(), checkPath_eq_ok_iff.mpr within, rfl⟩
  have plan : checkPath "plan.path" PlanSection.default.path = .ok () := by decide +kernel
  have generate : GenerateSection.default.check = .ok .default := by decide +kernel
  exact check_eq_ok_iff.mpr ⟨contract, checkPath_eq_ok_iff.mp plan, rfl, .default, generate, rfl⟩

/-- **The path is kept as it is written**, if it passes the check without the blanks around it. -/
theorem ofToml_contractText (plain : ∀ c ∈ path.toList, standsForItself c = true)
    (within : WithinLimits (trimString path)) :
    ofToml (contractText path) = .ok (withContract path) := by
  have filled : path.toList ≠ [] := fun none => by
    have blank := (blankString_trimString path).symm.trans within.filled
    rw [blankString, none] at blank
    cases blank
  have read : readConfig [("contract", .table .opened [("path", .text path)])] =
      .ok (withContract path) := rfl
  rw [ofToml, read?_contractText filled plain]
  dsimp only
  rw [pure_bind, read]
  exact mapError_eq_ok_iff.mpr (check_withContract within)

end Covenant.Config
