import Covenant.Text.CaseTable
/-!
# Upper and lower case

The full case mappings of Unicode, in which one character may become several.

* `upperOf c` and `lowerOf c` are the mappings of a character on its own.
* `toLower s` lowers a text. A capital sigma becomes the final form `ς` where a cased
  character stands before it and none after it, the characters with `Case_Ignorable` not
  counted, and `σ` elsewhere.
-/

namespace Covenant.Text

/-! ## 1. Single characters -/

/-- The characters with the property `Cased`. -/
def isCased (c : Char) : Bool := inRanges CaseTable.casedRanges c.toNat

/-- The characters with the property `Case_Ignorable`. -/
def isCaseIgnorable (c : Char) : Bool := inRanges CaseTable.caseIgnorableRanges c.toNat

/-- The upper-case form of a character, at least one character long. -/
def upperOf (c : Char) : List Char :=
  if c.toNat < 0x80 then [c.toUpper]
  else match CaseTable.upperSpecial.lookup c.toNat with
    | some points => points.map Char.ofNat
    | none => [((shiftBy? CaseTable.upperRuns c.toNat).map Char.ofNat).getD c]

/-- The lower-case form of a character outside of any text, at least one character long. -/
def lowerOf (c : Char) : List Char :=
  if c.toNat < 0x80 then [c.toLower]
  else if c == 'İ' then ['i', '\u0307']
  else [((shiftBy? CaseTable.lowerRuns c.toNat).map Char.ofNat).getD c]

/-! ## 2. Texts -/

/-- The first character that is not case-ignorable is cased. -/
def beginsCased (s : List Char) : Bool :=
  match s.dropWhile isCaseIgnorable with
  | [] => false
  | c :: _ => isCased c

/-- Lowers `s`, which stands after the reversed text `before`. -/
def lowerAfter (before : List Char) : List Char → List Char
  | [] => []
  | c :: r =>
    (if c == 'Σ' then [if beginsCased before && !beginsCased r then 'ς' else 'σ'] else lowerOf c)
      ++ lowerAfter (c :: before) r

/-- The lower-case form of a text. -/
def toLower (s : List Char) : List Char := lowerAfter [] s

/-- The lower-case form of a string. -/
def lowerString (s : String) : String := .ofList (toLower s.toList)

/-- A string in which the ASCII capitals, and no others, are lowered. -/
def lowerAscii (s : String) : String := .ofList (s.toList.map Char.toLower)

end Covenant.Text
