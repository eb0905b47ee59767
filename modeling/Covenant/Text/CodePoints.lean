import Covenant.Text.Split
/-!
# Tables over code points

* `inRanges rs n` says that `n` lies in one of the closed ranges `rs`.
* `rangesOf` reads closed ranges written in hexadecimal.
* A `ShiftRun` maps every `step`-th code point from `first` to `last` by adding `shift`.
-/

namespace Covenant.Text

/-! ## 1. Ranges -/

/-- `n` lies in one of the closed ranges. -/
def inRanges (ranges : List (Nat × Nat)) (n : Nat) : Bool :=
  ranges.any fun range => range.1 ≤ n && n ≤ range.2

/-- The number that hexadecimal digits, in capitals, stand for. -/
def hexNumber (digits : List Char) : Nat :=
  digits.foldl (fun n c => n * 16 + if c.isDigit then c.toNat - 48 else c.toNat - 55) 0

/-- The range that a word such as `41-5A` or `5F` stands for. -/
def rangeOf (word : List Char) : Nat × Nat :=
  match splitAtChar '-' word with
  | [first, last] => (hexNumber first, hexNumber last)
  | _ => (hexNumber word, hexNumber word)

/-- The ranges in lines of words with blanks between. -/
def rangesOf (lines : List String) : List (Nat × Nat) :=
  lines.flatMap fun line => (fields line.toList).map rangeOf

/-! ## 2. Shifts -/

/-- Code points that move by one distance. -/
structure ShiftRun where
  first : Nat
  last : Nat
  step : Nat
  shift : Int

/-- `n` is one of the code points of the run. -/
def ShiftRun.covers (run : ShiftRun) (n : Nat) : Bool :=
  run.first ≤ n && n ≤ run.last && (n - run.first) % run.step == 0

/-- The image of `n` under the run that covers it. -/
def shiftBy? (runs : List ShiftRun) (n : Nat) : Option Nat :=
  (runs.find? (·.covers n)).map fun run => ((n : Int) + run.shift).toNat

end Covenant.Text
