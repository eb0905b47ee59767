/-!
# Bytes as characters

`decode` reads bytes as UTF-8. Bytes that belong to no character come out as `none`: one for the
longest start of a character that is not continued, and one for a byte that starts no character.

* `ofBytes` shows each of them as U+FFFD.
-/

namespace Covenant.Text.Utf8

/-- The number is within bounds. -/
def within (low high : Nat) (n : Nat) : Bool := low ≤ n && n ≤ high

/-- A byte that continues a character. -/
def continues (n : Nat) : Bool := within 0x80 0xBF n

/-- The second bytes that may follow the first byte of a character of three bytes. -/
def secondOfThree (first second : Nat) : Bool :=
  if first == 0xE0 then within 0xA0 0xBF second
  else if first == 0xED then within 0x80 0x9F second
  else continues second

/-- The second bytes that may follow the first byte of a character of four bytes. -/
def secondOfFour (first second : Nat) : Bool :=
  if first == 0xF0 then within 0x90 0xBF second
  else if first == 0xF4 then within 0x80 0x8F second
  else continues second

/-- The number of bytes of a character with a first byte; zero if it starts none. -/
def width (first : Nat) : Nat :=
  if first < 0x80 then 1
  else if within 0xC2 0xDF first then 2
  else if within 0xE0 0xEF first then 3
  else if within 0xF0 0xF4 first then 4
  else 0

/-- The first bytes as a character, or as nothing, and the number of bytes that were used after
the first one. -/
def step (first : Nat) : List Nat → Option Char × Nat
  | [] => (if width first == 1 then some (.ofNat first) else none, 0)
  | second :: rest =>
    match width first with
    | 1 => (some (.ofNat first), 0)
    | 2 =>
      if continues second then (some (.ofNat ((first - 0xC0) * 64 + (second - 0x80))), 1)
      else (none, 0)
    | 3 =>
      if !secondOfThree first second then (none, 0)
      else match rest with
        | third :: _ =>
          if continues third then
            (some (.ofNat ((first - 0xE0) * 4096 + (second - 0x80) * 64 + (third - 0x80))), 2)
          else (none, 1)
        | [] => (none, 1)
    | 4 =>
      if !secondOfFour first second then (none, 0)
      else match rest with
        | third :: more =>
          if !continues third then (none, 1)
          else match more with
            | fourth :: _ =>
              if continues fourth then
                (some (.ofNat ((first - 0xF0) * 262144 + (second - 0x80) * 4096
                  + (third - 0x80) * 64 + (fourth - 0x80))), 3)
              else (none, 2)
            | [] => (none, 2)
        | [] => (none, 1)
    | _ => (none, 0)

/-- The characters of bytes. -/
def decode : List Nat → List (Option Char)
  | [] => []
  | first :: rest =>
    let (c, used) := step first rest
    c :: decode (rest.drop used)
termination_by bytes => bytes.length
decreasing_by simp only [List.length_drop, List.length_cons]; omega

/-- Bytes as numbers. -/
def numbers (bytes : ByteArray) : List Nat := bytes.toList.map UInt8.toNat

/-- What stands for bytes that belong to no character. -/
def replacement : Char := '\uFFFD'

/-- The text of bytes. -/
def ofBytes (bytes : ByteArray) : String :=
  match String.fromUTF8? bytes with
  | some text => text
  | none => .ofList ((decode (numbers bytes)).map (·.getD replacement))

end Covenant.Text.Utf8
