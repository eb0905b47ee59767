import Covenant.Decimal.Numeral
import Covenant.Text.Split
import Covenant.Text.Utf8
/-!
# Names of hosts

What may stand for a host in an address of the web: an address of the internet's sixth version in
brackets, an address of its fourth version, or a name.

* A name is read after its percent signs are resolved. A name that ends in a number is an address
  of the fourth version, or no host at all.
* Letters beyond ASCII are taken as they are.
-/

namespace Covenant.Web

open Covenant.Decimal Covenant.Text

/-! ## 1. Addresses of the fourth version -/

/-- A digit of the numbers to the base 16. -/
def isHexDigit (c : Char) : Bool :=
  c.isDigit || ('a' ≤ c && c ≤ 'f') || ('A' ≤ c && c ≤ 'F')

/-- The number of a digit to the base 16. -/
def hexValue (c : Char) : Nat :=
  if c.isDigit then digitValue c else c.toLower.toNat - 'a'.toNat + 10

/-- The number that digits to a base stand for. -/
def readBase (base : Nat) (digits : List Char) : Nat :=
  digits.foldl (fun n c => n * base + hexValue c) 0

/-- A number with the sign of its base before it: `0x` for 16, `0` for 8, nothing for 10. -/
def baseNumber? : List Char → Option Nat
  | [] => none
  | '0' :: 'x' :: digits => readOf 16 isHexDigit digits
  | '0' :: 'X' :: digits => readOf 16 isHexDigit digits
  | ['0'] => some 0
  | '0' :: digits => readOf 8 (fun c => '0' ≤ c && c ≤ '7') digits
  | digits => readOf 10 Char.isDigit digits
where
  /-- The number of digits to a base, if they are digits to this base. -/
  readOf (base : Nat) (isDigit : Char → Bool) (digits : List Char) : Option Nat :=
    if digits.all isDigit then some (readBase base digits) else none

/-- A list without an empty piece at its end. -/
def dropEmptyEnd (pieces : List (List Char)) : List (List Char) :=
  if pieces.getLast? == some [] then pieces.dropLast else pieces

/-- A name whose last part is a number. -/
def endsInNumber (name : List Char) : Bool :=
  match (dropEmptyEnd (splitAtChar '.' name)).getLast? with
  | some part => !part.isEmpty && (part.all Char.isDigit || (baseNumber? part).isSome)
  | none => false

/-- An address of the fourth version: up to four numbers, of which the last one fills what is left
of four bytes. -/
def isFourthVersion (name : List Char) : Bool :=
  let parts := dropEmptyEnd (splitAtChar '.' name)
  match (parts.map baseNumber?).reverse with
  | some last :: before =>
    parts.length ≤ 4 && last < Nat.pow 256 (4 - before.length)
      && before.all fun number => number.any (· < 256)
  | _ => false

/-! ## 2. Addresses of the sixth version -/

/-- One to four digits to the base 16. -/
def isGroup (group : List Char) : Bool :=
  !group.isEmpty && group.length ≤ 4 && group.all isHexDigit

/-- A number below 256 without needless zeros. -/
def isByte (digits : List Char) : Bool :=
  !digits.isEmpty && digits.all Char.isDigit && (digits.length == 1 || digits.head? != some '0')
    && readDigits digits < 256

/-- Four numbers with points between them. -/
def isQuad (s : List Char) : Bool :=
  let parts := splitAtChar '.' s
  parts.length == 4 && parts.all isByte

/-- The number of pairs of bytes that groups stand for; the last group may be four numbers with
points if nothing follows it. -/
def pairsIn? (last : Bool) : List (List Char) → Option Nat
  | [] => some 0
  | [group] => if isGroup group then some 1 else if last && isQuad group then some 2 else none
  | group :: rest => if isGroup group then (pairsIn? last rest).map (· + 1) else none

/-- The groups of a text with colons between them; the empty text has none. -/
def groupsOf (s : List Char) : List (List Char) :=
  if s.isEmpty then [] else splitAtChar ':' s

/-- What stands before and after the first two colons in a row. -/
def splitAtGap? : List Char → Option (List Char × List Char)
  | ':' :: ':' :: rest => some ([], rest)
  | c :: rest => (splitAtGap? rest).map fun (before, after) => (c :: before, after)
  | [] => none

/-- An address of the sixth version: eight pairs of bytes, or fewer with two colons in a row for
those left out. -/
def isSixthVersion (s : List Char) : Bool :=
  match splitAtGap? s with
  | none => pairsIn? true (splitAtChar ':' s) == some 8
  | some (before, after) =>
    match pairsIn? false (groupsOf before), pairsIn? true (groupsOf after) with
    | some first, some second => first + second ≤ 7
    | _, _ => false

/-! ## 3. Names -/

/-- Bytes with a percent sign and two digits to the base 16 as the byte that these stand for. -/
def resolvePercent : List Nat → List Nat
  | 37 :: first :: second :: rest =>
    let high := Char.ofNat first
    let low := Char.ofNat second
    if first < 128 && second < 128 && isHexDigit high && isHexDigit low then
      (hexValue high * 16 + hexValue low) :: resolvePercent rest
    else 37 :: resolvePercent (first :: second :: rest)
  | byte :: rest => byte :: resolvePercent rest
  | [] => []

/-- The characters that no name holds. -/
def deniedInName (c : Char) : Bool :=
  c ≤ ' ' || c == '\x7F' || "%#/:<>?@[\\]^|".toList.contains c

/-- The name after its percent signs are resolved, if it is text. -/
def resolvedName? (s : List Char) : Option (List Char) :=
  (Utf8.decode (resolvePercent (Utf8.numbers (String.ofList s).toUTF8))).mapM id

/-- A host in an address whose scheme is known. -/
def isHost (s : List Char) : Bool :=
  match s with
  | '[' :: rest => rest.getLast? == some ']' && isSixthVersion rest.dropLast
  | _ => match resolvedName? s with
    | none => false
    | some name => !name.isEmpty && !name.any deniedInName
        && (!endsInNumber name || isFourthVersion name)

/-- A host in an address of another scheme; it may be empty. -/
def isOtherHost (s : List Char) : Bool :=
  match s with
  | '[' :: rest => rest.getLast? == some ']' && isSixthVersion rest.dropLast
  | _ => !s.any "\x00\t\n\r #/:<>?@[\\]^|".toList.contains

end Covenant.Web
