import Covenant.Text.Split
/-!
# Texts in TOML

Blanks, comments, line ends and the four kinds of quoted texts. Every reader gives the rest of the
text after what it read.

* Control characters other than the tab stand neither in comments nor in quoted texts.
* A text over several lines keeps its line ends as they are, apart from one right at its start.
* One or two more quotes right before the closing ones belong to a text over several lines.
-/

namespace Covenant.Toml

/-! ## 1. Blanks and line ends -/

/-- A character that may stand in comments and quoted texts. -/
def isPlain (c : Char) : Bool := c == '\t' || (0x20 ≤ c.toNat && c.toNat != 0x7F)

/-- A blank inside of a line. -/
def isSpace (c : Char) : Bool := c == ' ' || c == '\t'

/-- The text without the blanks at its start. -/
def skipSpaces (s : List Char) : List Char := s.dropWhile isSpace

/-- The rest after blanks, comments and line ends; `comment` says that a comment is open. -/
def skipLinesFrom (comment : Bool) : List Char → Option (List Char)
  | [] => some []
  | '\n' :: rest => skipLinesFrom false rest
  | '\r' :: '\n' :: rest => skipLinesFrom false rest
  | c :: rest =>
    if comment then if isPlain c then skipLinesFrom true rest else none
    else if isSpace c then skipLinesFrom false rest
    else if c == '#' then skipLinesFrom true rest
    else some (c :: rest)

/-- The rest after blanks, comments and line ends. -/
def skipLines (s : List Char) : Option (List Char) := skipLinesFrom false s

/-- The next line, if nothing but blanks and a comment is left on this one; `comment` says that a
comment is open. -/
def nextLineFrom (comment : Bool) : List Char → Option (List Char)
  | [] => some []
  | '\n' :: rest => some rest
  | '\r' :: '\n' :: rest => some rest
  | c :: rest =>
    if comment then if isPlain c then nextLineFrom true rest else none
    else if isSpace c then nextLineFrom false rest
    else if c == '#' then nextLineFrom true rest
    else none

/-- The next line, if nothing but blanks and a comment is left on this one. -/
def nextLine (s : List Char) : Option (List Char) := nextLineFrom false s

/-! ## 2. Escapes -/

/-- The value of a hexadecimal digit. -/
def hexDigit? (c : Char) : Option Nat :=
  if c.isDigit then some (c.toNat - 48)
  else if 'a' ≤ c && c ≤ 'f' then some (c.toNat - 87)
  else if 'A' ≤ c && c ≤ 'F' then some (c.toNat - 55)
  else none

/-- The number of exactly `width` hexadecimal digits, and the rest. -/
def hexNumber? : Nat → Nat → List Char → Option (Nat × List Char)
  | 0, n, s => some (n, s)
  | width + 1, n, c :: rest => do hexNumber? width (n * 16 + (← hexDigit? c)) rest
  | _, _, [] => none

/-- The character of exactly `width` hexadecimal digits, and the rest. -/
def hexChar? (width : Nat) (s : List Char) : Option (Char × List Char) := do
  let (n, rest) ← hexNumber? width 0 s
  if n.isValidChar then some (Char.ofNat n, rest) else none

/-- The character that stands after a backslash, and the rest. -/
def escape? : List Char → Option (Char × List Char)
  | 'b' :: rest => some ('\x08', rest)
  | 't' :: rest => some ('\t', rest)
  | 'n' :: rest => some ('\n', rest)
  | 'f' :: rest => some ('\x0C', rest)
  | 'r' :: rest => some ('\r', rest)
  | 'e' :: rest => some ('\x1B', rest)
  | '"' :: rest => some ('"', rest)
  | '\\' :: rest => some ('\\', rest)
  | 'x' :: rest => hexChar? 2 rest
  | 'u' :: rest => hexChar? 4 rest
  | 'U' :: rest => hexChar? 8 rest
  | _ => none

/-! ## 3. Texts on one line -/

/-- A text in double quotes, after the first quote; `fuel` bounds its length. -/
def quoted? : Nat → List Char → Option (List Char × List Char)
  | 0, _ => none
  | _, [] => none
  | fuel + 1, c :: rest =>
    if c == '"' then some ([], rest)
    else if c == '\\' then do
      let (escaped, rest) ← escape? rest
      let (text, rest) ← quoted? fuel rest
      return (escaped :: text, rest)
    else if isPlain c then do
      let (text, rest) ← quoted? fuel rest
      return (c :: text, rest)
    else none

/-- A text in single quotes, after the first quote. -/
def literal? : List Char → Option (List Char × List Char)
  | [] => none
  | c :: rest =>
    if c == '\'' then some ([], rest)
    else if isPlain c then do
      let (text, rest) ← literal? rest
      return (c :: text, rest)
    else none

/-! ## 4. Texts over several lines -/

/-- The text without a line end at its start. -/
def skipLineEnd : List Char → List Char
  | '\n' :: rest => rest
  | '\r' :: '\n' :: rest => rest
  | s => s

/-- The quotes that end a text over several lines: those that belong to it, and the rest. -/
def closing? (quote : Char) (s : List Char) : Option (List Char × List Char) :=
  let count := (s.take 5).takeWhile (· == quote) |>.length
  if count < 3 then none else some (List.replicate (count - 3) quote, s.drop count)

/-- The rest after a backslash at the end of a line: without blanks and line ends. -/
def afterLineEnd? (s : List Char) : Option (List Char) :=
  match skipSpaces s with
  | '\n' :: rest => some (rest.dropWhile fun c => isSpace c || c == '\n' || c == '\r')
  | '\r' :: '\n' :: rest => some (rest.dropWhile fun c => isSpace c || c == '\n' || c == '\r')
  | _ => none

/-- A text over several lines; `escapes` says that backslashes have a meaning; `fuel` bounds its
length. -/
def lines? (quote : Char) (escapes : Bool) : Nat → List Char → Option (List Char × List Char)
  | 0, _ => none
  | _, [] => none
  | fuel + 1, c :: rest =>
    match closing? quote (c :: rest) with
    | some closed => some closed
    | none =>
      if escapes && c == '\\' then
        match afterLineEnd? rest with
        | some rest => lines? quote escapes fuel rest
        | none => do
          let (escaped, rest) ← escape? rest
          let (text, rest) ← lines? quote escapes fuel rest
          return (escaped :: text, rest)
      else if isPlain c || c == '\n' || (c == '\r' && rest.head? == some '\n') then do
        let (text, rest) ← lines? quote escapes fuel rest
        return (c :: text, rest)
      else none

/-! ## 5. Any text -/

/-- A text on one line in either kind of quotes. -/
def lineText? : List Char → Option (List Char × List Char)
  | '"' :: s => quoted? s.length s
  | '\'' :: s => literal? s
  | _ => none

/-- A text in any kind of quotes. -/
def text? : List Char → Option (List Char × List Char)
  | '"' :: '"' :: '"' :: s => let s := skipLineEnd s; lines? '"' true s.length s
  | '\'' :: '\'' :: '\'' :: s => let s := skipLineEnd s; lines? '\'' false s.length s
  | s => lineText? s

end Covenant.Toml
