/-!
# Characters of YAML

The character classes of YAML 1.1, and the form in which a text is scanned.

* `isAllowed` are the characters that a text may hold.
* `normalize?` refuses a text with any other character, and turns every kind of line end but the
  line and paragraph separators into a line feed.
-/

namespace Covenant.Yaml

/-- The characters that may stand in a text. -/
def isAllowed (c : Char) : Bool :=
  let n := c.toNat
  n == 0x09 || n == 0x0A || n == 0x0D || (0x20 ≤ n && n ≤ 0x7E) || n == 0x85 ||
    (0xA0 ≤ n && n ≤ 0xD7FF) || (0xE000 ≤ n && n ≤ 0xFFFD) || 0x10000 ≤ n

/-- A space or a tab. -/
def isBlank (c : Char) : Bool := c == ' ' || c == '\t'

/-- A line end of a normalized text. -/
def isBreak (c : Char) : Bool := c == '\n' || c == '\u2028' || c == '\u2029'

/-- The rest of a text begins with a blank or a line end, or there is none. -/
def atBlankOrEnd : List Char → Bool
  | [] => true
  | c :: _ => isBlank c || isBreak c

/-- The characters of the name of an anchor or a tag handle. -/
def isNameChar (c : Char) : Bool := c.isAlphanum || c == '_' || c == '-'

/-- The characters of a tag, `%` apart; inside of `<` and `>` the flow indicators belong to them. -/
def isTagChar (verbatim : Bool) (c : Char) : Bool :=
  isNameChar c || ";/?:@&=+$.!~*'()".toList.contains c ||
    (verbatim && (c == ',' || c == '[' || c == ']'))

/-- The characters that end a plain scalar inside of a flow collection. -/
def isFlowIndicator (c : Char) : Bool :=
  c == ',' || c == '[' || c == ']' || c == '{' || c == '}'

/-- Worker of `normalize?`: the normalized text so far, reversed. -/
def normalizeFrom (done : List Char) : List Char → Option (List Char)
  | [] => some done.reverse
  | '\r' :: '\n' :: r => normalizeFrom ('\n' :: done) r
  | c :: r =>
    if !isAllowed c then none
    else if c == '\r' || c == '\u0085' then normalizeFrom ('\n' :: done) r
    else normalizeFrom (c :: done) r

/-- The text with its line ends made alike, if it holds nothing but allowed characters. -/
def normalize? (s : List Char) : Option (List Char) := normalizeFrom [] s

/-- The rest of a text begins with `---` or `...` and a blank or an end after it. -/
def atDocumentMark : List Char → Bool
  | '-' :: '-' :: '-' :: r => atBlankOrEnd r
  | '.' :: '.' :: '.' :: r => atBlankOrEnd r
  | _ => false

end Covenant.Yaml
