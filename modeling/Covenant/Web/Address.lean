import Covenant.Web.HostName
/-!
# Addresses of the web

`schemeOf?` reads an address as far as it has to be right: its scheme, its host and its port.

* Blanks and control characters around an address, and line breaks and tabs in it, count for
  nothing.
* A scheme is a letter and then letters, digits, `+`, `-` and `.`, with a colon after it.
* Addresses of the web and of its neighbours have a host after any number of slashes; those of
  files have one after exactly two; those of other schemes have one, which may be empty, after
  two slashes.
-/

namespace Covenant.Web

open Covenant.Decimal Covenant.Text

/-- The characters of an address that count. -/
def tidy (s : List Char) : List Char :=
  let outer := fun c : Char => c ≤ ' '
  let trimmed := ((s.dropWhile outer).reverse.dropWhile outer).reverse
  trimmed.filter fun c => c != '\t' && c != '\n' && c != '\r'

/-- A character of a scheme. -/
def isSchemeChar (c : Char) : Bool := c.isAlphanum || c == '+' || c == '-' || c == '.'

/-- The scheme in lower case, and what follows the colon after it. -/
def splitScheme? (s : List Char) : Option (List Char × List Char) :=
  match s with
  | [] => none
  | c :: _ =>
    if !c.isAlpha then none
    else match s.dropWhile isSchemeChar with
      | ':' :: rest => some ((s.takeWhile isSchemeChar).map Char.toLower, rest)
      | _ => none

/-- The schemes of the web and of its neighbours. -/
def webSchemes : List String := ["http", "https", "ws", "wss", "ftp"]

/-- A slash of an address of the web. -/
def isWebSlash (c : Char) : Bool := c == '/' || c == '\\'

/-- The host and the rest; colons in brackets belong to the host. -/
def splitHost (inBrackets : Bool) : List Char → List Char × List Char
  | [] => ([], [])
  | c :: rest =>
    if c == ':' && !inBrackets then ([], c :: rest)
    else
      let (host, after) := splitHost (c == '[' || (inBrackets && c != ']')) rest
      (c :: host, after)

/-- The digits of a port, if there is one. -/
def isPort (digits : List Char) : Bool := digits.all Char.isDigit && readDigits digits < 65536

/-- What stands before the last `@`, if there is one, and what stands after it. -/
def splitUser (s : List Char) : Option (List Char) × List Char :=
  match (splitAtChar '@' s).reverse with
  | host :: last :: before =>
    (some (joinWith ['@'] (last :: before).reverse), host)
  | _ => (none, s)

/-- A user, a host and a port, of which all but the host may be missing. -/
def isAuthority (web : Bool) (s : List Char) (more : Bool) : Bool :=
  let (user, rest) := splitUser s
  let (host, after) := splitHost false rest
  let emptyUser := user == some []
  if emptyUser && rest.isEmpty && more then false
  else if host.isEmpty && (web || !after.isEmpty || (user.isSome && !emptyUser)) then false
  else (if web then isHost host else isOtherHost host) && isPort (after.drop 1)

/-- What stands before a character that ends the authority, and whether there is one. -/
def cutAuthority (web : Bool) (s : List Char) : List Char × Bool :=
  let ends := fun c : Char => c == '/' || c == '?' || c == '#' || (web && c == '\\')
  (s.takeWhile (!ends ·), s.any ends)

/-- A drive as some machines name it. -/
def isDrive : List Char → Bool
  | [letter, mark] => letter.isAlpha && (mark == ':' || mark == '|')
  | _ => false

/-- What may follow the scheme of a file. -/
def isFileRest : List Char → Bool
  | first :: second :: rest =>
    if isWebSlash first && isWebSlash second then
      let host := (cutAuthority true rest).1
      host.isEmpty || isDrive host || isHost host
    else true
  | _ => true

/-- What may follow a scheme. -/
def isRest (scheme rest : List Char) : Bool :=
  if webSchemes.contains (.ofList scheme) then
    let (authority, more) := cutAuthority true (rest.dropWhile isWebSlash)
    isAuthority true authority more
  else if scheme == "file".toList then isFileRest rest
  else match rest with
    | '/' :: '/' :: rest =>
      let (authority, more) := cutAuthority false rest
      isAuthority false authority more
    | _ => true

/-- The path of an address of the web. -/
def pathOf (address : String) : String :=
  match splitScheme? (tidy address.toList) with
  | none => ""
  | some (_, rest) =>
    let path := (rest.dropWhile isWebSlash).dropWhile fun c =>
      !isWebSlash c && c != '?' && c != '#'
    .ofList (path.takeWhile fun c => c != '?' && c != '#')

/-- The scheme of an address, in lower case; absent if the text is no address. -/
def schemeOf? (address : String) : Option String :=
  match splitScheme? (tidy address.toList) with
  | none => none
  | some (scheme, rest) => if isRest scheme rest then some (.ofList scheme) else none

end Covenant.Web
