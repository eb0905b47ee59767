import Covenant.Text.Split
/-!
# Words of a name

A name is a row of words, however it is written: `listPets`, `list_pets` and `list-pets` have
the words `list` and `pets`.

* A word is a run of ASCII letters and digits; every other character separates words.
* Inside a run, a capital opens a new word after a small letter or a digit, and after a capital
  when a small letter follows it (`HTTPServer` is `http`, `server`).
* `camelCase`, `pascalCase`, `snakeCase` and `kebabCase` join the lowered words again.
-/

namespace Covenant.Naming

open Covenant.Text

/-! ## 1. Finding the words -/

/-- The capital `c`, which follows `last` and is followed by `next`, opens a new word. -/
def opensWord (last c : Char) (next : Option Char) : Bool :=
  c.isUpper && (last.isLower || last.isDigit || (last.isUpper && next.any Char.isLower))

/-- The reversed word, if there is one. -/
def closeWord (word : List Char) : List (List Char) :=
  if word.isEmpty then [] else [word.reverse]

/-- The words of a text that is read after `last`, the last character of the open `word`;
`last` is absent exactly when no word is open. -/
def wordsFrom (last : Option Char) (word : List Char) : List Char → List (List Char)
  | [] => closeWord word
  | c :: r =>
    if !c.isAlphanum then closeWord word ++ wordsFrom none [] r
    else if last.any (opensWord · c r.head?) then
      closeWord word ++ wordsFrom (some c) [c.toLower] r
    else wordsFrom (some c) (c.toLower :: word) r

/-- The lowered words of a name. -/
def words (name : List Char) : List (List Char) := wordsFrom none [] name

/-! ## 2. Joining the words -/

/-- A word with its first character as a capital, in ASCII. -/
def capitalize : List Char → List Char
  | [] => []
  | c :: r => c.toUpper :: r

/-- The words with every one but the first capitalized. -/
def camelJoin : List (List Char) → List Char
  | [] => []
  | first :: rest => first ++ rest.flatMap capitalize

/-- `listPets` -/
def camelCase (name : String) : String := .ofList (camelJoin (words name.toList))

/-- `ListPets` -/
def pascalCase (name : String) : String := .ofList ((words name.toList).flatMap capitalize)

/-- `list_pets` -/
def snakeCase (name : String) : String := .ofList (joinWith ['_'] (words name.toList))

/-- `list-pets` -/
def kebabCase (name : String) : String := .ofList (joinWith ['-'] (words name.toList))

/-! ## 3. Class names -/

/-- The class name of a client for the API called `title`: its runs of letters and digits, each
capitalized, with `Api` before a digit and `Api` at the end unless the name says so already. -/
def apiClassName (title : String) : String :=
  let runs := (splitWhere (fun c => !c.isAlphanum) title.toList).filter (fun run => !run.isEmpty)
  match runs.flatMap capitalize with
  | [] => "Api"
  | c :: r =>
    let name := if c.isDigit then "Api".toList ++ c :: r else c :: r
    .ofList (if endsWith "Api".toList name || endsWith "API".toList name then name
      else name ++ "Api".toList)

end Covenant.Naming
