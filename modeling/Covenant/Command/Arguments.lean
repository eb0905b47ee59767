import Covenant.Text.Split
/-!
# Arguments

A grammar says which options and words a command takes and which commands it has in turn; `read`
reads arguments by it.

* An option that takes a value has it after `=` or in the next argument; that must not begin with
  a hyphen, unless it is nothing but one.
* Letters of options without values may stand together after one hyphen.
* After `--` every argument is a word.
* An option counts for the command after whose name it stands. Those that stand before the name of
  an inner command count for the inner one as well, unless they are given there again.
-/

namespace Covenant.Command

open Covenant.Text

/-! ## 1. Grammars -/

/-- How an option is given. -/
inductive OptionUse where
  /-- At most once, without a value. -/
  | flag
  /-- Any number of times, without a value. -/
  | counted
  /-- At most once, with a value that is accepted. -/
  | single (accepts : String → Bool)
  /-- Any number of times, with values. -/
  | repeated
  /-- Any number of times, with values that have commas between them. -/
  | listed
  /-- It stops the reading: the version is asked for. -/
  | version
  /-- It stops the reading: help is asked for. -/
  | help

/-- An option. -/
structure OptionRule where
  name : String
  letter : Option Char
  use : OptionUse

/-- What a command takes. -/
inductive Grammar where
  | command (options : List OptionRule) (maxWords : Option Nat) (inner : List (String × Grammar))

namespace Grammar

/-- The options. -/
def options : Grammar → List OptionRule
  | .command options _ _ => options

/-- The most words, if they are limited. -/
def maxWords : Grammar → Option Nat
  | .command _ maxWords _ => maxWords

/-- The inner commands. -/
def inner : Grammar → List (String × Grammar)
  | .command _ _ inner => inner

end Grammar

/-- Why no command came of arguments. -/
inductive Stop where
  | usage
  | version
  | help
deriving Repr, DecidableEq

/-! ## 2. What was given -/

/-- What arguments gave. -/
structure Given where
  /-- The names of the commands, the outermost first. -/
  commands : List String
  /-- The options with their values, outside the innermost command. -/
  outer : List (String × String)
  /-- The options with their values, in the innermost command. -/
  options : List (String × String)
  words : List String
deriving Repr, DecidableEq, Inhabited

namespace Given

/-- Nothing. -/
def nothing : Given := ⟨[], [], [], []⟩

/-- The innermost command was given the option. -/
def has (given : Given) (name : String) : Bool := given.options.any (·.1 == name)

/-- The values of an option of the innermost command. -/
def values (given : Given) (name : String) : List String :=
  (given.options.filter (·.1 == name)).map Prod.snd

/-- The value of an option; that of an inner command goes first. -/
def value? (given : Given) (name : String) : Option String :=
  given.options.lookup name <|> given.outer.lookup name

/-- What was given, after the name of an inner command. -/
def enter (given : Given) (name : String) : Given :=
  ⟨given.commands ++ [name], given.options ++ given.outer, [], given.words⟩

/-- What was given, with one more option. -/
def add (given : Given) (name : String) (values : List String) : Given :=
  { given with options := given.options ++ values.map (name, ·) }

/-- An option without a value was given. -/
def addFlag (given : Given) (rule : OptionRule) : Except Stop Given :=
  match rule.use with
  | .flag => if given.has rule.name then .error .usage else .ok (given.add rule.name [""])
  | .counted => .ok (given.add rule.name [""])
  | .version => .error .version
  | .help => .error .help
  | _ => .error .usage

/-- An option with a value was given. -/
def addValue (given : Given) (rule : OptionRule) (value : String) : Except Stop Given :=
  match rule.use with
  | .single accepts =>
    if given.has rule.name || !accepts value then .error .usage
    else .ok (given.add rule.name [value])
  | .repeated => .ok (given.add rule.name [value])
  | .listed => .ok (given.add rule.name ((splitAtChar ',' value.toList).map .ofList))
  | _ => .error .usage

/-- A word was given. -/
def addWord (given : Given) (maxWords : Option Nat) (word : String) : Except Stop Given :=
  if maxWords.all (given.words.length < ·) then .ok { given with words := given.words ++ [word] }
  else .error .usage

end Given

/-! ## 3. Reading -/

/-- The option takes a value. -/
def OptionRule.takesValue (rule : OptionRule) : Bool :=
  match rule.use with
  | .single _ => true
  | .repeated => true
  | .listed => true
  | _ => false

/-- A name, and a value after `=` if there is one. -/
def splitValue (s : List Char) : String × Option String :=
  match s.dropWhile (· != '=') with
  | _ :: value => (.ofList (s.takeWhile (· != '=')), some (.ofList value))
  | [] => (.ofList s, none)

/-- Reads letters after one hyphen. -/
def readLetters (rules : List OptionRule) (given : Given) : List Char → Except Stop Given
  | [] => .ok given
  | letter :: rest =>
    match rules.find? (·.letter == some letter) with
    | none => .error .usage
    | some rule => do readLetters rules (← given.addFlag rule) rest

/-- What is read next: any argument, the value of an option, or a word after `--`. -/
inductive Expected where
  | argument
  | value (rule : OptionRule)
  | word

/-- Reads a name after two hyphens. -/
def readName (rules : List OptionRule) (given : Given) (s : List Char) :
    Except Stop (Given × Expected) :=
  let (name, value) := splitValue s
  match rules.find? (·.name == name), value with
  | none, _ => .error .usage
  | some rule, some value => do return (← given.addValue rule value, .argument)
  | some rule, none =>
    if rule.takesValue then .ok (given, .value rule)
    else do return (← given.addFlag rule, .argument)

/-- Reads arguments. -/
def readArguments (grammar : Grammar) (given : Given) (expected : Expected) :
    List String → Except Stop Given
  | [] =>
    match expected with
    | .value _ => .error .usage
    | _ => if grammar.inner.isEmpty then .ok given else .error .usage
  | argument :: rest =>
    match expected with
    | .word => do
      readArguments grammar (← given.addWord grammar.maxWords argument) .word rest
    | .value rule =>
      if argument.toList.head? == some '-' && argument != "-" then .error .usage
      else do readArguments grammar (← given.addValue rule argument) .argument rest
    | .argument =>
      match grammar.inner.lookup argument, argument.toList with
      | some inner, _ => readArguments inner (given.enter argument) .argument rest
      | none, ['-', '-'] => readArguments grammar given .word rest
      | none, '-' :: '-' :: name => do
        let (given, expected) ← readName grammar.options given name
        readArguments grammar given expected rest
      | none, '-' :: letter :: letters => do
        let given ← readLetters grammar.options given (letter :: letters)
        readArguments grammar given .argument rest
      | none, _ => do
        readArguments grammar (← given.addWord grammar.maxWords argument) .argument rest

/-- Reads the arguments of a program. -/
def Grammar.read (grammar : Grammar) (arguments : List String) : Except Stop Given :=
  readArguments grammar .nothing .argument arguments

end Covenant.Command
