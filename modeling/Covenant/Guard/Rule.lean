import Covenant.Guard.Language
import Covenant.Pattern.Reader
import Covenant.Text.Ordered
/-!
# Rules

A rule forbids lines of code that its pattern occurs in, unless one of its skips occurs there too.

* `defaultRules` are the rules for projects that should reach a service only through a generated
  client.
* `Settings` leave rules out and give others more skips.
-/

namespace Covenant.Guard

open Covenant.Pattern Covenant.Text

/-! ## 1. Rules -/

/-- What is looked for in a line: a pattern or a plain text. -/
inductive LinePattern where
  | pattern (pattern : Pattern)
  | literal (text : String)
deriving Repr, DecidableEq, Inhabited

/-- It occurs in the line. -/
def LinePattern.occursIn (line : List Char) : LinePattern → Bool
  | .pattern p => p.occursIn line
  | .literal text => contains text.toList line

/-- A rule. -/
structure Rule where
  name : String
  message : String
  pattern : LinePattern
  /-- The languages to which the rule applies; all of them, if absent. -/
  languages : Option (List Language)
  skips : List LinePattern
deriving Repr, DecidableEq, Inhabited

/-- The rule applies to a language. -/
def Rule.appliesTo (rule : Rule) (language : Language) : Bool :=
  rule.languages.all (·.contains language)

/-- The line breaks the rule. -/
def Rule.brokenBy (rule : Rule) (line : List Char) : Bool :=
  rule.pattern.occursIn line && !rule.skips.any (·.occursIn line)

/-! ## 2. The default rules -/

/-- A call: any blanks and an opening parenthesis. -/
def callOpen : Pattern := .seq (.times (.char .blank) 0 none) (.char (.single '('))

/-- The start of a word. -/
def wordEdge : Pattern := .edge (.wordBoundary false)

/-- One of several texts. -/
def oneOf (texts : List String) : Pattern := .any (texts.map .ofText)

/-- A member of a name: a point and a word. -/
def member : Pattern := .seq (.char (.single '.')) (.times (.char .word) 1 none)

/-- A rule for some languages without skips. -/
def plainRule (name message : String) (languages : List Language) (pattern : Pattern) : Rule :=
  { name, message, pattern := .pattern pattern, languages := some languages, skips := [] }

/-- The two languages that run in browsers. -/
def browserLanguages : List Language := [.typescript, .javascript]

/-- The rules that apply unless they are left out. -/
def defaultRules : List Rule := [
  plainRule "no-fetch" "direct fetch() call; use the generated API client" browserLanguages
    (.all [wordEdge, .ofText "fetch", callOpen]),
  plainRule "no-axios" "direct axios call; use the generated API client" browserLanguages
    (.all [wordEdge, .ofText "axios", .times member 0 (some 1), callOpen]),
  plainRule "no-xhr" "XMLHttpRequest usage; use the generated API client" browserLanguages
    (.all [.ofText "new", .times (.char .blank) 1 none, .ofText "XMLHttpRequest"]),
  plainRule "no-python-requests" "direct requests/httpx call; use the generated API client"
    [.python]
    (.all [wordEdge, oneOf ["requests", "httpx"], .ofText ".",
      oneOf ["get", "post", "put", "patch", "delete", "request"], callOpen]),
  plainRule "no-urllib" "urllib/http.client usage; use the generated API client" [.python]
    (oneOf ["urllib.request", "http.client"]),
  plainRule "no-java-http" "direct Java HTTP usage; use the generated API client" [.java]
    (.any [.ofText "HttpClient.new", .ofText "HttpURLConnection",
      .seq (.ofText ".openConnection") callOpen]),
  plainRule "no-go-http" "direct net/http usage; use the generated API client" [.go]
    (.seq (.ofText "http.") (oneOf ["Get", "Post", "Head", "NewRequest", "DefaultClient"])),
  plainRule "no-reqwest" "direct reqwest usage; use the generated API client" [.rust]
    (.ofText "reqwest::"),
  { name := "no-raw-url"
    message := "hard-coded URL; configure the base URL on the generated client"
    pattern := .pattern (.all [.ofText "http", .times (.ofText "s") 0 (some 1), .ofText "://"])
    languages := none
    skips := ["basePath", "base_url", "baseUrl", "BASE_URL", "localhost"].map .literal }]

/-! ## 3. Settings -/

/-- Why there are no rules, or no report. -/
inductive GuardError where
  | badPattern (rule detail : String)
  | io (detail : String)
deriving Repr, DecidableEq

/-- The error in words. -/
def GuardError.message : GuardError → String
  | .badPattern rule detail => "invalid pattern for rule " ++ rule ++ ": " ++ detail
  | .io detail => "guardrail io error: " ++ detail

/-- Changes to the default rules. -/
structure Settings where
  /-- The names of rules that do not apply. -/
  disabled : TextSet
  /-- Patterns by the name of the rule that they are skips of. -/
  extraSkips : TextMap (List String)
deriving Repr, Inhabited

/-- No changes. -/
def Settings.none : Settings := ⟨.empty, .empty⟩

/-- The pattern of a text in a rule. -/
def patternOf (rule text : String) : Except GuardError LinePattern :=
  match Pattern.read? text with
  | some pattern => .ok (.pattern pattern)
  | none => .error (.badPattern rule "not a regular expression")

/-- A rule with more skips. -/
def Rule.withSkips (rule : Rule) (texts : List String) : Except GuardError Rule := do
  return { rule with skips := rule.skips ++ (← texts.mapM (patternOf rule.name)) }

/-- The default rules with the changes. -/
def Settings.rules (settings : Settings) : Except GuardError (List Rule) :=
  (defaultRules.filter fun rule => !settings.disabled.contains rule.name).mapM fun rule =>
    rule.withSkips ((settings.extraSkips.get? rule.name).getD [])

end Covenant.Guard
