import Covenant.Text.CategoryTable
/-!
# Categories of characters

The general categories of Unicode. A character is in at most one of them; one in none of them has
not been assigned yet.

* `Category.ranges` are the code points of a category.
* `Category.named?` are the categories behind a name, which is that of a category or of a group.
-/

namespace Covenant.Text

/-- A general category. -/
inductive Category where
  | uppercaseLetter | lowercaseLetter | titlecaseLetter | modifierLetter | otherLetter
  | nonspacingMark | spacingMark | enclosingMark
  | decimalNumber | letterNumber | otherNumber
  | connectorPunctuation | dashPunctuation | openPunctuation | closePunctuation
  | initialPunctuation | finalPunctuation | otherPunctuation
  | mathSymbol | currencySymbol | modifierSymbol | otherSymbol
  | spaceSeparator | lineSeparator | paragraphSeparator
  | control | format | privateUse
deriving Repr, DecidableEq, Inhabited

namespace Category

/-- All categories. -/
def all : List Category := [
  .uppercaseLetter, .lowercaseLetter, .titlecaseLetter, .modifierLetter, .otherLetter,
  .nonspacingMark, .spacingMark, .enclosingMark, .decimalNumber, .letterNumber, .otherNumber,
  .connectorPunctuation, .dashPunctuation, .openPunctuation, .closePunctuation,
  .initialPunctuation, .finalPunctuation, .otherPunctuation, .mathSymbol, .currencySymbol,
  .modifierSymbol, .otherSymbol, .spaceSeparator, .lineSeparator, .paragraphSeparator, .control,
  .format, .privateUse]

/-- The code points of a category. -/
def ranges : Category → List (Nat × Nat)
  | .uppercaseLetter => CategoryTable.uppercaseLetter
  | .lowercaseLetter => CategoryTable.lowercaseLetter
  | .titlecaseLetter => CategoryTable.titlecaseLetter
  | .modifierLetter => CategoryTable.modifierLetter
  | .otherLetter => CategoryTable.otherLetter
  | .nonspacingMark => CategoryTable.nonspacingMark
  | .spacingMark => CategoryTable.spacingMark
  | .enclosingMark => CategoryTable.enclosingMark
  | .decimalNumber => CategoryTable.decimalNumber
  | .letterNumber => CategoryTable.letterNumber
  | .otherNumber => CategoryTable.otherNumber
  | .connectorPunctuation => CategoryTable.connectorPunctuation
  | .dashPunctuation => CategoryTable.dashPunctuation
  | .openPunctuation => CategoryTable.openPunctuation
  | .closePunctuation => CategoryTable.closePunctuation
  | .initialPunctuation => CategoryTable.initialPunctuation
  | .finalPunctuation => CategoryTable.finalPunctuation
  | .otherPunctuation => CategoryTable.otherPunctuation
  | .mathSymbol => CategoryTable.mathSymbol
  | .currencySymbol => CategoryTable.currencySymbol
  | .modifierSymbol => CategoryTable.modifierSymbol
  | .otherSymbol => CategoryTable.otherSymbol
  | .spaceSeparator => CategoryTable.spaceSeparator
  | .lineSeparator => CategoryTable.lineSeparator
  | .paragraphSeparator => CategoryTable.paragraphSeparator
  | .control => CategoryTable.control
  | .format => CategoryTable.format
  | .privateUse => CategoryTable.privateUse

/-- The character is in the category. -/
def contains (category : Category) (c : Char) : Bool := inRanges category.ranges c.toNat

/-- The categories and groups by name, in small letters and without separators. -/
def names : List (List String × List Category) := [
  (["lu", "uppercaseletter"], [.uppercaseLetter]),
  (["ll", "lowercaseletter"], [.lowercaseLetter]),
  (["lt", "titlecaseletter"], [.titlecaseLetter]),
  (["lm", "modifierletter"], [.modifierLetter]),
  (["lo", "otherletter"], [.otherLetter]),
  (["mn", "nonspacingmark"], [.nonspacingMark]),
  (["mc", "spacingmark"], [.spacingMark]),
  (["me", "enclosingmark"], [.enclosingMark]),
  (["nd", "decimalnumber", "digit"], [.decimalNumber]),
  (["nl", "letternumber"], [.letterNumber]),
  (["no", "othernumber"], [.otherNumber]),
  (["pc", "connectorpunctuation"], [.connectorPunctuation]),
  (["pd", "dashpunctuation"], [.dashPunctuation]),
  (["ps", "openpunctuation"], [.openPunctuation]),
  (["pe", "closepunctuation"], [.closePunctuation]),
  (["pi", "initialpunctuation"], [.initialPunctuation]),
  (["pf", "finalpunctuation"], [.finalPunctuation]),
  (["po", "otherpunctuation"], [.otherPunctuation]),
  (["sm", "mathsymbol"], [.mathSymbol]),
  (["sc", "currencysymbol"], [.currencySymbol]),
  (["sk", "modifiersymbol"], [.modifierSymbol]),
  (["so", "othersymbol"], [.otherSymbol]),
  (["zs", "spaceseparator"], [.spaceSeparator]),
  (["zl", "lineseparator"], [.lineSeparator]),
  (["zp", "paragraphseparator"], [.paragraphSeparator]),
  (["cc", "control", "cntrl"], [.control]),
  (["cf", "format"], [.format]),
  (["co", "privateuse"], [.privateUse]),
  (["lc", "casedletter"], [.uppercaseLetter, .lowercaseLetter, .titlecaseLetter]),
  (["l", "letter"],
    [.uppercaseLetter, .lowercaseLetter, .titlecaseLetter, .modifierLetter, .otherLetter]),
  (["m", "mark", "combiningmark"], [.nonspacingMark, .spacingMark, .enclosingMark]),
  (["n", "number"], [.decimalNumber, .letterNumber, .otherNumber]),
  (["p", "punctuation", "punct"],
    [.connectorPunctuation, .dashPunctuation, .openPunctuation, .closePunctuation,
      .initialPunctuation, .finalPunctuation, .otherPunctuation]),
  (["s", "symbol"], [.mathSymbol, .currencySymbol, .modifierSymbol, .otherSymbol]),
  (["z", "separator"], [.spaceSeparator, .lineSeparator, .paragraphSeparator])]

/-- The categories that a name stands for. -/
def named? (name : String) : Option (List Category) :=
  (names.find? fun entry => entry.1.contains name).map (·.2)

end Category

/-- The character has been assigned to a category. -/
def isAssigned (c : Char) : Bool := Category.all.any (·.contains c)

end Covenant.Text
