import ExprLang.Regex.CharSet
import ExprLang.Text.Search
import ExprLang.Unicode.Category
import ExprLang.Unicode.Script

/-!
# Properties by name

A pattern can name the characters of a general category or of several, those of a script, and those with one of a few
other properties.  Names are compared loosely: case, spaces, hyphens and low lines do not count, nor does `is` before
a name.
-/

namespace ExprLang.Regex

open Unicode (Category)

/-- A name as it is compared.  Only `isc` keeps its `is`, as it is the name of a property and not that of the
category `c`. -/
def looseName (name : List Char) : String :=
  let kept (name : List Char) : List Char :=
    (name.filter fun c => c.val < 128 && !"\x20_-".toList.contains c).map Char.toLower
  match name with
  | i :: s :: rest =>
    if i.toLower == 'i' && s.toLower == 's' then
      if kept rest == ['c'] then "isc" else String.ofList (kept rest)
    else String.ofList (kept name)
  | _ => String.ofList (kept name)

/-- The categories and the groups of categories with their names. -/
def categoryGroups : List (List String × List Category) := [
  (["lu", "uppercaseletter"], [.uppercaseLetter]),
  (["ll", "lowercaseletter"], [.lowercaseLetter]),
  (["lt", "titlecaseletter"], [.titlecaseLetter]),
  (["lc", "casedletter"], [.uppercaseLetter, .lowercaseLetter, .titlecaseLetter]),
  (["lm", "modifierletter"], [.modifierLetter]),
  (["lo", "otherletter"], [.otherLetter]),
  (["l", "letter"], [.uppercaseLetter, .lowercaseLetter, .titlecaseLetter, .modifierLetter, .otherLetter]),
  (["mn", "nonspacingmark"], [.nonspacingMark]),
  (["mc", "spacingmark"], [.spacingMark]),
  (["me", "enclosingmark"], [.enclosingMark]),
  (["m", "mark", "combiningmark"], [.nonspacingMark, .spacingMark, .enclosingMark]),
  (["nd", "decimalnumber", "digit"], [.decimalNumber]),
  (["nl", "letternumber"], [.letterNumber]),
  (["no", "othernumber"], [.otherNumber]),
  (["n", "number"], [.decimalNumber, .letterNumber, .otherNumber]),
  (["pc", "connectorpunctuation"], [.connectorPunctuation]),
  (["pd", "dashpunctuation"], [.dashPunctuation]),
  (["ps", "openpunctuation"], [.openPunctuation]),
  (["pe", "closepunctuation"], [.closePunctuation]),
  (["pi", "initialpunctuation"], [.initialPunctuation]),
  (["pf", "finalpunctuation"], [.finalPunctuation]),
  (["po", "otherpunctuation"], [.otherPunctuation]),
  (["p", "punctuation", "punct"], [.connectorPunctuation, .dashPunctuation, .openPunctuation, .closePunctuation,
    .initialPunctuation, .finalPunctuation, .otherPunctuation]),
  (["sm", "mathsymbol"], [.mathSymbol]),
  (["sc", "currencysymbol"], [.currencySymbol]),
  (["sk", "modifiersymbol"], [.modifierSymbol]),
  (["so", "othersymbol"], [.otherSymbol]),
  (["s", "symbol"], [.mathSymbol, .currencySymbol, .modifierSymbol, .otherSymbol]),
  (["zs", "spaceseparator"], [.spaceSeparator]),
  (["zl", "lineseparator"], [.lineSeparator]),
  (["zp", "paragraphseparator"], [.paragraphSeparator]),
  (["z", "separator"], [.spaceSeparator, .lineSeparator, .paragraphSeparator]),
  (["cc", "control", "cntrl"], [.control]),
  (["cf", "format"], [.format]),
  (["co", "privateuse"], [.privateUse])]

/-- The characters of some categories. -/
def categorySet (categories : List Category) : CharSet := .ofIntervals (categories.flatMap (·.intervals))

/-- The characters that belong to a category. -/
def assignedSet : CharSet := categorySet (categoryGroups.flatMap (·.2))

/-- The characters of a category or a group of categories. -/
def category? (name : String) : Option CharSet :=
  match name with
  | "any" => some (.compl .empty)
  | "ascii" => some (.interval '\x00' '\x7f')
  | "assigned" => some assignedSet
  | "cn" | "unassigned" => some assignedSet.compl
  | "c" | "other" => some ((categorySet [.control, .format, .privateUse]).union assignedSet.compl)
  | name => (categoryGroups.find? (·.1.contains name)).map fun (_, categories) => categorySet categories

/-- The characters of a script. -/
def script? (name : String) : Option CharSet :=
  (Unicode.scripts.find? (·.1.contains name)).map fun (_, intervals) => .ofIntervals intervals

/-- The characters with a property that needs no value. -/
def binaryProperty? (name : String) : Option CharSet :=
  match name with
  | "alphabetic" | "alpha" => some (letters.union (.ofIntervals Unicode.otherAlphabetic))
  | "lowercase" | "lower" => some ((categorySet [.lowercaseLetter]).union ⟨Unicode.otherLowercase⟩)
  | "uppercase" | "upper" => some ((categorySet [.uppercaseLetter]).union ⟨Unicode.otherUppercase⟩)
  | "whitespace" | "wspace" | "space" => some CharClass.space.set
  | "hexdigit" | "hex" => some (.ofIntervals
      [(0x30, 0x39), (0x41, 0x46), (0x61, 0x66), (0xFF10, 0xFF19), (0xFF21, 0xFF26), (0xFF41, 0xFF46)])
  | "asciihexdigit" | "ahex" => some (.ofIntervals [(0x30, 0x39), (0x41, 0x46), (0x61, 0x66)])
  | _ => none
where
  letters : CharSet :=
    (categorySet [.uppercaseLetter, .lowercaseLetter, .titlecaseLetter, .modifierLetter, .otherLetter,
      .letterNumber]).union (.ofIntervals (Unicode.otherLowercase ++ Unicode.otherUppercase))

/-- The characters with a property, named alone or by its value. -/
def property? (name : List Char) : Option CharSet :=
  let name := looseName name
  binaryProperty? name <|> category? name <|> script? name

/-- The characters for which a property has a value. -/
def propertyValue? (name value : List Char) : Option CharSet :=
  match looseName name with
  | "generalcategory" | "gc" => category? (looseName value)
  | "script" | "sc" => script? (looseName value)
  | _ => none

/-- The characters that the text between braces names: a property alone, or behind the first sign between them a
value that it has.  Also `!=` stands for having the value, as only the letter before the braces negates. -/
def namedProperty? (text : List Char) : Option CharSet :=
  match ["!=", ":", "="].findSome? fun sign => (Text.indexOf? sign.toList text).map fun i => (i, sign.length) with
  | some (i, width) => propertyValue? (text.take i) (text.drop (i + width))
  | none => property? text

end ExprLang.Regex
