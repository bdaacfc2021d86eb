import ExprLang.Unicode.Blank
import ExprLang.Unicode.Cased
import ExprLang.Unicode.LetterCase

/-!
# Case and white space of texts

Upper and lower case of whole texts, by the full mappings of single characters.  The one mapping that looks at
its neighbours is the lower case of a sigma, which has a form of its own at the end of a word.
-/

namespace ExprLang.Text

open Unicode

/-- The upper case of a text. -/
def upper (text : List Char) : List Char := text.flatMap upperCase

/-- Whether the first character that is not case-ignorable has case. -/
def meetsCased (text : List Char) : Bool :=
  match text.dropWhile isCaseIgnorable with
  | [] => false
  | c :: _ => isCased c

/-- The lower case of a text that follows `before`, which is given in reverse. -/
def lowerAfter (before : List Char) : List Char → List Char
  | [] => []
  | c :: text =>
    let image :=
      if c = 'Σ' then [if meetsCased before && !meetsCased text then 'ς' else 'σ'] else lowerCase c
    image ++ lowerAfter (c :: before) text

/-- The lower case of a text. -/
def lower (text : List Char) : List Char := lowerAfter [] text

/-- A text without the white space at its ends. -/
def trim (text : List Char) : List Char :=
  ((text.dropWhile isBlank).reverse.dropWhile isBlank).reverse

end ExprLang.Text
