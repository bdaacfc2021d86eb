import ExprLang.Member.Basic
import ExprLang.Text.Case
import ExprLang.Text.Search
import ExprLang.Value.Coercion

/-!
# Members of strings

A string has its characters, its length and its methods.  Positions in strings count characters.
-/

namespace ExprLang

namespace StringMethod

/-- The method of a name. -/
def ofName? (name : List Char) : Option StringMethod :=
  if name = "charAt".toList then some charAt
  else if name = "concat".toList then some concat
  else if name = "endsWith".toList then some endsWith
  else if name = "includes".toList then some includes
  else if name = "indexOf".toList then some indexOf
  else if name = "slice".toList then some slice
  else if name = "split".toList then some split
  else if name = "startsWith".toList then some startsWith
  else if name = "toLowerCase".toList then some toLowerCase
  else if name = "toUpperCase".toList then some toUpperCase
  else if name = "trim".toList then some trim
  else none

/-- The text of an argument; a missing one counts as undefined. -/
def argumentText (argument : Option Value) : List Char := (argument.getD .undefined).chars

/-- The character at a position, alone or none. -/
def charAtText (text : List Char) (position : Option Value) : List Char :=
  let i := (position.map Value.toInteger).getD (.zero false)
  if i.isBelowZero then [] else text[i.toIndex]?.toList

/-- The characters between two relative positions. -/
def sliceText (text : List Char) (first last : Option Value) : List Char :=
  let start := Value.relativeIndex first text.length 0
  let stop := Value.relativeIndex last text.length text.length
  (text.drop start).take (stop - start)

/-- The pieces of a text between separators: none without a separator, single characters for an empty one. -/
def splitText (text : List Char) (separator : Option Value) : List (List Char) :=
  match separator with
  | none | some .undefined => [text]
  | some (.regex _ re) => re.matcher.split text
  | some v =>
    match v.chars with
    | [] => text.map ([·])
    | c :: separator => Text.splitOn c separator text

/-- Runs a method on a text. -/
def run (m : StringMethod) (text : List Char) (arguments : List Value) : Eval Value :=
  let first := arguments.head?
  let sought := argumentText first
  let str (text : List Char) : Value := .string (String.ofList text)
  match m with
  | charAt => return str (charAtText text first)
  | concat => return str (text ++ (arguments.map Value.chars).flatten)
  | endsWith => return .bool (sought.isSuffixOf text)
  | includes => return .bool (Text.indexOf? sought text).isSome
  | indexOf =>
    return .number (match Text.find? sought text with
      | some offset => .ofNat (Text.charactersBefore offset text)
      | none => .ofInt (-1))
  | slice => return str (sliceText text first arguments[1]?)
  | split => Eval.newArray ((splitText text first).map str)
  | startsWith => return .bool (sought.isPrefixOf text)
  | toLowerCase => return str (Text.lower text)
  | toUpperCase => return str (Text.upper text)
  | trim => return str (Text.trim text)

end StringMethod

/-- The member of a string: a character, the length, or a method. -/
def stringMember (text : List Char) (key : Value) : Member :=
  match key.arrayIndex? with
  | some i => .value ((text[i]?.map fun c => .string (String.singleton c)).getD .undefined)
  | none =>
    if key.chars = "length".toList then .value (.number (.ofNat text.length))
    else
      match StringMethod.ofName? key.chars with
      | some m => .method (.ofString m)
      | none => .value .undefined

end ExprLang
