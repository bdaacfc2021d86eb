import ExprLang.Error
import ExprLang.Number.Decimal
import ExprLang.Text.Bytes
import ExprLang.Token.Basic
import ExprLang.Unicode.Blank

/-!
# From text to tokens

`lexeme?` reads the lexeme at the front of a text and counts its characters.  `tokenize` goes through a text and
skips the white space between lexemes.  A text is rejected at the first place where no lexeme can be read, or where
a literal or an identifier follows another one without a gap.
-/

namespace ExprLang.Lexer

/-- The text of a string literal after its opening quote, and the number of characters up to and with the closing
one.  A backslash keeps the character after it from closing the literal; only before the quote itself is it
dropped. -/
def scanString (quote : Char) : List Char → Option (List Char × Nat)
  | [] => none
  | '\\' :: c :: text =>
    (scanString quote text).map fun (s, n) => (if c = quote then c :: s else '\\' :: c :: s, n + 2)
  | c :: text =>
    if c = quote then some ([], 1) else (scanString quote text).map fun (s, n) => (c :: s, n + 1)

/-- The number at the front of a text, and the number of its characters: digits, or digits around a point. -/
def scanNumber (text : List Char) : Number × Nat :=
  let whole := text.takeWhile Char.isDigit
  match text.dropWhile Char.isDigit with
  | '.' :: rest =>
    let fraction := rest.takeWhile Char.isDigit
    ((Decimal.ofDigits whole fraction).toNumber false, whole.length + 1 + fraction.length)
  | _ => ((Decimal.ofDigits whole []).toNumber false, whole.length)

/-- The characters that start a word. -/
def isWordStart (c : Char) : Bool := c.isAlpha || c == '_'

/-- The characters that continue a word. -/
def isWordPart (c : Char) : Bool := c.isAlphanum || c == '_'

/-- The lexeme of a word, none if it is reserved. -/
def wordLexeme? (word : String) : Option Lexeme :=
  match word with
  | "true" => some (.literal (.bool true))
  | "false" => some (.literal (.bool false))
  | "null" => some (.literal .null)
  | "undefined" => some (.literal .undefined)
  | "NaN" => some (.literal (.number .nan))
  | "Infinity" => some (.literal (.number (.infinity false)))
  | word => if reservedWords.contains word then none else some (.identifier word)

/-- How many characters a pattern has before the slash that closes it.  A slash inside brackets or after a
backslash does not close it, and outside of backslash pairs it may not span lines. -/
def scanPattern (inSet : Bool) : List Char → Option Nat
  | [] => none
  | '\\' :: _ :: text => (scanPattern inSet text).map (· + 2)
  | c :: text =>
    if c = '\n' ∨ c = '\r' then none
    else if c = '/' ∧ !inSet then some 0
    else (scanPattern (if c = '[' then true else if c = ']' then false else inSet) text).map (· + 1)

/-- The pattern and the flags of a regular expression after its opening slash, and the number of characters up to
the end of the flags.  A pattern may not be empty. -/
def scanRegex (text : List Char) : Option (List Char × List Char × Nat) :=
  match scanPattern false text with
  | none => none
  | some 0 => none
  | some n =>
    let flags := (text.drop (n + 1)).takeWhile Char.isAlpha
    some (text.take n, flags, n + 1 + flags.length)

/-- The lexeme at the front of a text that starts with neither white space nor nothing, and the number of its
characters.  A slash that may open a regular expression but does not is a symbol. -/
def lexeme? (regexAllowed : Bool) (c : Char) (text : List Char) : Option (Lexeme × Nat) :=
  if c = '\x27' ∨ c = '\x22' then
    (scanString c text).map fun (s, n) => (.literal (.string (String.ofList s)), n + 1)
  else if c.isDigit ∨ (c = '.' ∧ text.head?.any Char.isDigit) then
    let (x, n) := scanNumber (c :: text)
    some (.literal (.number x), n)
  else if isWordStart c then
    let word := (c :: text).takeWhile isWordPart
    (wordLexeme? (String.ofList word)).map (·, word.length)
  else if c = '/' ∧ regexAllowed then
    match scanRegex text with
    | some (pattern, flags, n) => some (.regex (String.ofList pattern) (String.ofList flags), n + 1)
    | none => some (.symbol '/', 1)
  else if symbols.contains c then some (.symbol c, 1)
  else none

/-- The tokens of a text that starts at `offset`.  `last` is the lexeme before it and `touching` tells whether that
one is an operand without a gap behind it. -/
def scan (offset : Nat) (last : Option Lexeme) (touching : Bool) :
    List Char → Except SyntaxError (List Token)
  | [] => .ok []
  | c :: text =>
    if Unicode.isBlank c then scan (offset + c.utf8Size) last false text
    else
      match lexeme? (last.all Lexeme.admitsRegex) c text with
      | none => .error (.invalidToken offset)
      | some (lexeme, n) =>
        if lexeme.isOperand && touching then .error (.invalidToken offset)
        else do
          let length := Text.byteLength ((c :: text).take n)
          let tokens ← scan (offset + length) (some lexeme) lexeme.isOperand (text.drop (n - 1))
          return ⟨lexeme, offset, length⟩ :: tokens
termination_by text => text.length
decreasing_by all_goals simp only [List.length_cons, List.length_drop]; omega

end ExprLang.Lexer

namespace ExprLang

/-- The tokens of a text. -/
def tokenize (source : String) : Except SyntaxError (List Token) :=
  Lexer.scan 0 none false source.toList

end ExprLang
