import ExprLang.Range
import ExprLang.Value.Json

/-!
# Tokens

The tokens of a source text.  Symbols are single characters; the operators made of several of them are put together
when the tokens are parsed.
-/

namespace ExprLang

/-- The characters that are symbols. -/
def symbols : List Char := "+-*/[].?:%<=>!&|(),".toList

/-- The words that can never name a value. -/
def reservedWords : List String := [
  "abstract", "arguments", "await", "boolean", "break", "byte", "case", "catch", "char", "class", "const",
  "continue", "debugger", "default", "delete", "do", "double", "else", "enum", "eval", "export", "extends", "final",
  "finally", "float", "for", "function", "goto", "if", "implements", "import", "in", "instanceof", "int",
  "interface", "let", "long", "native", "new", "package", "private", "protected", "public", "return", "short",
  "static", "super", "switch", "synchronized", "this", "throw", "throws", "transient", "try", "var", "void",
  "volatile", "while", "with", "yield"]

/-- What a token stands for. -/
inductive Lexeme where
  | literal (v : Value)
  | identifier (name : String)
  | regex (pattern flags : String)
  | symbol (c : Char)

namespace Lexeme

/-- The name of the kind of a lexeme. -/
def kindName : Lexeme → String
  | literal _ => "literal"
  | identifier _ => "identifier"
  | regex .. => "regex"
  | symbol _ => "symbol"

/-- Literals and identifiers, which may not follow each other without a gap. -/
def isOperand : Lexeme → Bool
  | literal _ | identifier _ => true
  | _ => false

/-- Whether a slash after this lexeme opens a regular expression: after `typeof`, and after a symbol that does not
close a bracket. -/
def admitsRegex : Lexeme → Bool
  | symbol c => c != ')' && c != ']'
  | identifier name => name == "typeof"
  | _ => false

/-- The content of a lexeme as JSON. -/
def toJson : Lexeme → Json
  | literal v => v.toJson
  | identifier name => .string name
  | regex pattern flags => .array [.string pattern, .string flags]
  | symbol c => .string (String.singleton c)

end Lexeme

/-- A lexeme with its range in the source. -/
structure Token where
  lexeme : Lexeme
  offset : Nat
  length : Nat

namespace Token

/-- The range of a token. -/
def range (t : Token) : Range := ⟨t.offset, t.length⟩

/-- The character of a symbol. -/
def symbol? (t : Token) : Option Char :=
  match t.lexeme with
  | .symbol c => some c
  | _ => none

def isSymbol (t : Token) (c : Char) : Bool := t.symbol? == some c

/-- A token as JSON. -/
def toJson (t : Token) : Json :=
  .ofEntries [("kind", .string t.lexeme.kindName), ("value", t.lexeme.toJson), ("offset", .int t.offset),
    ("length", .int t.length)]

end Token

end ExprLang
