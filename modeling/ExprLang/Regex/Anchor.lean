import ExprLang.Unicode.Word

/-!
# Anchors

Conditions on a place in a text, given by the characters on its two sides.
-/

namespace ExprLang.Regex

/-- A condition on a place in a text. -/
inductive Anchor where
  | textStart
  | textEnd
  | lineStart (crlf : Bool)
  | lineEnd (crlf : Bool)
  | boundary (ascii : Bool)
  | notBoundary (ascii : Bool)
  | wordStart (ascii : Bool)
  | wordEnd (ascii : Bool)
  | wordStartHalf (ascii : Bool)
  | wordEndHalf (ascii : Bool)
  deriving DecidableEq

/-- Whether the character on one side of a place is a word character. -/
def isWordSide (ascii : Bool) : Option Char → Bool
  | none => false
  | some c => if ascii then c.isAlphanum || c == '_' else Unicode.isWord c

/-- Whether an anchor holds between two neighbouring characters; at the ends of the text one is missing. -/
def Anchor.holds (a : Anchor) (before after : Option Char) : Bool :=
  match a with
  | textStart => before.isNone
  | textEnd => after.isNone
  | lineStart false => before.isNone || before == some '\n'
  | lineStart true => before.isNone || before == some '\n' || (before == some '\r' && after != some '\n')
  | lineEnd false => after.isNone || after == some '\n'
  | lineEnd true => after.isNone || after == some '\r' || (after == some '\n' && before != some '\r')
  | boundary ascii => isWordSide ascii before != isWordSide ascii after
  | notBoundary ascii => isWordSide ascii before == isWordSide ascii after
  | wordStart ascii => !isWordSide ascii before && isWordSide ascii after
  | wordEnd ascii => isWordSide ascii before && !isWordSide ascii after
  | wordStartHalf ascii => !isWordSide ascii before
  | wordEndHalf ascii => !isWordSide ascii after

end ExprLang.Regex
