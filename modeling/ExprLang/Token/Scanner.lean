import ExprLang.Number.Reading
import ExprLang.Token.Lexer

/-!
# The scanner as a cursor in bytes

The lexemes of `Token/Lexer.lean` read by a scanner that keeps its place in the text in bytes.  A character is read from
the rest of the text after a place; where the place is inside a character there is no such rest, and the scan ends there as
it does at the end of the text.  Slices between two places break where they do not consist of whole characters.  Every
loop goes on from place to place.  Fuel bounds the steps of the scan and has no part in the algorithm.
-/

namespace ExprLang.Scanner

open Text

/-- The ways in which a scanner breaks. -/
inductive Fault where
  | slice
  | underflow

/-- The reading of a lexeme: it finds none or one, or breaks. -/
abbrev Reading := OptionT (Except Fault)

/-- A part of the scan: it goes on or rejects the text, or breaks. -/
abbrev Run := ExceptT SyntaxError (Except Fault)

/-- What was found at a place; if it is nothing, the text is rejected there. -/
def require {α : Type} (pos : Nat) : Option α → Run α
  | some a => pure a
  | none => throw (.invalidToken pos)

/-- The difference of two words. -/
def minus (m n : Nat) : Except Fault Nat := if n ≤ m then pure (m - n) else throw .underflow

/-- The offset in bytes of the first character of a kind. -/
def findChar? (isKind : Char → Bool) : List Char → Option Nat
  | [] => none
  | c :: text => if isKind c then some 0 else (findChar? isKind text).map (c.utf8Size + ·)

section
variable (source : List Char)

/-- The text from a place on, if a character starts there or the text ends. -/
def suffix? (pos : Nat) : Option (List Char) := (splitBytes? pos source).map Prod.snd

/-- The character at a place, if one starts there. -/
def charAt? (pos : Nat) : Option Char := (suffix? source pos).bind List.head?

/-- The text from a place on. -/
def suffix (pos : Nat) : Except Fault (List Char) :=
  match suffix? source pos with
  | some text => pure text
  | none => throw .slice

/-- The text between two places. -/
def slice (start stop : Nat) : Except Fault (List Char) :=
  if start ≤ stop then
    match slice? source start (stop - start) with
    | some text => pure text
    | none => throw .slice
  else throw .slice

theorem le_of_charAt? {source : List Char} {pos : Nat} {c : Char} (h : charAt? source pos = some c) :
    pos + c.utf8Size ≤ byteLength source := by
  obtain ⟨text, htext, hhead⟩ := Option.bind_eq_some_iff.1 h
  obtain ⟨⟨before, after⟩, hsplit, rfl⟩ := Option.map_eq_some_iff.1 htext
  obtain ⟨rest, rfl⟩ := List.head?_eq_some_iff.1 hhead
  obtain ⟨rfl, rfl⟩ := eq_of_splitBytes? hsplit
  rw [byteLength_append, byteLength]
  omega

/-! ### Lexemes -/

/-- The text of a string literal from a place on, which follows `text`, and the place behind the closing quote. -/
def scanString (quote : Char) (pos : Nat) (text : List Char) : Option (List Char × Nat) :=
  match _here : charAt? source pos with
  | none => none
  | some c =>
    let next := pos + c.utf8Size
    if c = '\\' then
      match _ahead : charAt? source next with
      | none => none
      | some escaped =>
        let text := if escaped ≠ quote then text ++ ['\\'] else text
        scanString quote (next + escaped.utf8Size) (text ++ [escaped])
    else if c = quote then some (text, next)
    else scanString quote next (text ++ [c])
termination_by byteLength source - pos
decreasing_by
  all_goals
    have hpos := c.utf8Size_pos
    have hle := le_of_charAt? _here
  · have hahead := le_of_charAt? _ahead
    omega
  · omega

/-- Whether a byte is a decimal digit. -/
def isDigitByte (b : UInt8) : Bool := '0'.toUInt8 ≤ b && b ≤ '9'.toUInt8

/-- The place behind the digits from a place on. -/
def digitsFrom (bytes : List UInt8) (pos : Nat) : Nat :=
  if h : pos < bytes.length then
    if isDigitByte bytes[pos] then digitsFrom bytes (pos + 1) else pos
  else pos
termination_by bytes.length - pos

/-- The place behind the number from a place on: digits, or digits around a point. -/
def numberStop (start : Nat) : Nat :=
  let bytes := Text.bytes source
  let whole := digitsFrom bytes start
  if bytes[whole]? = some '.'.toUInt8 then digitsFrom bytes (whole + 1) else whole

/-- The number from a place on, and the place behind it. -/
def scanNumber (start : Nat) : Reading (Lexeme × Nat) := do
  let stop := numberStop source start
  match Number.parse? (← slice source start stop) with
  | some x => return (.literal (.number x), stop)
  | none => failure

/-- The place behind the characters from a place on that are not of a kind. -/
def stopAt (isKind : Char → Bool) (start : Nat) : Except Fault Nat := do
  match findChar? isKind (← suffix source start) with
  | some length => return start + length
  | none => return byteLength source

/-- The word from a place on, and the place behind it. -/
def scanWord (start : Nat) : Run (Lexeme × Nat) := do
  let stop ← stopAt source (!Lexer.isWordPart ·) start
  let lexeme ← require start (Lexer.wordLexeme? (String.ofList (← slice source start stop)))
  return (lexeme, stop)

/-- The place of the slash that closes a pattern. -/
def scanPattern (pos : Nat) (inSet : Bool) : Option Nat :=
  match _here : charAt? source pos with
  | none => none
  | some c =>
    if c = '\n' ∨ c = '\r' then none
    else if c = '\\' then
      match _ahead : charAt? source (pos + 1) with
      | none => none
      | some escaped => scanPattern (pos + (1 + escaped.utf8Size)) inSet
    else if c = '[' then scanPattern (pos + c.utf8Size) true
    else if c = ']' then scanPattern (pos + c.utf8Size) false
    else if c = '/' ∧ !inSet then some pos
    else scanPattern (pos + c.utf8Size) inSet
termination_by byteLength source - pos
decreasing_by
  all_goals
    have hpos := c.utf8Size_pos
    have hle := le_of_charAt? _here
  · have hahead := le_of_charAt? _ahead
    omega
  all_goals omega

/-- The regular expression from its opening slash on, and the place behind its flags. -/
def scanRegex (start : Nat) : Reading (Lexeme × Nat) := do
  match scanPattern source (start + 1) false with
  | none => failure
  | some pos =>
    if pos = start + 1 then failure
    else
      let pattern ← slice source (start + 1) pos
      let stop ← stopAt source (!·.isAlpha) (pos + 1)
      let flags ← slice source (pos + 1) stop
      return (.regex (String.ofList pattern) (String.ofList flags), stop)

/-! ### The scan -/

/-- The place of the scanner, the tokens read so far, and whether the last one is an operand that ends at the place. -/
structure State where
  pos : Nat
  tokens : List Token
  gluedOperand : Bool

/-- The scanner before its first step. -/
def State.start : State := ⟨0, [], false⟩

/-- Whether a slash may open a regular expression. -/
def State.regexAllowed (s : State) : Bool :=
  match s.tokens.getLast? with
  | none => true
  | some t => t.lexeme.admitsRegex

/-- Puts a lexeme that ends at a place behind the tokens. -/
def State.push (s : State) (lexeme : Lexeme) (stop : Nat) : Run State := do
  if lexeme.isOperand && s.gluedOperand then throw (.invalidToken s.pos)
  else
    let length ← minus stop s.pos
    return ⟨stop, s.tokens ++ [⟨lexeme, s.pos, length⟩], lexeme.isOperand⟩

/-- The lexeme that starts with a character, and the place behind it. -/
def scanLexeme (s : State) (c : Char) : Run (Option (Lexeme × Nat)) := do
  let start := s.pos
  if c = '\x27' ∨ c = '\x22' then
    return (scanString source c (start + 1) []).map fun (text, stop) => (.literal (.string (String.ofList text)), stop)
  else if c.isDigit then (scanNumber source start).run
  else if c = '.' ∧ (charAt? source (start + 1)).any Char.isDigit then (scanNumber source start).run
  else if c = '/' ∧ s.regexAllowed then
    return (← (scanRegex source start).run).or (some (.symbol '/', start + 1))
  else if Lexer.isWordStart c then return some (← scanWord source start)
  else if symbols.contains c then return some (.symbol c, start + 1)
  else return none

/-- One step of the scan over white space or a lexeme; there is none at the end. -/
def step (s : State) : Run (Option State) := do
  match charAt? source s.pos with
  | none => return none
  | some c =>
    if Unicode.isBlank c then return some { s with pos := s.pos + c.utf8Size, gluedOperand := false }
    else
      let (lexeme, stop) ← require s.pos (← scanLexeme source s c)
      return some (← s.push lexeme stop)

/-- The scan from a state on, if the fuel lasts. -/
def run : Nat → State → Option (Except Fault (Except SyntaxError (List Token)))
  | 0, _ => none
  | fuel + 1, s =>
    match step source s with
    | .error fault => some (.error fault)
    | .ok (.error e) => some (.ok (.error e))
    | .ok (.ok none) => some (.ok (.ok s.tokens))
    | .ok (.ok (some s')) => run fuel s'

end

end ExprLang.Scanner
