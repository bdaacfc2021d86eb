import ExprLang.Regex.Basic
import ExprLang.Regex.Pattern
import ExprLang.Regex.Property
import ExprLang.Unicode.Alphabetic

/-!
# Reading patterns

`Pattern.read?` reads the text of a pattern under given flags, or rejects it.  Flags may change inside a pattern,
for the rest of a group or for a group of its own.  Rejected are, among others, unbalanced brackets, repetitions of
nothing, unknown escapes, references to groups, look-around, and patterns that are nested too deeply.

A reader takes the remaining text and returns what it has read with the text after it.
-/

namespace ExprLang.Regex

/-- The flags under which a pattern is read: the options, and those that only a pattern itself can set. -/
structure Flags extends Options where
  swapGreed : Bool := false
  unicode : Bool := true
  crlf : Bool := false
  spaced : Bool := false

/-- The deepest nesting of a pattern. -/
def maxNesting : Nat := 250

namespace Reader

/-- What is left after white space and comments, which a spaced pattern may hold anywhere. -/
def skipSpace (spaced : Bool) (text : List Char) : List Char :=
  if spaced then go false text else text
where
  go (comment : Bool) : List Char → List Char
    | [] => []
    | c :: text =>
      if comment then go (c != '\n') text
      else if Unicode.isBlank c then go false text
      else if c == '#' then go true text
      else c :: text

/-! ## Escapes -/

/-- What an escape or a single character stands for. -/
inductive Atom where
  | literal (c : Char) (byte : Bool)
  | ofClass (cls : CharClass) (negated : Bool)
  | ofProperty (s : CharSet) (negated : Bool)
  | anchor (a : Anchor)

/-- The characters with a meaning of their own in patterns. -/
def isMeta (c : Char) : Bool := "\\.+*?()|[]\x7b\x7d^$#&-~".toList.contains c

/-- Whether a backslash before a character just stands for that character. -/
def isEscapable (c : Char) : Bool :=
  isMeta c || (c.val < 128 && !c.isAlphanum && c != '<' && c != '>')

def isHexDigit (c : Char) : Bool :=
  c.isDigit || ('a' ≤ c && c ≤ 'f') || ('A' ≤ c && c ≤ 'F')

/-- The value of a hexadecimal digit. -/
def hexValue (c : Char) : Nat :=
  if c.isDigit then c.toNat - 48 else if 'a' ≤ c then c.toNat - 87 else c.toNat - 55

/-- The character with a hexadecimal code, if there is one. -/
def ofHex? (digits : List Char) : Option Char :=
  let code := digits.foldl (fun n c => 16 * n + hexValue c) 0
  if h : code.isValidChar then some ⟨UInt32.ofNat code, by
    simpa [UInt32.isValidChar, UInt32.toNat_ofNat_of_lt' (show code < UInt32.size by
      unfold Nat.isValidChar at h; unfold UInt32.size; omega)] using h⟩
  else none

/-- Reads a given number of hexadecimal digits. -/
def hexDigits? (spaced : Bool) : Nat → List Char → Option (List Char × List Char)
  | 0, text => some ([], text)
  | _ + 1, [] => none
  | n + 1, c :: text =>
    if isHexDigit c then
      (hexDigits? spaced n (skipSpace spaced text)).map fun (digits, rest) => (c :: digits, rest)
    else none

/-- Reads hexadecimal digits up to a closing brace; the first argument bounds their number. -/
def bracedHex? (spaced : Bool) : Nat → List Char → Option (List Char × List Char)
  | _, '\x7d' :: text => some ([], skipSpace spaced text)
  | n + 1, c :: text =>
    if isHexDigit c then
      (bracedHex? spaced n (skipSpace spaced text)).map fun (digits, rest) => (c :: digits, rest)
    else none
  | _, _ => none

/-- Reads the code of a character after `x`, `u` or `U`: digits of fixed number or any number in braces. -/
def hexCode? (spaced : Bool) (digits : Nat) (text : List Char) : Option (Char × List Char) :=
  match skipSpace spaced text with
  | '\x7b' :: text => do
    let (code, rest) ← bracedHex? spaced text.length (skipSpace spaced text)
    if code.isEmpty then none else return (← ofHex? code, rest)
  | text => do
    let (code, rest) ← hexDigits? spaced digits text
    return (← ofHex? code, rest)

/-- The characters of a kind at the start of a text, between which a spaced pattern may hold white space and
comments. -/
def spacedRun (spaced : Bool) (isKind : Char → Bool) (text : List Char) : List Char × List Char :=
  go text.length text
where
  go : Nat → List Char → List Char × List Char
    | n + 1, c :: text =>
      if isKind c then
        let (run, rest) := go n (skipSpace spaced text)
        (c :: run, rest)
      else ([], c :: text)
    | _, text => ([], text)

/-- Reads the name in braces after `b` that makes it one of the special word boundaries.  When no name follows, the
brace is left to be read as a count. -/
def boundaryName? (spaced ascii : Bool) (text : List Char) : Option (Anchor × List Char) :=
  match text with
  | '\x7b' :: after =>
    match skipSpace spaced after with
    | [] => none
    | c :: named =>
      let isNameChar (c : Char) : Bool := c.isAlpha || c == '-'
      if !isNameChar c then some (.boundary ascii, text)
      else
        let (name, rest) := spacedRun spaced isNameChar (c :: named)
        match rest with
        | '\x7d' :: rest =>
          match String.ofList name with
          | "start" => some (.wordStart ascii, rest)
          | "end" => some (.wordEnd ascii, rest)
          | "start-half" => some (.wordStartHalf ascii, rest)
          | "end-half" => some (.wordEndHalf ascii, rest)
          | _ => none
        | _ => none
  | _ => some (.boundary ascii, text)

/-- Reads the name of a property after `p`: one letter, or more in braces. -/
def propertyName? (spaced : Bool) (text : List Char) : Option (CharSet × List Char) :=
  match skipSpace spaced text with
  | [] => none
  | '\x7b' :: text =>
    match spacedRun spaced (· != '\x7d') (skipSpace spaced text) with
    | (name, _ :: rest) => (namedProperty? name).map (·, rest)
    | (_, []) => none
  | c :: text => (property? [c]).map (·, skipSpace spaced text)

/-- Reads what follows a backslash. -/
def escape? (flags : Flags) : List Char → Option (Atom × List Char)
  | [] => none
  | c :: text =>
    let ascii := !flags.unicode
    let plain (a : Atom) := some (a, text)
    match c with
    | 'x' =>
      (hexCode? flags.spaced 2 text).map fun (c, rest) =>
        (.literal c ((skipSpace flags.spaced text).head? != some '\x7b'), rest)
    | 'u' => (hexCode? flags.spaced 4 text).map fun (c, rest) => (.literal c false, rest)
    | 'U' => (hexCode? flags.spaced 8 text).map fun (c, rest) => (.literal c false, rest)
    | 'd' => plain (.ofClass .digit false)
    | 'D' => plain (.ofClass .digit true)
    | 's' => plain (.ofClass .space false)
    | 'S' => plain (.ofClass .space true)
    | 'w' => plain (.ofClass .word false)
    | 'W' => plain (.ofClass .word true)
    | 'p' => (propertyName? flags.spaced text).map fun (s, rest) => (.ofProperty s false, rest)
    | 'P' => (propertyName? flags.spaced text).map fun (s, rest) => (.ofProperty s true, rest)
    | 'a' => plain (.literal '\x07' false)
    | 'f' => plain (.literal '\x0c' false)
    | 't' => plain (.literal '\t' false)
    | 'n' => plain (.literal '\n' false)
    | 'r' => plain (.literal '\r' false)
    | 'v' => plain (.literal '\x0b' false)
    | 'A' => plain (.anchor .textStart)
    | 'z' => plain (.anchor .textEnd)
    | 'b' => (boundaryName? flags.spaced ascii text).map fun (a, rest) => (.anchor a, rest)
    | 'B' => plain (.anchor (.notBoundary ascii))
    | '<' => plain (.anchor (.wordStart ascii))
    | '>' => plain (.anchor (.wordEnd ascii))
    | c => if isEscapable c then plain (.literal c false) else none

/-! ## Sets -/

/-- The set of a class.  Without Unicode there is no negated class, as it would hold parts of characters. -/
def classSet? (flags : Flags) (cls : CharClass) (negated : Bool) : Option CharSet :=
  if flags.unicode then some (if negated then cls.set.compl else cls.set)
  else if negated then none else some cls.asciiSet

/-- The set named between `[:` and `:]`. -/
def namedSet? : String → Option CharSet
  | "alnum" => some (.ofIntervals [(0x30, 0x39), (0x41, 0x5A), (0x61, 0x7A)])
  | "alpha" => some (.ofIntervals [(0x41, 0x5A), (0x61, 0x7A)])
  | "ascii" => some (.interval '\x00' '\x7f')
  | "blank" => some (.ofIntervals [(0x9, 0x9), (0x20, 0x20)])
  | "cntrl" => some (.ofIntervals [(0x0, 0x1F), (0x7F, 0x7F)])
  | "digit" => some CharClass.digit.asciiSet
  | "graph" => some (.interval '!' '~')
  | "lower" => some (.interval 'a' 'z')
  | "print" => some (.interval ' ' '~')
  | "punct" => some (.ofIntervals [(0x21, 0x2F), (0x3A, 0x40), (0x5B, 0x60), (0x7B, 0x7E)])
  | "space" => some CharClass.space.asciiSet
  | "upper" => some (.interval 'A' 'Z')
  | "word" => some CharClass.word.asciiSet
  | "xdigit" => some (.ofIntervals [(0x30, 0x39), (0x41, 0x46), (0x61, 0x66)])
  | _ => none

/-- A set under the flags of case. -/
def foldSet (flags : Flags) (s : CharSet) : CharSet :=
  if flags.ignoreCase then s.folded (if flags.unicode then Unicode.caseFolding else Unicode.asciiCaseFolding)
  else s

/-- A set or its complement under the flags of case.  Without Unicode there are no complements, as these would hold
parts of characters. -/
def foldOrNegate? (flags : Flags) (negated : Bool) (s : CharSet) : Option CharSet :=
  if !negated then some (foldSet flags s)
  else if flags.unicode then some (foldSet flags s).compl
  else none

/-- The set of a property or its complement.  Without Unicode there are no properties. -/
def propertySet? (flags : Flags) (s : CharSet) (negated : Bool) : Option CharSet :=
  if flags.unicode then foldOrNegate? flags negated s else none

/-- A named set between brackets, such as `[:alpha:]`, and whether it is negated; its opening bracket has been
read. -/
def bracketName? (text : List Char) : Option (CharSet × Bool × List Char) :=
  match text with
  | ':' :: text =>
    let (negated, text) := match text with
      | '^' :: text => (true, text)
      | text => (false, text)
    match text.dropWhile (· != ':') with
    | ':' :: ']' :: rest => (namedSet? (String.ofList (text.takeWhile (· != ':')))).map (·, negated, rest)
    | _ => none
  | _ => none

/-- One character or escape of a set. -/
def setAtom? (flags : Flags) : List Char → Option (Atom × List Char)
  | [] => none
  | '\\' :: text => escape? flags text
  | c :: text => some (.literal c false, text)

/-- A literal as the end of an interval.  Without Unicode only ASCII is allowed. -/
def intervalEnd? (flags : Flags) : Atom → Option Char
  | .literal c _ => if flags.unicode || c.val < 128 then some c else none
  | _ => none

/-- The character after a hyphen that decides whether the hyphen makes an interval.  In a spaced pattern white space
before it is passed over, and the number sign of a comment, but not the comment itself. -/
def afterHyphen? (spaced : Bool) (text : List Char) : Option Char :=
  if spaced then go false text <|> text.head? else text.head?
where
  go (comment : Bool) : List Char → Option Char
    | [] => none
    | c :: text =>
      if Unicode.isBlank c then go comment text
      else if c == '#' && !comment then go true text
      else some c

/-- A member of a set: an interval, a class, a property or a single character. -/
def setMember? (flags : Flags) (text : List Char) : Option (CharSet × List Char) := do
  let (first, rest) ← setAtom? flags text
  let alone : Option CharSet := match first with
    | .literal .. => (intervalEnd? flags first).map .single
    | .ofClass cls negated => classSet? flags cls negated
    | .ofProperty s negated => propertySet? flags s negated
    | .anchor _ => none
  match skipSpace flags.spaced rest with
  | [] => none
  | '-' :: after =>
    let ahead := afterHyphen? flags.spaced after
    if ahead == some ']' || ahead == some '-' then return (← alone, '-' :: after)
    else
      let (last, rest) ← setAtom? flags (skipSpace flags.spaced after)
      let lo ← intervalEnd? flags first
      let hi ← intervalEnd? flags last
      if lo ≤ hi then return (.interval lo hi, rest) else none
  | rest => return (← alone, rest)

/-- The operators between sets. -/
inductive SetOperator where
  | inter
  | diff
  | symmDiff

def SetOperator.apply (flags : Flags) (op : SetOperator) (s t : CharSet) : CharSet :=
  match op with
  | inter => (foldSet flags s).inter (foldSet flags t)
  | diff => (foldSet flags s).diff (foldSet flags t)
  | symmDiff => (foldSet flags s).symmDiff (foldSet flags t)

/-- A set between brackets while it is read: the operand before the last operator with its nesting, the intervals
of the members since, the number of these members, and how deep they are nested. -/
structure OpenSet where
  before : Option (CharSet × Nat × SetOperator) := none
  members : Unicode.Intervals := []
  count : Nat := 0
  nesting : Nat := 0

namespace OpenSet

def push (o : OpenSet) (s : CharSet) (nesting : Nat) : OpenSet :=
  { o with members := s.intervals ++ o.members, count := o.count + 1, nesting := max o.nesting nesting }

/-- The operands read so far as one set. -/
def set (flags : Flags) (o : OpenSet) : CharSet :=
  match o.before with
  | none => .ofIntervals o.members
  | some (s, _, op) => op.apply flags s (.ofIntervals o.members)

/-- The nesting of the operands read so far. -/
def depth (o : OpenSet) : Nat :=
  let last := if 1 < o.count then o.nesting + 1 else o.nesting
  match o.before with
  | none => last
  | some (_, nesting, _) => max nesting last + 1

/-- Puts an operator after the operands read so far. -/
def operate (flags : Flags) (o : OpenSet) (op : SetOperator) : OpenSet :=
  { before := some (o.set flags, o.depth, op) }

end OpenSet

/-- The start of a set after its bracket: whether it is negated, and the hyphens and the bracket that stand for
themselves there. -/
def setStart (spaced : Bool) (text : List Char) : Bool × OpenSet × List Char :=
  let text := skipSpace spaced text
  let (negated, text) := match text with
    | '^' :: text => (true, skipSpace spaced text)
    | text => (false, text)
  match hyphens text.length {} text with
  | (o, ']' :: text) =>
    if o.count = 0 then (negated, o.push (.single ']') 0, skipSpace spaced text) else (negated, o, ']' :: text)
  | (o, text) => (negated, o, text)
where
  hyphens : Nat → OpenSet → List Char → OpenSet × List Char
    | n + 1, o, '-' :: text => hyphens n (o.push (.single '-') 0) (skipSpace spaced text)
    | _, o, text => (o, text)

/-- Reads a set after its opening bracket and start; the first argument bounds the steps.  Returns the set, its
nesting and the text after the closing bracket. -/
def setRest? (flags : Flags) : Nat → Bool → OpenSet → List Char → Option (CharSet × Nat × List Char)
  | 0, _, _, _ => none
  | fuel + 1, negated, o, text =>
    match skipSpace flags.spaced text with
    | [] => none
    | '[' :: text =>
      match bracketName? text with
      | some (s, no, rest) => do
        let s ← foldOrNegate? flags no s
        setRest? flags fuel negated (o.push s 0) rest
      | none => do
        let (no, inner, text) := setStart flags.spaced text
        let (s, nesting, rest) ← setRest? flags fuel no inner text
        setRest? flags fuel negated (o.push s nesting) rest
    | ']' :: rest => (foldOrNegate? flags negated (o.set flags)).map (·, o.depth + 1, rest)
    | '&' :: '&' :: rest => setRest? flags fuel negated (o.operate flags .inter) rest
    | '-' :: '-' :: rest => setRest? flags fuel negated (o.operate flags .diff) rest
    | '~' :: '~' :: rest => setRest? flags fuel negated (o.operate flags .symmDiff) rest
    | text => do
      let (s, rest) ← setMember? flags text
      setRest? flags fuel negated (o.push s 0) rest

/-! ## Repetition counts -/

/-- A decimal number below `2 ^ 32`, with white space around it. -/
def count? (spaced : Bool) (text : List Char) : Option (Nat × List Char) :=
  let (digits, rest) := spacedRun spaced Char.isDigit (text.dropWhile Unicode.isBlank)
  let n := Nat.ofDigitChars 10 digits 0
  if digits.isEmpty || Nat.pow 2 32 ≤ n then none
  else some (n, skipSpace spaced (rest.dropWhile Unicode.isBlank))

/-- The bounds of a repetition after an opening brace. -/
def counts? (spaced : Bool) (text : List Char) : Option (Nat × Option Nat × List Char) := do
  let (least, rest) ← count? spaced (skipSpace spaced text)
  match rest with
  | '\x7d' :: rest => return (least, some least, skipSpace spaced rest)
  | ',' :: rest =>
    match skipSpace spaced rest with
    | '\x7d' :: rest => return (least, none, skipSpace spaced rest)
    | rest =>
      let (most, rest) ← count? spaced rest
      match rest with
      | '\x7d' :: rest => if least ≤ most then return (least, some most, skipSpace spaced rest) else none
      | _ => none
  | _ => none

/-! ## Groups -/

/-- The flag that a letter names, set or cleared. -/
def setFlag? (flags : Flags) (letter : Char) (on : Bool) : Option Flags :=
  match letter with
  | 'i' => some { flags with ignoreCase := on }
  | 'm' => some { flags with multiLine := on }
  | 's' => some { flags with dotMatchesNewline := on }
  | 'U' => some { flags with swapGreed := on }
  | 'u' => some { flags with unicode := on }
  | 'R' => some { flags with crlf := on }
  | 'x' => some { flags with spaced := on }
  | _ => none

/-- Reads the flags of a group up to its colon or closing bracket, which stays in the text.  No flag may be named
twice, and a hyphen, after which flags are cleared, must be followed by one. -/
def groupFlags? (flags : Flags) (seen : List Char) (on : Bool) :
    List Char → Option (Flags × List Char × List Char)
  | [] => none
  | c :: text =>
    if c == ':' || c == ')' then
      if seen.head? == some '-' then none else some (flags, seen, c :: text)
    else if seen.contains c then none
    else if c == '-' then groupFlags? flags (c :: seen) false text
    else do
      let flags ← setFlag? flags c on
      groupFlags? flags (c :: seen) on text

/-- Whether a character may stand in the name of a group. -/
def isNameChar (first : Bool) (c : Char) : Bool :=
  c == '_' || (if first then Unicode.isAlphabetic c else
    c == '.' || c == '[' || c == ']' || Unicode.isAlphanumeric c)

/-- The name of a group up to its closing angle bracket. -/
def groupName? (text : List Char) : Option (List Char × List Char) :=
  let name := text.takeWhile (· != '>')
  match name, text.dropWhile (· != '>') with
  | c :: more, _ :: rest =>
    if isNameChar true c && more.all (isNameChar false) then some (name, rest) else none
  | _, _ => none

/-- What opens a group: nothing or a name, so that it is counted, flags of its own, or only a change of flags for
what follows it. -/
inductive Opening where
  | counted (name : Option (List Char))
  | plain (flags : Flags)
  | change (flags : Flags)

/-- Reads the opening of a group after its bracket. -/
def opening? (flags : Flags) (text : List Char) : Option (Opening × List Char) :=
  match skipSpace flags.spaced text with
  | '?' :: 'P' :: '<' :: text => named text
  | '?' :: '<' :: '=' :: _ => none
  | '?' :: '<' :: '!' :: _ => none
  | '?' :: '<' :: text => named text
  | '?' :: text =>
    match groupFlags? flags [] true text with
    | some (inner, seen, c :: rest) =>
      if c == ':' then some (.plain inner, rest)
      else if seen.isEmpty then none
      else some (.change inner, rest)
    | _ => none
  | text => some (.counted none, text)
where
  named (text : List Char) : Option (Opening × List Char) :=
    (groupName? text).map fun (name, rest) => (.counted (some name), rest)

/-- The groups opened so far: their number, and the names among them. -/
structure Groups where
  count : Nat := 0
  names : List (List Char) := []

/-- Counts a group.  No name may be given twice. -/
def Groups.push? (g : Groups) (name : Option (List Char)) : Option Groups :=
  match name with
  | none => some { g with count := g.count + 1 }
  | some name => if g.names.contains name then none else some ⟨g.count + 1, name :: g.names⟩

/-! ## Patterns -/

/-- A part of a sequence: a pattern with its nesting, or a change of flags, which cannot be repeated. -/
inductive Part where
  | piece (p : Pattern) (nesting : Nat)
  | change

/-- A sequence of parts, the last first, as one pattern with its nesting. -/
def sequence (parts : List Part) : Pattern × Nat :=
  let (ps, nesting) := parts.foldl (fun (ps, nesting) part =>
    match part with
    | .piece p n => (p :: ps, max nesting n)
    | .change => (ps, nesting)) ([], 0)
  (.sequence ps, if 1 < parts.length then nesting + 1 else nesting)

/-- Alternatives, the last first, as one pattern with its nesting. -/
def alternatives (branches : List (Pattern × Nat)) : Pattern × Nat :=
  let nesting := (branches.map (·.2)).foldl max 0
  (.alternatives (branches.map (·.1)).reverse, if 1 < branches.length then nesting + 1 else nesting)

/-- The pattern of one character or escape. -/
def atom? (flags : Flags) : Atom → Option Pattern
  | .literal c byte =>
    if !flags.unicode && 128 ≤ c.val then if byte then none else some (.literal [c])
    else some (.ofSet (foldSet flags (.single c)) (!flags.unicode))
  | .ofClass cls negated => (classSet? flags cls negated).map (.ofSet · (!flags.unicode))
  | .ofProperty s negated => (propertySet? flags s negated).map (.ofSet · false)
  | .anchor a => some (.anchor a)

/-- The set of the dot. -/
def dotSet (flags : Flags) : CharSet :=
  if flags.dotMatchesNewline then .compl .empty
  else if flags.crlf then .compl (.union (.single '\n') (.single '\r'))
  else .compl (.single '\n')

/-- Repeats the last part of a sequence, if it is a pattern. -/
def repeatLast? (parts : List Part) (least : Nat) (most : Option Nat) (greedy : Bool) : Option (List Part) :=
  match parts with
  | .piece p nesting :: parts => some (.piece (p.repeated least most greedy) (nesting + 1) :: parts)
  | _ => none

/-- Reads a pattern up to the bracket that closes its group or the end of the text.  The first argument bounds the
steps; `groups` are those opened so far, `branches` the alternatives and `parts` the parts of the last one, both in
reverse. -/
def group? : Nat → Flags → Groups → List (Pattern × Nat) → List Part → List Char →
    Option ((Pattern × Nat) × Groups × List Char)
  | 0, _, _, _, _, _ => none
  | fuel + 1, flags, groups, branches, parts, text =>
    let lazyMark (rest : List Char) (least : Nat) (most : Option Nat) :=
      match rest with
      | '?' :: rest => (repeatLast? parts least most flags.swapGreed).map (·, rest)
      | rest => (repeatLast? parts least most (!flags.swapGreed)).map (·, rest)
    match skipSpace flags.spaced text with
    | [] => some (alternatives (sequence parts :: branches), groups, [])
    | ')' :: rest => some (alternatives (sequence parts :: branches), groups, ')' :: rest)
    | '|' :: rest => group? fuel flags groups (sequence parts :: branches) [] rest
    | '(' :: rest => do
      match ← opening? flags rest with
      | (.change flags, rest) => group? fuel flags groups branches (.change :: parts) rest
      | (.plain inner, rest) =>
        let ((p, nesting), groups, rest) ← group? fuel inner groups [] [] rest
        match rest with
        | ')' :: rest => group? fuel flags groups branches (.piece p (nesting + 1) :: parts) rest
        | _ => none
      | (.counted name, rest) =>
        let opened ← groups.push? name
        let ((p, nesting), inner, rest) ← group? fuel flags opened [] [] rest
        match rest with
        | ')' :: rest =>
          group? fuel flags inner branches (.piece (.group opened.count p) (nesting + 1) :: parts) rest
        | _ => none
    | '[' :: rest => do
      let (negated, o, rest) := setStart flags.spaced rest
      let (s, nesting, rest) ← setRest? flags fuel negated o rest
      group? fuel flags groups branches (.piece (.ofSet s (!flags.unicode)) nesting :: parts) rest
    | '?' :: rest => do
      let (parts, rest) ← lazyMark rest 0 (some 1)
      group? fuel flags groups branches parts rest
    | '*' :: rest => do
      let (parts, rest) ← lazyMark rest 0 none
      group? fuel flags groups branches parts rest
    | '+' :: rest => do
      let (parts, rest) ← lazyMark rest 1 none
      group? fuel flags groups branches parts rest
    | '\x7b' :: rest => do
      let (least, most, rest) ← counts? flags.spaced rest
      let (parts, rest) ← lazyMark rest least most
      group? fuel flags groups branches parts rest
    | '\\' :: rest => do
      let (a, rest) ← escape? flags rest
      group? fuel flags groups branches (.piece (← atom? flags a) 0 :: parts) rest
    | '.' :: rest =>
      if flags.unicode then group? fuel flags groups branches (.piece (.ofSet (dotSet flags) false) 0 :: parts) rest
      else none
    | '^' :: rest =>
      let a := if flags.multiLine then Anchor.lineStart flags.crlf else .textStart
      group? fuel flags groups branches (.piece (.anchor a) 0 :: parts) rest
    | '$' :: rest =>
      let a := if flags.multiLine then Anchor.lineEnd flags.crlf else .textEnd
      group? fuel flags groups branches (.piece (.anchor a) 0 :: parts) rest
    | c :: rest => do
      group? fuel flags groups branches (.piece (← atom? flags (.literal c false)) 0 :: parts) rest

end Reader

/-- Reads the text of a pattern, if it is one within the bound on nesting. -/
def Pattern.read? (flags : Flags) (text : List Char) : Option Pattern := do
  let ((p, nesting), _, rest) ← Reader.group? (text.length + 1) flags {} [] [] text
  if rest.isEmpty && nesting ≤ maxNesting then return p else none

end ExprLang.Regex
