/-!
# Regular expressions

A regular expression is the text of a pattern with flags, and what an engine has made of the pattern.  The engine is not
part of the language: it is a parameter, known by what it answers.  Of the flags `i`, `m` and `s` are options of the
engine; `g`, `y`, `d`, `u` and `v` are only recorded.
-/

namespace ExprLang

/-- Why no regular expression could be made.  The reason against a pattern is that of the engine. -/
inductive RegexFault where
  | duplicateFlag (flag : Char)
  | unknownFlag (flag : Char)
  | disabled
  | pattern (reason : String)
  deriving DecidableEq

/-- The reason given for a fault. -/
def RegexFault.reason : RegexFault → String
  | duplicateFlag flag => "duplicate flag '" ++ String.singleton flag ++ "'"
  | unknownFlag flag => "unknown flag '" ++ String.singleton flag ++ "'"
  | disabled => "regular expressions are disabled"
  | pattern reason => reason

namespace Regex

/-- The options under which an engine reads a pattern. -/
structure Options where
  ignoreCase : Bool := false
  multiLine : Bool := false
  dotMatchesNewline : Bool := false

/-- What an engine makes of a pattern: whether a text holds a match, and the pieces of a text between its matches. -/
structure Matcher where
  isMatch : List Char → Bool
  split : List Char → List (List Char)

/-- An engine makes a matcher of a pattern, or says why it rejects it.  Its answer depends on nothing else. -/
structure Engine where
  build : Options → String → Except String Matcher

/-- What is documented of the pieces of a text: they are what the matches leave of it. -/
structure Matcher.Lawful (m : Matcher) : Prop where
  /-- A text without a match is its only piece. -/
  split_of_isMatch_eq_false : ∀ text, m.isMatch text = false → m.split text = [text]
  /-- There is always a piece. -/
  split_ne_nil : ∀ text, m.split text ≠ []
  /-- The pieces stand in the text one after the other. -/
  flatten_split_sublist : ∀ text, (m.split text).flatten.Sublist text

/-- The matchers of an engine are lawful. -/
def Engine.Lawful (e : Engine) : Prop := ∀ options pattern m, e.build options pattern = .ok m → m.Lawful

/-- Reads flags from left to right; `seen` are those before them. -/
def readFlags (seen : List Char) (options : Options) : List Char → Except RegexFault Options
  | [] => .ok options
  | c :: rest =>
    if seen.contains c then .error (.duplicateFlag c)
    else
      match c with
      | 'i' => readFlags (c :: seen) { options with ignoreCase := true } rest
      | 'm' => readFlags (c :: seen) { options with multiLine := true } rest
      | 's' => readFlags (c :: seen) { options with dotMatchesNewline := true } rest
      | 'g' | 'y' | 'd' | 'u' | 'v' => readFlags (c :: seen) options rest
      | c => .error (.unknownFlag c)

end Regex

/-- A regular expression: a pattern and flags, and the matcher of the pattern under them. -/
structure Regex where
  source : String
  flags : String
  matcher : Regex.Matcher

namespace Regex

/-- Compiles a pattern under flags.  Faults of the flags come before those of the pattern. -/
def compile (engine : Engine) (pattern flags : String) : Except RegexFault Regex := do
  let options ← readFlags [] {} flags.toList
  match engine.build options pattern with
  | .ok matcher => .ok ⟨pattern, flags, matcher⟩
  | .error reason => .error (.pattern reason)

/-- The text of a regular expression: its pattern between slashes, and its flags. -/
def chars (re : Regex) : List Char := '/' :: (re.source.toList ++ '/' :: re.flags.toList)

def hasFlag (re : Regex) (flag : Char) : Bool := re.flags.toList.contains flag

end Regex

end ExprLang
