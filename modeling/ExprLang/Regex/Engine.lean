import ExprLang.Regex.Basic
import ExprLang.Regex.Footprint
import ExprLang.Regex.Pattern.Reader
import ExprLang.Regex.Search

/-!
# An engine

The engine that comes with the language: patterns are read by `Pattern.read?` and searched for with automata.
-/

namespace ExprLang.Regex

/-- What an automaton finds in texts. -/
def Automaton.matcher (m : Automaton) : Matcher := ⟨m.isMatch, m.split⟩

/-- The engine of automata.  It rejects malformed patterns, and those whose automata are too large. -/
def Engine.automata : Engine where
  build options pattern :=
    match Pattern.read? { toOptions := options } pattern.toList with
    | some p =>
      if p.fits then .ok (Automaton.ofPattern p).matcher
      else .error ("Compiled regex exceeds size limit of " ++ toString Footprint.maxBytes ++ " bytes.")
    | none => .error "malformed pattern"

end ExprLang.Regex
