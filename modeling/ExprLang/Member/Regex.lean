import ExprLang.Member.Basic
import ExprLang.Value.Coercion

/-!
# Members of regular expressions

A regular expression has its source, its flags and a test of texts.
-/

namespace ExprLang

/-- The member of a regular expression: its source, its flags, what single flags are set, or the test. -/
def regexMember (re : Regex) (key : Value) : Member :=
  let name := key.chars
  if name = "source".toList then .value (.string re.source)
  else if name = "flags".toList then .value (.string re.flags)
  else if name = "global".toList then .value (.bool (re.hasFlag 'g'))
  else if name = "ignoreCase".toList then .value (.bool (re.hasFlag 'i'))
  else if name = "multiline".toList then .value (.bool (re.hasFlag 'm'))
  else if name = "test".toList then .method .regexTest
  else .value .undefined

/-- Runs the test of a regular expression on a text. -/
def testRegex (receiver : Value) (arguments : List Value) : Eval Value :=
  match receiver with
  | .regex _ re => return .bool (re.matcher.isMatch (arguments.head?.getD .undefined).chars)
  | v => throw (.thrown ("Method RegExp.prototype.test called on incompatible receiver " ++ v.text))

end ExprLang
