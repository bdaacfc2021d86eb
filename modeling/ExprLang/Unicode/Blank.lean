import ExprLang.Unicode.Intervals

/-!
# White space

The characters with the property of white space, which separate tokens and are trimmed from texts.
-/

namespace ExprLang.Unicode

/-- The characters of white space. -/
def blanks : Intervals := [
  (0x9, 0xD), (0x20, 0x20), (0x85, 0x85), (0xA0, 0xA0), (0x1680, 0x1680), (0x2000, 0x200A), (0x2028, 0x2029),
  (0x202F, 0x202F), (0x205F, 0x205F), (0x3000, 0x3000)]

def isBlank (c : Char) : Bool := blanks.contains c

end ExprLang.Unicode
