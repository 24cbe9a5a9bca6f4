/-
  White space: the characters of Unicode 14.0 that separate words or lines,
  the four ASCII information separators among them.
-/
import JsonSchema.Text.CodePoints

namespace JsonSchema.Text

/-- White space. -/
def blank : CodePoints := .ofBounds #[
  0x9, 0xe, 0x1c, 0x21, 0x85, 0x86, 0xa0, 0xa1, 0x1680, 0x1681, 0x2000, 0x200b, 0x2028, 0x202a,
  0x202f, 0x2030, 0x205f, 0x2060, 0x3000, 0x3001]

/-- White space. -/
def isBlank (c : Nat) : Bool := blank.contains c

/-- White space of ASCII, without the information separators. -/
def isAsciiBlank (c : Nat) : Bool := c == 0x20 || (0x09 ≤ c && c ≤ 0x0d)

end JsonSchema.Text
