/-
  Patterns: the regular expressions of schemas.

  * `Pattern.ofSource`: a text together with its regular expression, or with
    the reason why it is none.
  * `Pattern.searches`: the expression matches somewhere in a text; a pattern
    without an expression matches nothing.
  * `Regex.Defect.message`: the report of what is wrong with a text.
-/
import JsonSchema.Regex.Parser
import JsonSchema.Json.Reader

namespace JsonSchema

/-- A regular expression as it is written in a schema. -/
structure Pattern where
  source : String
  expression : Except Regex.Defect Regex.Expression

namespace Pattern

/-- The pattern of a text. -/
def ofSource (source : String) : Pattern := ⟨source, Regex.Parser.parse source.toList⟩

/-- The text is a regular expression. -/
def isWellFormed (p : Pattern) : Bool := p.expression.isOk

/-- A match somewhere in a text. -/
def searches (p : Pattern) (text : String) : Bool :=
  match p.expression with
  | .ok e => e.searches text.toList
  | .error _ => false

end Pattern

/-- The report of a defect. -/
def Regex.Defect.message : Regex.Defect → String
  | .malformed => "malformed regular expression"
  | .countTooLarge => "the repetition number is too large"
  | .tooManyDigits digits => digitLimitMessage digits
  | .codeTooLarge => "Python int too large to convert to C int"
  | .lookBehindTooWide => "invalid SRE code"
  | .incompatibleFlags => "ASCII and UNICODE flags are incompatible"

end JsonSchema
