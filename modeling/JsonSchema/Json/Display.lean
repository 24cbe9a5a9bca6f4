/-
  JSON values in messages.

  * `Json.literal`: a value inside another one: `None`, `True`, `[1, 'a']`,
    a mapping in braces, quoted strings.
  * `Json.display`: a value on its own, which differs only in that a string
    stands without quotes.
-/
import JsonSchema.Json
import JsonSchema.Text.Quoted

namespace JsonSchema

/-- Texts with commas between them. -/
def commaSeparated (texts : List String) : String := ", ".intercalate texts

/-- A list of texts in square brackets. -/
def bracketed (texts : List String) : String := "[" ++ commaSeparated texts ++ "]"

/-- A list of texts in braces. -/
def braced (texts : List String) : String := "\x7b" ++ commaSeparated texts ++ "\x7d"

/-- The spelling of a truth value. -/
def truthLiteral (b : Bool) : String := if b then "True" else "False"

/-- The spelling of the absence of a value. -/
def absentLiteral : String := "None"

namespace Json

mutual

/-- The text of a value inside another one. -/
def literal : Json → String
  | .null => absentLiteral
  | .bool b => truthLiteral b
  | .int n => (Number.int n).render
  | .double d => d.render
  | .string s => Text.Quoted.quote s
  | .array items => bracketed (itemLiterals items)
  | .object members => braced (memberLiterals members)
termination_by structural v => v

/-- The texts of items. -/
def itemLiterals : List Json → List String
  | [] => []
  | item :: rest => item.literal :: itemLiterals rest
termination_by structural items => items

/-- The texts of members, key and value. -/
def memberLiterals : List (String × Json) → List String
  | [] => []
  | (key, value) :: rest =>
    (Text.Quoted.quote key ++ ": " ++ value.literal) :: memberLiterals rest
termination_by structural members => members

end

/-- The text of a value on its own. -/
def display : Json → String
  | .string s => s
  | v => v.literal

end Json

/-- A list of strings as a message shows it. -/
def displayStrings (texts : List String) : String := bracketed (texts.map Text.Quoted.quote)

end JsonSchema
