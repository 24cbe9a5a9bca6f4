/-
  What happens while a schema is compiled, for the log.

  * `Event`: the things that happen.
  * `Event.level`, `Event.message`: how they are reported.
-/
import JsonSchema.Json.Display

namespace JsonSchema

/-- How much a report matters. -/
inductive Level where
  | debug
  | info
  | warning
  | error
deriving DecidableEq, Repr

/-- The name of a level. -/
def Level.name : Level → String
  | .debug => "DEBUG"
  | .info => "INFO"
  | .warning => "WARNING"
  | .error => "ERROR"

/-- Something that happens while a schema is compiled. -/
inductive Event where
  | compiling (title : Option Json)
  | resolved (reference : String)
  | remote (reference : String)
  | notFound (reference segment : String)
  | invalidType (type : Json)
  | unsupportedFormat (format : String)
  | malformedPattern (source : String)
  | malformedPropertyPattern (source : String)
  | compiled (title : Option String) (verbose : Bool)

namespace Event

/-- Trouble in the schema is a warning. -/
def level : Event → Level
  | compiling _ => .debug
  | resolved _ => .debug
  | compiled .. => .debug
  | _ => .warning

/-- A title between quotes, if there is one. -/
def titleLiteral (title : Option String) : String :=
  (title.map Text.Quoted.quote).getD absentLiteral

/-- The report of an event. -/
def message : Event → String
  | compiling title => "Compiling schema " ++ (title.map (·.display)).getD "<untitled>"
  | resolved reference => "Resolved reference '" ++ reference ++ "'"
  | remote reference => "Remote reference '" ++ reference ++ "' is not supported"
  | notFound reference segment => "Reference '" ++ reference ++ "' not found at '" ++ segment ++ "'"
  | invalidType type => "Invalid 'type' value: " ++ type.literal
  | unsupportedFormat format => "Unsupported format '" ++ format ++ "'"
  | malformedPattern source => "Invalid regex pattern '" ++ source ++ "'"
  | malformedPropertyPattern source =>
    "Invalid regex pattern '" ++ source ++ "' in patternProperties"
  | compiled title verbose =>
    "Schema " ++ titleLiteral title ++ " compiled (verbose=" ++ truthLiteral verbose ++ ")"

end Event

end JsonSchema
