/-
  The kinds of JSON values and the type names of schemas.

  * `Json.kind`: the kind of a value; booleans are no numbers.
  * `Json.hasType`: a value is an instance of a type name.  Integers are also
    numbers, and a double without a fractional part is also an integer; a name
    that is no type has no instances.
-/
import JsonSchema.Json

namespace JsonSchema

/-- The closed set of kinds. -/
inductive Kind where
  | null
  | boolean
  | integer
  | number
  | string
  | array
  | object
deriving DecidableEq, Repr

namespace Kind

/-- The name by which schemas call a kind. -/
def name : Kind → String
  | .null => "null"
  | .boolean => "boolean"
  | .integer => "integer"
  | .number => "number"
  | .string => "string"
  | .array => "array"
  | .object => "object"

/-- All kinds, in the alphabetical order of their names. -/
def all : List Kind := [.array, .boolean, .integer, .null, .number, .object, .string]

/-- The kind of a name. -/
def ofName? (name : String) : Option Kind := all.find? (·.name == name)

end Kind

namespace Json

/-- The kind of a value. -/
def kind : Json → Kind
  | .null => .null
  | .bool _ => .boolean
  | .int _ => .integer
  | .double _ => .number
  | .string _ => .string
  | .array _ => .array
  | .object _ => .object

/-- An integer or a double. -/
def isNumber (v : Json) : Bool := v.number?.isSome

/-- An array. -/
def isArray : Json → Bool
  | .array _ => true
  | _ => false

/-- An object. -/
def isObject : Json → Bool
  | .object _ => true
  | _ => false

/-- An instance of a kind. -/
def isOfKind (v : Json) : Kind → Bool
  | .number => v.isNumber
  | .integer => match v with
    | .int _ => true
    | .double d => d.isIntegral
    | _ => false
  | k => v.kind == k

/-- An instance of the type with a name. -/
def hasType (v : Json) (name : String) : Bool :=
  match Kind.ofName? name with
  | some k => v.isOfKind k
  | none => false

end Json

end JsonSchema
