/-
  Violations: what a value can do wrong.

  * `Violation`: the kinds, each with the data that describes it.
  * `ErrorCode`, `Violation.code`: the name and number of a kind.
  * `ValidationError`: a violation at a place, with the value found there and,
    for combinators, the errors of the branches.
  * `ValidationError.message`: the sentence for an error.
-/
import JsonSchema.Json.Display
import JsonSchema.Json.Equal

namespace JsonSchema

/-- What is counted by a length. -/
inductive Counted where
  | characters
  | items
  | properties
deriving DecidableEq, Repr

/-- On which side of a bound a value lies. -/
inductive Side where
  | tooLarge
  | tooSmall
deriving DecidableEq, Repr

/-- A violation. -/
inductive Violation where
  /-- the value is not of the type -/
  | unmatchingType (expected : String)
  /-- the schema names something that is no type -/
  | invalidType (type : Json)
  /-- no branch accepts the value -/
  | anyOf
  /-- not exactly one branch accepts the value -/
  | oneOf (passing : Nat)
  /-- the value is accepted by what it must not match -/
  | not
  /-- the value is none of those listed -/
  | enum (values : List Json)
  /-- the text does not match -/
  | unmatchingPattern (source : String)
  /-- the schema holds a malformed regular expression -/
  | invalidPattern (source : String)
  /-- the number is no multiple -/
  | multipleOf (divisor : Number)
  /-- two items are equal -/
  | uniqueItems
  /-- properties are missing -/
  | required (names : List String)
  /-- too long or too short -/
  | length (bound : Number) (counted : Counted) (side : Side)
  /-- too large or too small -/
  | bounds (bound : Number) (side : Side) (exclusive : Bool)
  /-- an item beyond those that are allowed -/
  | additionalItem (index : Nat)
  /-- a property beyond those that are allowed -/
  | additionalProperty (name : String)
  /-- a property without another one that it needs -/
  | dependencyMissing (key dependency : String)
  /-- the schema names a format that is not known -/
  | formatUnsupported (format : String)
  /-- the value is not of the format -/
  | invalidFormat (format : String)
  /-- a reference leads nowhere from a segment on -/
  | referenceNotFound (reference segment : String)
  /-- a reference leads to another document -/
  | remoteReference (reference : String)
  /-- a reference came back to itself at the same place of the value -/
  | referenceCycle (reference : String)
  /-- references are nested too deeply -/
  | referenceDepth (reference : String) (depth : Nat)

/-! ## Codes -/

/-- The names of the kinds of violation. -/
inductive ErrorCode where
  | unmatchingType
  | invalidType
  | anyOf
  | oneOf
  | not
  | enum
  | unmatchingRegex
  | invalidRegex
  | multipleOf
  | uniqueItems
  | required
  | length
  | valueBounds
  | additionalProperties
  | dependencyMissing
  | formatUnsupported
  | invalidFormat
  | referenceNotFound
  | remoteReferenceUnsupported
  | referenceCycle
  | referenceDepthExceeded
deriving DecidableEq, Repr

namespace ErrorCode

/-- All codes in the order of their numbers, which begin with one. -/
def all : List ErrorCode :=
  [unmatchingType, invalidType, anyOf, oneOf, not, enum, unmatchingRegex, invalidRegex,
    multipleOf, uniqueItems, required, length, valueBounds, additionalProperties,
    dependencyMissing, formatUnsupported, invalidFormat, referenceNotFound,
    remoteReferenceUnsupported, referenceCycle, referenceDepthExceeded]

/-- The name of a code. -/
def name : ErrorCode → String
  | unmatchingType => "UNMATCHING_TYPE"
  | invalidType => "INVALID_TYPE"
  | anyOf => "ANY_OF"
  | oneOf => "ONE_OF"
  | not => "NOT"
  | enum => "ENUM"
  | unmatchingRegex => "UNMATCHING_REGEX"
  | invalidRegex => "INVALID_REGEX"
  | multipleOf => "MULTIPLE_OF"
  | uniqueItems => "UNIQUE_ITEMS"
  | required => "REQUIRED"
  | length => "LENGTH"
  | valueBounds => "VALUE_BOUNDS"
  | additionalProperties => "ADDITIONAL_PROPERTIES"
  | dependencyMissing => "DEPENDENCY_MISSING"
  | formatUnsupported => "FORMAT_UNSUPPORTED"
  | invalidFormat => "INVALID_FORMAT"
  | referenceNotFound => "REFERENCE_NOT_FOUND"
  | remoteReferenceUnsupported => "REMOTE_REFERENCE_UNSUPPORTED"
  | referenceCycle => "REFERENCE_CYCLE"
  | referenceDepthExceeded => "REFERENCE_DEPTH_EXCEEDED"

end ErrorCode

namespace Violation

/-- The code of a violation. -/
def code : Violation → ErrorCode
  | unmatchingType _ => .unmatchingType
  | invalidType _ => .invalidType
  | anyOf => .anyOf
  | oneOf _ => .oneOf
  | not => .not
  | enum _ => .enum
  | unmatchingPattern _ => .unmatchingRegex
  | invalidPattern _ => .invalidRegex
  | multipleOf _ => .multipleOf
  | uniqueItems => .uniqueItems
  | required _ => .required
  | length .. => .length
  | bounds .. => .valueBounds
  | additionalItem _ => .additionalProperties
  | additionalProperty _ => .additionalProperties
  | dependencyMissing .. => .dependencyMissing
  | formatUnsupported _ => .formatUnsupported
  | invalidFormat _ => .invalidFormat
  | referenceNotFound .. => .referenceNotFound
  | remoteReference _ => .remoteReferenceUnsupported
  | referenceCycle _ => .referenceCycle
  | referenceDepth .. => .referenceDepthExceeded

/-! ## Sentences -/

/-- What a length is the length of. -/
def countedNoun : Counted → String
  | .characters => "Length of string"
  | .items => "Length of array"
  | .properties => "Number of properties"

/-- A text between apostrophes. -/
def apostrophes (s : String) : String := "'" ++ s ++ "'"

/-- The relation that a bound demands. -/
def relation : Side → Bool → String
  | .tooLarge, true => "less than"
  | .tooLarge, false => "less than or equal to"
  | .tooSmall, true => "greater than"
  | .tooSmall, false => "greater than or equal to"

/-- The sentence for a violation by a value. -/
def message (value : Json) : Violation → String
  | unmatchingType expected =>
    apostrophes value.display ++ " is not of type " ++ apostrophes expected
  | invalidType type => apostrophes type.display ++ " is not a valid 'type'"
  | anyOf => apostrophes value.display ++ " does not match any of the anyOf schemas"
  | oneOf passing => toString passing ++ " oneOf schemas matched instead of exactly 1"
  | not => apostrophes value.display ++ " validated against a 'not' schema"
  | enum values =>
    apostrophes value.display ++ " is not one of " ++ (Json.array values).display
  | unmatchingPattern source =>
    apostrophes value.display ++ " does not match pattern " ++ apostrophes source
  | invalidPattern source => "[Schema] regex pattern " ++ apostrophes source ++ " is not valid"
  | multipleOf divisor => value.display ++ " is not a multiple of " ++ divisor.render
  | uniqueItems => value.display ++ " does not have unique items"
  | required names => "Required properties are missing: " ++ displayStrings names
  | length bound counted .tooLarge =>
    countedNoun counted ++ " is larger than maximum of " ++ bound.render
  | length bound counted .tooSmall =>
    countedNoun counted ++ " is smaller than minimum of " ++ bound.render
  | bounds bound side exclusive =>
    "Value " ++ value.display ++ " must be " ++ relation side exclusive ++ " " ++ bound.render
  | additionalItem index =>
    "Additional item at index " ++ toString index ++ " is not permitted in this array"
  | additionalProperty name =>
    "Additional property " ++ apostrophes name ++ " is not permitted in this object"
  | dependencyMissing key dependency =>
    apostrophes key ++ " is missing its dependency " ++ apostrophes dependency
  | formatUnsupported format =>
    "'format' validation of " ++ apostrophes format ++ " is not supported"
  | invalidFormat format => apostrophes value.display ++ " is not a valid " ++ apostrophes format
  | referenceNotFound reference segment =>
    "Reference not found: " ++ apostrophes segment ++ " in " ++ apostrophes reference
  | remoteReference reference => "Remote $ref " ++ apostrophes reference ++ " is not supported"
  | referenceCycle reference =>
    "$ref " ++ apostrophes reference ++ " re-entered itself without consuming any input"
  | referenceDepth reference depth =>
    "$ref " ++ apostrophes reference ++ " exceeds the maximum reference depth of " ++
      toString depth

/-- Violations of one kind with equal data; numbers are compared by value. -/
def same : Violation → Violation → Bool
  | unmatchingType a, unmatchingType b => a == b
  | invalidType a, invalidType b => a.identical b
  | anyOf, anyOf => true
  | oneOf a, oneOf b => a == b
  | not, not => true
  | enum a, enum b => (Json.array a).identical (.array b)
  | unmatchingPattern a, unmatchingPattern b => a == b
  | invalidPattern a, invalidPattern b => a == b
  | multipleOf a, multipleOf b => a.identical b
  | uniqueItems, uniqueItems => true
  | required a, required b => a == b
  | length a c s, length b d t => a.identical b && c == d && s == t
  | bounds a s e, bounds b t f => a.identical b && s == t && e == f
  | additionalItem a, additionalItem b => a == b
  | additionalProperty a, additionalProperty b => a == b
  | dependencyMissing a c, dependencyMissing b d => a == b && c == d
  | formatUnsupported a, formatUnsupported b => a == b
  | invalidFormat a, invalidFormat b => a == b
  | referenceNotFound a s, referenceNotFound b t => a == b && s == t
  | remoteReference a, remoteReference b => a == b
  | referenceCycle a, referenceCycle b => a == b
  | referenceDepth a n, referenceDepth b m => a == b && n == m
  | _, _ => false

end Violation

/-! ## Errors -/

/-- A violation by the value at a path.  The errors of branches are kept on demand only. -/
inductive ValidationError where
  | mk (path : String) (value : Json) (violation : Violation) (causes : List ValidationError)

namespace ValidationError

/-- The pointer to the value that violates. -/
def path : ValidationError → String
  | mk path _ _ _ => path

/-- The value that violates. -/
def value : ValidationError → Json
  | mk _ value _ _ => value

/-- What is violated. -/
def violation : ValidationError → Violation
  | mk _ _ violation _ => violation

/-- The errors of the branches of a combinator. -/
def causes : ValidationError → List ValidationError
  | mk _ _ _ causes => causes

/-- The sentence for an error, with its place. -/
def display (e : ValidationError) : String :=
  "Error at " ++ Violation.apostrophes e.path ++ ": " ++ e.violation.message e.value

mutual

/-- Errors at one place with the same violation and the same causes; the values do not count. -/
def same : ValidationError → ValidationError → Bool
  | mk path _ violation causes, other =>
    path == other.path && violation.same other.violation && sameAll causes other.causes
termination_by structural e => e

/-- Errors that are the same one by one. -/
def sameAll : List ValidationError → List ValidationError → Bool
  | [], [] => true
  | e :: es, f :: fs => same e f && sameAll es fs
  | _, _ => false
termination_by structural es => es

end

end ValidationError

end JsonSchema
