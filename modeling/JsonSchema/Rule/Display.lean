/-
  Descriptions of rules.

  * `Description`: a short text, in which branches are counted, and a detailed
    one, in which they are listed.
  * `Rule.describe`: both texts for a rule.
-/
import JsonSchema.Rule

namespace JsonSchema

/-- The name of the error that a problem leads to. -/
def Problem.errorName : Problem → String
  | invalidType _ => "InvalidTypeError"
  | formatUnsupported _ => "FormatUnsupportedError"
  | remoteReference _ => "RemoteReferenceUnsupportedError"
  | referenceNotFound .. => "ReferenceNotFoundError"

/-- A name with its attributes. -/
def described (name : String) (attributes : List String) : String :=
  name ++ "(" ++ commaSeparated attributes ++ ")"

/-- An attribute with its text. -/
def field (name text : String) : List String := [name ++ "=" ++ text]

/-- An attribute that is a number, if it is set. -/
def numberAttribute (name : String) (n : Option Number) : List String :=
  (n.map fun n => field name n.render).getD []

/-- An attribute that is only shown when it holds. -/
def flagAttribute (name : String) (holds : Bool) : List String :=
  if holds then field name (truthLiteral true) else []

namespace TextLimits

/-- The limits that are set. -/
def attributes (l : TextLimits) : List String :=
  numberAttribute "maxLength" l.most ++ numberAttribute "minLength" l.least ++
    (l.pattern.map fun p => field "pattern" p.source).getD []

end TextLimits

namespace NumberLimits

/-- The limits that are set. -/
def attributes (l : NumberLimits) : List String :=
  numberAttribute "multipleOf" l.multipleOf ++
    numberAttribute "minimum" l.minimum ++
    flagAttribute "exclusiveMinimum" (l.minimum.isSome && l.exclusiveMinimum) ++
    numberAttribute "maximum" l.maximum ++
    flagAttribute "exclusiveMaximum" (l.maximum.isSome && l.exclusiveMaximum)

end NumberLimits

namespace ItemLimits

/-- The limits that are set. -/
def attributes (l : ItemLimits) : List String :=
  numberAttribute "min_items" l.least ++ numberAttribute "max_items" l.most ++
    flagAttribute "unique_items" l.unique

end ItemLimits

namespace PropertyLimits

/-- The limits that are set. -/
def attributes (l : PropertyLimits) : List String :=
  numberAttribute "max_properties" l.most ++ numberAttribute "min_properties" l.least ++
    (l.required.map fun names => field "required" (displayStrings names)).getD []

end PropertyLimits

/-- An attribute that lists names, unless there are none. -/
def namesAttribute (name : String) (names : List String) : List String :=
  if names.isEmpty then [] else field name (displayStrings names)

/-- The texts that describe a rule. -/
structure Description where
  short : String
  detailed : String
deriving DecidableEq, Repr

namespace Description

/-- A rule with one text for both purposes. -/
def plain (name : String) (attributes : List String) : Description :=
  let text := described name attributes
  ⟨text, text⟩

/-- A rule with branches. -/
def ofBranches (name : String) (branches : List Description) : Description :=
  ⟨described name (field "constraints" (toString branches.length)),
    described name (field "constraints" (displayStrings (branches.map (·.short))))⟩

end Description

mutual

/-- The texts for a rule. -/
def Rule.describe : Rule → Description
  | .combined rules => .ofBranches "CombinedConstraint" (Rule.describeAll rules)
  | .allOf branches => .ofBranches "AllOfConstraint" (Rule.describeAll branches)
  | .anyOf branches => .ofBranches "AnyOfConstraint" (Rule.describeAll branches)
  | .oneOf branches => .ofBranches "OneOfConstraint" (Rule.describeAll branches)
  | .not rule => .plain "NotConstraint" (field "constraint" rule.describe.short)
  | .type name => .plain "TypeConstraint" (field "type" name)
  | .enum values => .plain "EnumConstraint" (field "values" (Json.array values).display)
  | .text limits => .plain "StringConstraint" limits.attributes
  | .number limits => .plain "NumberConstraint" limits.attributes
  | .array limits items => .plain "ArrayConstraint" (limits.attributes ++ items.attributes)
  | .object limits properties =>
    .plain "ObjectConstraint" (limits.attributes ++ properties.attributes)
  | .dependentRule key rule =>
    .plain "DependencyConstraint" (field "key" key ++ field "depends_on" rule.describe.short)
  | .dependentKeys key names =>
    .plain "DependencyConstraint" (field "key" key ++ field "depends_on" (displayStrings names))
  | .format name _ => .plain "FormatConstraint" (field "format" name)
  | .reference reference =>
    .plain "ReferenceConstraint" (field "reference" ("'" ++ reference ++ "'"))
  | .invalid problem => .plain "AlwaysInvalidConstraint" [problem.errorName]
termination_by structural r => r

/-- The texts for several rules. -/
def Rule.describeAll : List Rule → List Description
  | [] => []
  | r :: rest => r.describe :: Rule.describeAll rest
termination_by structural rs => rs

/-- The attributes that are the rules on items. -/
def ItemRules.attributes : ItemRules → List String
  | .unchecked => []
  | .every rule => field "items" rule.describe.short
  | .positional rules beyond =>
    field "items" (bracketed ((Rule.describeAll rules).map (·.detailed))) ++
      beyond.attributes "additional_items"
termination_by structural r => r

/-- The attribute that is what becomes of the rest, unless it is allowed. -/
def Additional.attributes (name : String) : Additional → List String
  | .allowed => []
  | .forbidden => field name (truthLiteral false)
  | .governed rule => field name rule.describe.short
termination_by structural a => a

/-- The attributes that are the rules on properties. -/
def PropertyRules.attributes : PropertyRules → List String
  | .unchecked => []
  | .checked declared patterned beyond =>
    namesAttribute "properties" (declared.map (·.1)) ++
      namesAttribute "pattern_properties" (patterned.map (·.1.source)) ++
      beyond.attributes "additional_properties"
termination_by structural r => r

end

end JsonSchema
