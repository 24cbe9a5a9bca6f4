/-
  Rules: what schemas are compiled to.

  * `Rule`: one condition on a value.  A schema object becomes `combined`,
    the rules of its keywords in a fixed order.
  * `TextLimits`, `NumberLimits`, `ItemLimits`, `PropertyLimits`: the keywords
    of a group that look at one value only; `violations` tells what a value
    violates.
  * `Problem`: what is wrong with a schema itself.  It becomes a rule that no
    value meets.
-/
import JsonSchema.Result
import JsonSchema.Json.Kind
import JsonSchema.Regex
import JsonSchema.Format

namespace JsonSchema

/-! ## Limits -/

/-- What fails when a condition does. -/
def violationIf (condition : Bool) (v : Violation) : List Violation := if condition then [v] else []

/-- The violations of bounds on a length. -/
def lengthViolations (least most : Option Number) (counted : Counted) (length : Nat) :
    List Violation × List Violation :=
  (match least with
    | some bound => violationIf (Number.less length bound) (.length bound counted .tooSmall)
    | none => [],
  match most with
    | some bound => violationIf (bound.less length) (.length bound counted .tooLarge)
    | none => [])

/-- `maxLength`, `minLength` and `pattern`. -/
structure TextLimits where
  most : Option Number
  least : Option Number
  pattern : Option Pattern

namespace TextLimits

/-- No limit is set. -/
def isEmpty (l : TextLimits) : Bool := l.most.isNone && l.least.isNone && l.pattern.isNone

/-- The violations of a pattern. -/
def patternViolations (text : String) (p : Pattern) : List Violation :=
  if p.isWellFormed then violationIf (!p.searches text) (.unmatchingPattern p.source)
  else [.invalidPattern p.source]

/-- What a text violates. -/
def violations (l : TextLimits) (text : String) : List Violation :=
  let (tooSmall, tooLarge) := lengthViolations l.least l.most .characters text.length
  tooLarge ++ tooSmall ++ (l.pattern.map (patternViolations text)).getD []

end TextLimits

/-- `multipleOf`, `minimum` and `maximum`, the latter two perhaps exclusive. -/
structure NumberLimits where
  multipleOf : Option Number
  minimum : Option Number
  maximum : Option Number
  exclusiveMinimum : Bool
  exclusiveMaximum : Bool

namespace NumberLimits

/-- No limit is set. -/
def isEmpty (l : NumberLimits) : Bool :=
  l.multipleOf.isNone && l.minimum.isNone && l.maximum.isNone

/-- The violation of a divisor.  A divisor that is not positive does not count. -/
def multipleViolations (n divisor : Number) : Except Number.ArithmeticFault (List Violation) :=
  if divisor.isPositive then
    (n.isMultipleOf divisor).map fun multiple => violationIf (!multiple) (.multipleOf divisor)
  else .ok []

/-- The violation of a lower bound. -/
def minimumViolations (n bound : Number) (exclusive : Bool) : List Violation :=
  violationIf (if exclusive then n.atMost bound else n.less bound)
    (.bounds bound .tooSmall exclusive)

/-- The violation of an upper bound. -/
def maximumViolations (n bound : Number) (exclusive : Bool) : List Violation :=
  violationIf (if exclusive then bound.atMost n else bound.less n)
    (.bounds bound .tooLarge exclusive)

/-- What a number violates. -/
def violations (l : NumberLimits) (n : Number) :
    Except Number.ArithmeticFault (List Violation) := do
  let multiples ← match l.multipleOf with
    | some divisor => multipleViolations n divisor
    | none => .ok []
  let tooSmall := match l.minimum with
    | some bound => minimumViolations n bound l.exclusiveMinimum
    | none => []
  let tooLarge := match l.maximum with
    | some bound => maximumViolations n bound l.exclusiveMaximum
    | none => []
  return multiples ++ tooSmall ++ tooLarge

end NumberLimits

/-- `minItems`, `maxItems` and `uniqueItems`. -/
structure ItemLimits where
  least : Option Number
  most : Option Number
  unique : Bool

namespace ItemLimits

/-- No limit is set. -/
def isEmpty (l : ItemLimits) : Bool := l.least.isNone && l.most.isNone && !l.unique

/-- What the items of an array violate. -/
def violations (l : ItemLimits) (items : List Json) : List Violation :=
  let (tooSmall, tooLarge) := lengthViolations l.least l.most .items items.length
  tooSmall ++ tooLarge ++ violationIf (l.unique && !JsonSchema.uniqueItems items) .uniqueItems

end ItemLimits

/-- `maxProperties`, `minProperties` and `required`. -/
structure PropertyLimits where
  most : Option Number
  least : Option Number
  required : Option (List String)

namespace PropertyLimits

/-- No limit is set. -/
def isEmpty (l : PropertyLimits) : Bool := l.most.isNone && l.least.isNone && l.required.isNone

/-- What the members of an object violate. -/
def violations (l : PropertyLimits) (members : Members) : List Violation :=
  let (tooSmall, tooLarge) := lengthViolations l.least l.most .properties members.length
  tooLarge ++ tooSmall ++ match l.required with
    | some names => violationIf (names.any fun name => !members.has name) (.required names)
    | none => []

/-- What a value that is no object violates: it has none of the required properties. -/
def violationsOfOther (l : PropertyLimits) : List Violation :=
  match l.required with
  | some names => [.required names]
  | none => []

end PropertyLimits

/-! ## Problems -/

/-- What is wrong with a schema. -/
inductive Problem where
  | invalidType (type : Json)
  | formatUnsupported (format : String)
  | remoteReference (reference : String)
  | referenceNotFound (reference segment : String)

/-- The violation that every value commits against a schema with a problem. -/
def Problem.violation : Problem → Violation
  | invalidType type => .invalidType type
  | formatUnsupported format => .formatUnsupported format
  | remoteReference reference => .remoteReference reference
  | referenceNotFound reference segment => .referenceNotFound reference segment

/-! ## Rules -/

mutual

/-- A condition on a value. -/
inductive Rule where
  /-- the rules of one schema object, all of which must be met -/
  | combined (rules : List Rule)
  /-- all branches must be met -/
  | allOf (branches : List Rule)
  /-- at least one branch must be met -/
  | anyOf (branches : List Rule)
  /-- exactly one branch must be met -/
  | oneOf (branches : List Rule)
  /-- the rule must not be met -/
  | not (rule : Rule)
  /-- the value is an instance of the named type -/
  | type (name : String)
  /-- the value equals one of those listed -/
  | enum (values : List Json)
  /-- a text is within limits -/
  | text (limits : TextLimits)
  /-- a number is within limits -/
  | number (limits : NumberLimits)
  /-- an array is within limits, and its items meet rules -/
  | array (limits : ItemLimits) (items : ItemRules)
  /-- an object is within limits, and its properties meet rules -/
  | object (limits : PropertyLimits) (properties : PropertyRules)
  /-- an object with the key meets a rule -/
  | dependentRule (key : String) (rule : Rule)
  /-- an object with the key has others too -/
  | dependentKeys (key : String) (names : List String)
  /-- the value passes a check -/
  | format (name : String) (checker : Checker)
  /-- the value meets what a reference stands for -/
  | reference (reference : String)
  /-- no value meets a schema with a problem -/
  | invalid (problem : Problem)

/-- The rules on the items of an array. -/
inductive ItemRules where
  | unchecked
  /-- one rule for every item -/
  | every (rule : Rule)
  /-- a rule for each position, and one for the items beyond -/
  | positional (rules : List Rule) (beyond : Additional)

/-- What becomes of items or properties that no other rule is for. -/
inductive Additional where
  | allowed
  | forbidden
  | governed (rule : Rule)

/-- The rules on the properties of an object. -/
inductive PropertyRules where
  | unchecked
  /-- rules by key, rules by pattern of the key, and one for the properties beyond -/
  | checked (declared : List (String × Rule)) (patterned : List (Pattern × Rule))
      (beyond : Additional)

end

/-- Items are not looked at. -/
def ItemRules.isUnchecked : ItemRules → Bool
  | .unchecked => true
  | _ => false

/-- Properties are not looked at. -/
def PropertyRules.isUnchecked : PropertyRules → Bool
  | .unchecked => true
  | _ => false

end JsonSchema
