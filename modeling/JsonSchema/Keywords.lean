/-
  The keywords of schema objects.

  * `Environment`: what a schema object is read under, the known formats and
    the meaning of references.
  * `Reading`: a value together with the rules that it stands for wherever a
    keyword may hold a schema, a list of schemas, or schemas by name.
  * `rulesOf`: the rules of a schema object, one for each group of keywords, in
    a fixed order.  A keyword whose value has the wrong shape is ignored, but
    for `type`, which then accepts nothing.
-/
import JsonSchema.Rule

namespace JsonSchema

/-- What schema objects are read under. -/
structure Environment where
  registry : Registry
  reference : String → Rule

/-- A value and what it stands for as a part of a schema. -/
structure Reading where
  value : Json
  /-- the rule of an object -/
  schema : Option Rule
  /-- the rules of an array of objects only -/
  schemas : Option (List Rule)
  /-- the rules of those members of an object that are objects -/
  named : List (String × Rule)
  /-- the rules of the members of an object as dependencies -/
  dependencies : List Rule

/-- The members of a schema object with what they stand for. -/
abbrev Fields := List (String × Reading)

namespace Fields

/-- What a keyword holds. -/
def value? (f : Fields) (keyword : String) : Option Json := (f.lookup keyword).map (·.value)

/-- The schema that a keyword holds. -/
def schema? (f : Fields) (keyword : String) : Option Rule := (f.lookup keyword).bind (·.schema)

/-- The list of schemas that a keyword holds. -/
def schemas? (f : Fields) (keyword : String) : Option (List Rule) :=
  (f.lookup keyword).bind (·.schemas)

/-- The schemas by name that a keyword holds; none if it holds no object. -/
def named (f : Fields) (keyword : String) : List (String × Rule) :=
  ((f.lookup keyword).map (·.named)).getD []

/-- The dependencies that a keyword holds; none if it holds no object. -/
def dependencies (f : Fields) (keyword : String) : List Rule :=
  ((f.lookup keyword).map (·.dependencies)).getD []

/-- The number that a keyword holds. -/
def number? (f : Fields) (keyword : String) : Option Number := (f.value? keyword).bind (·.number?)

/-- The text that a keyword holds. -/
def string? (f : Fields) (keyword : String) : Option String := (f.value? keyword).bind (·.string?)

/-- The texts that a keyword lists. -/
def strings? (f : Fields) (keyword : String) : Option (List String) :=
  (f.value? keyword).bind (·.strings?)

/-- A keyword is set to `true`. -/
def isTrue (f : Fields) (keyword : String) : Bool := (f.value? keyword).any (·.isTrue)

/-- A keyword is present. -/
def has (f : Fields) (keyword : String) : Bool := (f.lookup keyword).isSome

end Fields

/-! ## Groups of keywords -/

/-- The rule of a type: a name, a list of names, or a problem. -/
def typeRule (type : Json) : Rule :=
  match type with
  | .string name => .type name
  | v => match v.strings? with
    | some names => .anyOf (names.map .type)
    | none => .invalid (.invalidType type)

/-- What becomes of the rest: a schema governs it, `false` forbids it, all else allows it. -/
def additional (f : Fields) (keyword : String) : Additional :=
  match f.schema? keyword with
  | some rule => .governed rule
  | none => match f.value? keyword with
    | some (.bool false) => .forbidden
    | _ => .allowed

/-- The rule of the keywords on texts. -/
def textRule? (f : Fields) : Option Rule :=
  let limits : TextLimits :=
    ⟨f.number? "maxLength", f.number? "minLength", (f.string? "pattern").map Pattern.ofSource⟩
  if limits.isEmpty then none else some (.text limits)

/-- The rule of the keywords on numbers. -/
def numberRule? (f : Fields) : Option Rule :=
  let limits : NumberLimits :=
    ⟨f.number? "multipleOf", f.number? "minimum", f.number? "maximum",
      f.isTrue "exclusiveMinimum", f.isTrue "exclusiveMaximum"⟩
  if limits.isEmpty then none else some (.number limits)

/-- The rules on items.  Only a list of schemas leaves items for `additionalItems`. -/
def itemRules (f : Fields) : ItemRules :=
  match f.schema? "items", f.schemas? "items" with
  | some rule, _ => .every rule
  | none, some rules => .positional rules (additional f "additionalItems")
  | none, none => .unchecked

/-- The rule of the keywords on arrays. -/
def arrayRule? (f : Fields) : Option Rule :=
  let limits : ItemLimits := ⟨f.number? "minItems", f.number? "maxItems", f.isTrue "uniqueItems"⟩
  let items := itemRules f
  if limits.isEmpty && items.isUnchecked then none else some (.array limits items)

/-- The rules on properties: they are looked at if any of three keywords is present. -/
def propertyRules (f : Fields) : PropertyRules :=
  if f.has "properties" || f.has "patternProperties" || f.has "additionalProperties" then
    .checked (f.named "properties")
      ((f.named "patternProperties").map fun (source, rule) => (.ofSource source, rule))
      (additional f "additionalProperties")
  else .unchecked

/-- The rule of the keywords on objects. -/
def objectRule? (f : Fields) : Option Rule :=
  let limits : PropertyLimits :=
    ⟨f.number? "maxProperties", f.number? "minProperties", f.strings? "required"⟩
  let properties := propertyRules f
  if limits.isEmpty && properties.isUnchecked then none else some (.object limits properties)

/-- The rule of one dependency. -/
def dependencyRule? (key : String) (needs : Reading) : Option Rule :=
  match needs.schema with
  | some rule => some (.dependentRule key rule)
  | none => needs.value.strings?.map fun names => .dependentKeys key names

/-- The rule of a format. -/
def formatRule (env : Environment) (name : String) : Rule :=
  match env.registry.get? name with
  | some checker => .format name checker
  | none => .invalid (.formatUnsupported name)

/-- The values that a keyword lists. -/
def Json.items? : Json → Option (List Json)
  | .array items => some items
  | _ => none

/-- The rules of a schema object. -/
def rulesOf (env : Environment) (f : Fields) : List Rule :=
  [((f.string? "$ref").map env.reference).toList,
    ((f.value? "type").map typeRule).toList,
    ((f.schemas? "allOf").map .allOf).toList,
    ((f.schemas? "anyOf").map .anyOf).toList,
    ((f.schemas? "oneOf").map .oneOf).toList,
    ((f.schema? "not").map .not).toList,
    (((f.value? "enum").bind (·.items?)).map .enum).toList,
    (textRule? f).toList,
    (numberRule? f).toList,
    (arrayRule? f).toList,
    (objectRule? f).toList,
    f.dependencies "dependencies",
    ((f.string? "format").map (formatRule env)).toList].flatten

/-! ## Whole values -/

namespace Reading

/-- What an object stands for, given its members. -/
def ofFields (env : Environment) (members : Members) (f : Fields) : Reading where
  value := .object members
  schema := some (.combined (rulesOf env f))
  schemas := none
  named := f.filterMap fun (name, r) => r.schema.map fun rule => (name, rule)
  dependencies := f.filterMap fun (key, needs) => dependencyRule? key needs

/-- What an array stands for, given its items. -/
def ofItems (items : List Json) (readings : List Reading) : Reading where
  value := .array items
  schema := none
  schemas := readings.mapM (·.schema)
  named := []
  dependencies := []

/-- What any other value stands for. -/
def ofScalar (v : Json) : Reading := ⟨v, none, none, [], []⟩

end Reading

mutual

/-- What a value stands for. -/
def Json.reading (env : Environment) : Json → Reading
  | .object members => .ofFields env members (Members.fields env members)
  | .array items => .ofItems items (Json.readings env items)
  | v => .ofScalar v
termination_by structural v => v

/-- What the items of an array stand for. -/
def Json.readings (env : Environment) : List Json → List Reading
  | [] => []
  | v :: rest => v.reading env :: Json.readings env rest
termination_by structural items => items

/-- What the members of an object stand for. -/
def Members.fields (env : Environment) : List (String × Json) → List (String × Reading)
  | [] => []
  | (key, v) :: rest => (key, v.reading env) :: Members.fields env rest
termination_by structural members => members

end

/-- The rules of a schema object. -/
def Members.rules (members : Members) (env : Environment) : List Rule :=
  rulesOf env (Members.fields env members)

/-- The rule that a schema object is compiled to. -/
def Members.rule (members : Members) (env : Environment) : Rule := .combined (members.rules env)

end JsonSchema
