/-
  What a schema object is compiled to, in terms of what its keys hold.

  * `Members.schema?`, `Members.schemas?`, `Members.named`: the schema, the list
    of schemas, and the schemas by name that a key of an object holds.
  * `Members.textLimits`, …, `Members.propertyRules`: the limits and rules of the
    groups of keywords.
  * `Members.rules_eq`: the rules of a schema object are those of its groups,
    with the rules of its subschemas inside.  Readings, by which they are
    compiled bottom-up, do not occur any more.
-/
import JsonSchema.Schema
import Mathlib.Data.List.Basic

namespace JsonSchema

/-! ## What keys hold -/

/-- The objects of an array that holds nothing else. -/
def Json.objects? : Json → Option (List Members)
  | .array items => items.mapM members?
  | _ => none

namespace Members

variable (S : Members) (env : Environment) (key : String)

/-- The schema that a key holds. -/
def schema? : Option Members := (S.get? key).bind (·.members?)

/-- The schemas that a key lists. -/
def schemas? : Option (List Members) := (S.get? key).bind (·.objects?)

/-- The schemas that a key holds by name. -/
def named : List (String × Members) :=
  ((S.schema? key).getD []).filterMap fun (name, v) => v.members?.map fun T => (name, T)

/-- The number that a key holds. -/
def number? : Option Number := (S.get? key).bind (·.number?)

/-- The texts that a key lists. -/
def strings? : Option (List String) := (S.get? key).bind (·.strings?)

/-- A key holds `true`. -/
def isTrue : Bool := (S.get? key).any (·.isTrue)

/-- What a key says about the rest. -/
def additional : Additional :=
  match S.schema? key with
  | some T => .governed (T.rule env)
  | none => match S.get? key with
    | some (.bool false) => .forbidden
    | _ => .allowed

/-- The limits on texts. -/
def textLimits : TextLimits :=
  ⟨S.number? "maxLength", S.number? "minLength", (S.string? "pattern").map Pattern.ofSource⟩

/-- The limits on numbers. -/
def numberLimits : NumberLimits :=
  ⟨S.number? "multipleOf", S.number? "minimum", S.number? "maximum",
    S.isTrue "exclusiveMinimum", S.isTrue "exclusiveMaximum"⟩

/-- The limits on arrays. -/
def itemLimits : ItemLimits :=
  ⟨S.number? "minItems", S.number? "maxItems", S.isTrue "uniqueItems"⟩

/-- The limits on objects. -/
def propertyLimits : PropertyLimits :=
  ⟨S.number? "maxProperties", S.number? "minProperties", S.strings? "required"⟩

/-- The rules on items. -/
def itemRules : ItemRules :=
  match S.schema? "items", S.schemas? "items" with
  | some T, _ => .every (T.rule env)
  | none, some Ts => .positional (Ts.map fun T => T.rule env) (S.additional env "additionalItems")
  | none, none => .unchecked

/-- Some keyword on properties is present. -/
def hasPropertyRules : Bool :=
  S.has "properties" || S.has "patternProperties" || S.has "additionalProperties"

/-- The rules on properties. -/
def propertyRules : PropertyRules :=
  if S.hasPropertyRules then
    .checked ((S.named "properties").map fun (name, T) => (name, T.rule env))
      ((S.named "patternProperties").map fun (source, T) => (.ofSource source, T.rule env))
      (S.additional env "additionalProperties")
  else .unchecked

/-- The rule of a dependency. -/
def dependency? (needs : Json) : Option Rule :=
  match needs.members? with
  | some T => some (.dependentRule key (T.rule env))
  | none => needs.strings?.map fun names => .dependentKeys key names

/-- The rules of the dependencies. -/
def dependencyRules : List Rule :=
  ((S.schema? "dependencies").getD []).filterMap fun (key, needs) => dependency? env key needs

end Members

/-! ## Readings -/

variable (env : Environment)

namespace Json

@[simp] theorem value_reading (v : Json) : (v.reading env).value = v := by
  cases v <;> rfl

theorem schema_reading (v : Json) :
    (v.reading env).schema = v.members?.map fun T => T.rule env := by
  cases v <;> rfl

theorem readings_eq (items : List Json) :
    Json.readings env items = items.map fun v => v.reading env := by
  induction items with
  | nil => rfl
  | cons item items ih => simp [Json.readings, ih]

/-- Objects only have rules only. -/
theorem mapM_schema_reading (items : List Json) :
    (items.map fun v => v.reading env).mapM (·.schema) =
      (items.mapM members?).map fun Ts => Ts.map fun T => T.rule env := by
  induction items with
  | nil => rfl
  | cons item items ih =>
    simp only [List.map_cons, List.mapM_cons, ih, schema_reading]
    cases item.members? <;> cases items.mapM members? <;> rfl

theorem schemas_reading (v : Json) :
    (v.reading env).schemas = v.objects?.map fun Ts => Ts.map fun T => T.rule env := by
  cases v with
  | array items => simp only [reading, Reading.ofItems, readings_eq, mapM_schema_reading, objects?]
  | _ => rfl

end Json

theorem Members.fields_eq (S : Members) :
    Members.fields env S = S.map fun (key, v) => (key, v.reading env) := by
  induction S with
  | nil => rfl
  | cons member S ih =>
    obtain ⟨key, v⟩ := member
    simp [Members.fields, ih]

theorem Json.named_reading (v : Json) :
    (v.reading env).named = (v.members?.getD []).filterMap fun (name, w) =>
      w.members?.map fun T => (name, T.rule env) := by
  cases v with
  | object members =>
    simp only [reading, Reading.ofFields, Members.fields_eq, List.filterMap_map, members?,
      Option.getD_some, Function.comp_def, schema_reading, Option.map_map]
  | _ => rfl

theorem Json.dependencies_reading (v : Json) :
    (v.reading env).dependencies = (v.members?.getD []).filterMap fun (key, needs) =>
      Members.dependency? env key needs := by
  cases v with
  | object members =>
    simp only [reading, Reading.ofFields, Members.fields_eq, List.filterMap_map, members?,
      Option.getD_some, Function.comp_def]
    refine List.filterMap_congr fun member _ => ?_
    simp only [dependencyRule?, schema_reading, value_reading, Members.dependency?]
    cases member.2.members? <;> rfl
  | _ => rfl

/-! ## Fields -/

namespace Members

variable (S : Members) (key : String)

theorem lookup_fields :
    (Members.fields env S).lookup key = (S.get? key).map fun v => v.reading env := by
  unfold Members.get?
  induction S with
  | nil => rfl
  | cons member S ih =>
    obtain ⟨k, v⟩ := member
    simp only [Members.fields, List.lookup_cons, ih]
    cases key == k <;> rfl

@[simp] theorem value?_fields : Fields.value? (Members.fields env S) key = S.get? key := by
  simp [Fields.value?, lookup_fields, Function.comp_def]

@[simp] theorem schema?_fields :
    Fields.schema? (Members.fields env S) key = (S.schema? key).map fun T => T.rule env := by
  simp only [Fields.schema?, lookup_fields, schema?]
  cases S.get? key with
  | none => rfl
  | some v => exact v.schema_reading env

@[simp] theorem schemas?_fields :
    Fields.schemas? (Members.fields env S) key =
      (S.schemas? key).map fun Ts => Ts.map fun T => T.rule env := by
  simp only [Fields.schemas?, lookup_fields, schemas?]
  cases S.get? key with
  | none => rfl
  | some v => exact v.schemas_reading env

@[simp] theorem named_fields :
    Fields.named (Members.fields env S) key = (S.named key).map fun (name, T) => (name, T.rule env) := by
  simp only [Fields.named, lookup_fields, named, schema?]
  cases S.get? key with
  | none => rfl
  | some v =>
    simp only [Option.map_some, Option.getD_some, Option.bind_some, Json.named_reading,
      List.map_filterMap, Option.map_map, Function.comp_def]

@[simp] theorem dependencies_fields :
    Fields.dependencies (Members.fields env S) "dependencies" = S.dependencyRules env := by
  simp only [Fields.dependencies, lookup_fields, dependencyRules, schema?]
  cases S.get? "dependencies" with
  | none => rfl
  | some v => exact v.dependencies_reading env

@[simp] theorem number?_fields : Fields.number? (Members.fields env S) key = S.number? key := by
  simp [Fields.number?, number?]

@[simp] theorem string?_fields : Fields.string? (Members.fields env S) key = S.string? key := by
  simp [Fields.string?, string?]

@[simp] theorem strings?_fields : Fields.strings? (Members.fields env S) key = S.strings? key := by
  simp [Fields.strings?, strings?]

@[simp] theorem isTrue_fields : Fields.isTrue (Members.fields env S) key = S.isTrue key := by
  simp [Fields.isTrue, isTrue]

@[simp] theorem has_fields : Fields.has (Members.fields env S) key = S.has key := by
  simp [Fields.has, lookup_fields, has]

/-! ## Groups -/

theorem additional_fields :
    JsonSchema.additional (Members.fields env S) key = S.additional env key := by
  simp only [JsonSchema.additional, schema?_fields, value?_fields, additional]
  cases S.schema? key <;> rfl

theorem textRule?_fields : textRule? (Members.fields env S) =
    if S.textLimits.isEmpty then none else some (.text S.textLimits) := by
  simp only [textRule?, number?_fields, string?_fields, textLimits]
  rfl

theorem numberRule?_fields : numberRule? (Members.fields env S) =
    if S.numberLimits.isEmpty then none else some (.number S.numberLimits) := by
  simp only [numberRule?, number?_fields, isTrue_fields, numberLimits]
  rfl

theorem itemRules_fields : JsonSchema.itemRules (Members.fields env S) = S.itemRules env := by
  simp only [JsonSchema.itemRules, schema?_fields, schemas?_fields, itemRules, additional_fields]
  cases S.schema? "items" <;> cases S.schemas? "items" <;> rfl

theorem arrayRule?_fields : arrayRule? (Members.fields env S) =
    if S.itemLimits.isEmpty && (S.itemRules env).isUnchecked then none
    else some (.array S.itemLimits (S.itemRules env)) := by
  simp only [arrayRule?, number?_fields, isTrue_fields, itemRules_fields, itemLimits]
  rfl

theorem propertyRules_fields :
    JsonSchema.propertyRules (Members.fields env S) = S.propertyRules env := by
  simp only [JsonSchema.propertyRules, has_fields, named_fields, additional_fields, propertyRules,
    hasPropertyRules, List.map_map, Function.comp_def]
  rfl

theorem objectRule?_fields : objectRule? (Members.fields env S) =
    if S.propertyLimits.isEmpty && (S.propertyRules env).isUnchecked then none
    else some (.object S.propertyLimits (S.propertyRules env)) := by
  simp only [objectRule?, number?_fields, strings?_fields, propertyRules_fields, propertyLimits]
  rfl

/-- **The rules of a schema object are those of its groups of keywords.** -/
theorem rules_eq : S.rules env =
    [((S.string? "$ref").map env.reference).toList,
      ((S.get? "type").map typeRule).toList,
      ((S.schemas? "allOf").map fun Ts => .allOf (Ts.map fun T => T.rule env)).toList,
      ((S.schemas? "anyOf").map fun Ts => .anyOf (Ts.map fun T => T.rule env)).toList,
      ((S.schemas? "oneOf").map fun Ts => .oneOf (Ts.map fun T => T.rule env)).toList,
      ((S.schema? "not").map fun T => .not (T.rule env)).toList,
      (((S.get? "enum").bind (·.items?)).map .enum).toList,
      (if S.textLimits.isEmpty then none else some (.text S.textLimits)).toList,
      (if S.numberLimits.isEmpty then none else some (.number S.numberLimits)).toList,
      (if S.itemLimits.isEmpty && (S.itemRules env).isUnchecked then none
        else some (.array S.itemLimits (S.itemRules env))).toList,
      (if S.propertyLimits.isEmpty && (S.propertyRules env).isUnchecked then none
        else some (.object S.propertyLimits (S.propertyRules env))).toList,
      S.dependencyRules env,
      ((S.string? "format").map (formatRule env)).toList].flatten := by
  simp only [rules, rulesOf, string?_fields, value?_fields, schemas?_fields, schema?_fields,
    textRule?_fields, numberRule?_fields, arrayRule?_fields, objectRule?_fields,
    dependencies_fields, Option.map_map, Function.comp_def]

end Members

end JsonSchema
