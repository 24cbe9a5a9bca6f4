/-
  Schemas inside schemas, and what a survey meets in them.

  * `Json.Inside`: a value is a proper part of another.
  * `Members.subschemas`: the schema objects immediately inside a schema object,
    wherever a keyword may hold one.
  * `Rule.Mentions`: a rule holds a reference.
  * `Members.mem_steps_rule`: the steps of a schema object are those of its own
    keywords and those of its subschemas.
  * `Members.mentions_rule`: what the rule of a schema object mentions comes from
    its `$ref` or from the rule of a subschema.
  * `Members.mem_references_of_mentions`: mentioned references are written
    somewhere in the schema object.
-/
import JsonSchema.Proofs.Plan
import JsonSchema.Proofs.Reading
import Mathlib.Logic.Relation

namespace JsonSchema

/-! ## Parts of parts -/

namespace Json

/-- A value is an immediate part of another. -/
def PartOf (w v : Json) : Prop := ∃ part, (part, w) ∈ v.parts

/-- A value is a part of another, or a part of a part, and so on. -/
def Inside : Json → Json → Prop := Relation.TransGen PartOf

theorem partOf_item {v : Json} {items : List Json} (h : v ∈ items) : v.PartOf (.array items) := by
  obtain ⟨i, hi⟩ := List.getElem?_of_mem h
  exact ⟨toString i, mem_parts_array.2 ⟨i, hi, rfl⟩⟩

theorem partOf_member {key : String} {v : Json} {S : Members} (h : (key, v) ∈ S) :
    v.PartOf (.object S) :=
  ⟨key, h⟩

theorem PartOf.sizeOf_lt {w v : Json} (h : w.PartOf v) : sizeOf w < sizeOf v := by
  obtain ⟨part, h⟩ := h
  cases v with
  | object S =>
    have := List.sizeOf_lt_of_mem h
    simp only [parts, Prod.mk.sizeOf_spec] at this
    simp only [object.sizeOf_spec]
    omega
  | array items =>
    obtain ⟨i, hi, -⟩ := mem_parts_array.1 h
    have := List.sizeOf_lt_of_mem (List.mem_of_getElem? hi)
    simp only [array.sizeOf_spec]
    omega
  | _ => cases h

theorem Inside.sizeOf_lt {w v : Json} (h : w.Inside v) : sizeOf w < sizeOf v := by
  induction h with
  | single h => exact h.sizeOf_lt
  | tail _ h ih => exact ih.trans h.sizeOf_lt

/-- What is inside a value is a part of it, or inside one. -/
theorem inside_iff {w v : Json} : w.Inside v ↔ ∃ u, u.PartOf v ∧ (w = u ∨ w.Inside u) := by
  rw [Inside, Relation.TransGen.tail'_iff]
  refine exists_congr fun u => ?_
  rw [and_comm, Relation.reflTransGen_iff_eq_or_transGen, eq_comm]

theorem inside_object {w : Json} {S : Members} :
    w.Inside (.object S) ↔ ∃ e ∈ S, w = e.2 ∨ w.Inside e.2 := by
  rw [inside_iff]
  constructor
  · rintro ⟨u, ⟨key, hu⟩, h⟩
    exact ⟨(key, u), hu, h⟩
  · rintro ⟨e, he, h⟩
    exact ⟨e.2, partOf_member he, h⟩

theorem not_inside_scalar {w v : Json} (hv : v.parts = []) : ¬w.Inside v := by
  rw [inside_iff]
  rintro ⟨u, ⟨part, hu⟩, -⟩
  rw [hv] at hu
  cases hu

theorem Inside.uniqueKeys {w v : Json} (h : w.Inside v) (hv : v.UniqueKeys) : w.UniqueKeys := by
  induction h with
  | single h => exact uniqueKeys_of_mem_parts hv h.choose_spec
  | tail _ h ih => exact ih (uniqueKeys_of_mem_parts hv h.choose_spec)

/-! ## Written references -/

theorem referencesOfItems_eq (items : List Json) :
    referencesOfItems items = items.flatMap (·.references) := by
  induction items with
  | nil => rfl
  | cons item items ih => simp [referencesOfItems, ih]

end Json

theorem Members.references_eq (S : Members) :
    Members.references S = S.flatMap fun (key, v) =>
      (if key = "$ref" then v.string?.toList else []) ++ v.references := by
  induction S with
  | nil => rfl
  | cons member S ih =>
    obtain ⟨key, v⟩ := member
    simp only [Members.references, ih, List.flatMap_cons]

/-- A string under `$ref` is a written reference. -/
theorem Members.mem_references_of_string? {S : Members} {r : String}
    (h : S.string? "$ref" = some r) : r ∈ Members.references S := by
  obtain ⟨v, hv, hr⟩ := Option.bind_eq_some_iff.1 h
  rw [Members.references_eq, List.mem_flatMap]
  exact ⟨("$ref", v), Members.mem_of_get? hv, by simp [hr]⟩

namespace Json

theorem PartOf.references_subset {w v : Json} (h : w.PartOf v) : w.references ⊆ v.references := by
  intro r hr
  obtain ⟨part, h⟩ := h
  cases v with
  | object S =>
    rw [references, Members.references_eq, List.mem_flatMap]
    exact ⟨(part, w), h, List.mem_append_right _ hr⟩
  | array items =>
    obtain ⟨i, hi, -⟩ := mem_parts_array.1 h
    rw [references, referencesOfItems_eq, List.mem_flatMap]
    exact ⟨w, List.mem_of_getElem? hi, hr⟩
  | _ => cases h

theorem Inside.references_subset {w v : Json} (h : w.Inside v) :
    w.references ⊆ v.references := by
  induction h with
  | single h => exact h.references_subset
  | tail _ h ih =>
    intro r hr
    exact h.references_subset (ih hr)

end Json

/-! ## Subschemas -/

namespace Members

/-- A schema object is inside another. -/
def Inside (T S : Members) : Prop := Json.Inside (.object T) (.object S)

variable {S T : Members} {key : String}

theorem Inside.sizeOf_lt (h : T.Inside S) : sizeOf T < sizeOf S := by
  have := Json.Inside.sizeOf_lt h
  simp only [Json.object.sizeOf_spec] at this
  omega

theorem Inside.references_subset (h : T.Inside S) :
    Members.references T ⊆ Members.references S :=
  Json.Inside.references_subset h

theorem eq_object_of_members? {v : Json} (h : v.members? = some T) : v = .object T := by
  cases v with
  | object U => cases h; rfl
  | _ => cases h

theorem mem_of_schema? (h : S.schema? key = some T) : (key, .object T) ∈ S := by
  obtain ⟨v, hv, hT⟩ := Option.bind_eq_some_iff.1 h
  rw [← eq_object_of_members? hT]
  exact mem_of_get? hv

theorem inside_of_schema? (h : S.schema? key = some T) : T.Inside S :=
  .single (Json.partOf_member (mem_of_schema? h))

/-- The members of what a key holds are two steps down. -/
theorem inside_of_mem_schema? {U : Members} {name : String} (hU : S.schema? key = some U)
    (h : (name, .object T) ∈ U) : T.Inside S := by
  have hTU : T.Inside U := .single (Json.partOf_member h)
  exact hTU.trans (inside_of_schema? hU)

theorem mem_of_mapM_members? {items : List Json} {Ts : List Members}
    (h : items.mapM Json.members? = some Ts) (hT : T ∈ Ts) : .object T ∈ items := by
  induction items generalizing Ts with
  | nil =>
    cases h
    cases hT
  | cons item items ih =>
    simp only [List.mapM_cons, Option.bind_eq_bind, Option.bind_eq_some_iff, Option.pure_def,
      Option.some.injEq] at h
    obtain ⟨U, hU, Us, hUs, rfl⟩ := h
    rcases List.mem_cons.1 hT with rfl | hT
    · rw [eq_object_of_members? hU]
      exact List.mem_cons_self
    · exact List.mem_cons_of_mem _ (ih hUs hT)

theorem inside_of_schemas? {Ts : List Members} (h : S.schemas? key = some Ts) (hT : T ∈ Ts) :
    T.Inside S := by
  obtain ⟨v, hv, hTs⟩ := Option.bind_eq_some_iff.1 h
  cases v with
  | array items =>
    have hitem : (Json.object T).PartOf (.array items) :=
      Json.partOf_item (mem_of_mapM_members? hTs hT)
    have hitems : (Json.array items).PartOf (.object S) := Json.partOf_member (mem_of_get? hv)
    exact .tail (.single hitem) hitems
  | _ => cases hTs

theorem inside_of_named {e : String × Members} (h : e ∈ S.named key) : e.2.Inside S := by
  obtain ⟨⟨k, v⟩, hm, hv⟩ := List.mem_filterMap.1 h
  obtain ⟨U, hU, rfl⟩ := Option.map_eq_some_iff.1 hv
  cases hs : S.schema? key with
  | none =>
    rw [hs] at hm
    cases hm
  | some W =>
    rw [hs, Option.getD_some, eq_object_of_members? hU] at hm
    exact inside_of_mem_schema? hs hm

/-- The schemas on items. -/
def itemSchemas (S : Members) : List Members :=
  match S.schema? "items", S.schemas? "items" with
  | some T, _ => [T]
  | none, some Ts => Ts ++ (S.schema? "additionalItems").toList
  | none, none => []

/-- The schemas on properties. -/
def propertySchemas (S : Members) : List Members :=
  (S.named "properties").map (·.2) ++ (S.named "patternProperties").map (·.2) ++
    (S.schema? "additionalProperties").toList

/-- The schema objects immediately inside a schema object. -/
def subschemas (S : Members) : List Members :=
  [(S.schemas? "allOf").getD [], (S.schemas? "anyOf").getD [], (S.schemas? "oneOf").getD [],
    (S.schema? "not").toList, S.itemSchemas, S.propertySchemas,
    (S.named "dependencies").map (·.2)].flatten

theorem inside_of_mem_itemSchemas (h : T ∈ S.itemSchemas) : T.Inside S := by
  unfold itemSchemas at h
  split at h
  · next U hU =>
    rw [List.mem_singleton.1 h]
    exact inside_of_schema? hU
  · next Us _ hUs =>
    rcases List.mem_append.1 h with h | h
    · exact inside_of_schemas? hUs h
    · exact inside_of_schema? (Option.mem_toList.1 h)
  · cases h

theorem inside_of_mem_propertySchemas (h : T ∈ S.propertySchemas) : T.Inside S := by
  rcases List.mem_append.1 h with h | h
  · rcases List.mem_append.1 h with h | h
    · obtain ⟨⟨name, U⟩, hU, rfl⟩ := List.mem_map.1 h
      exact inside_of_named hU
    · obtain ⟨⟨name, U⟩, hU, rfl⟩ := List.mem_map.1 h
      exact inside_of_named hU
  · exact inside_of_schema? (Option.mem_toList.1 h)

theorem inside_of_mem_getD (h : T ∈ (S.schemas? key).getD []) : T.Inside S := by
  cases hs : S.schemas? key with
  | none =>
    rw [hs] at h
    cases h
  | some Ts =>
    rw [hs] at h
    exact inside_of_schemas? hs h

/-- **Subschemas are inside.** -/
theorem inside_of_mem_subschemas (h : T ∈ S.subschemas) : T.Inside S := by
  simp only [subschemas, List.flatten_cons, List.flatten_nil, List.append_nil, List.mem_append]
    at h
  rcases h with h | h | h | h | h | h | h
  · exact inside_of_mem_getD h
  · exact inside_of_mem_getD h
  · exact inside_of_mem_getD h
  · exact inside_of_schema? (Option.mem_toList.1 h)
  · exact inside_of_mem_itemSchemas h
  · exact inside_of_mem_propertySchemas h
  · obtain ⟨⟨name, U⟩, hU, rfl⟩ := List.mem_map.1 h
    exact inside_of_named hU

/-- What holds of a schema object whenever it holds of those inside holds of all. -/
theorem inside_induction {P : Members → Prop}
    (step : ∀ S : Members, (∀ T : Members, T.Inside S → P T) → P S) (S : Members) : P S :=
  step S fun T _ => inside_induction step T
termination_by sizeOf S
decreasing_by exact Inside.sizeOf_lt ‹_›

/-- What holds of a schema object whenever it holds of its subschemas holds of all. -/
theorem subschemas_induction {P : Members → Prop}
    (step : ∀ S : Members, (∀ T ∈ S.subschemas, P T) → P S) (S : Members) : P S :=
  step S fun T _ => subschemas_induction step T
termination_by sizeOf S
decreasing_by exact (inside_of_mem_subschemas ‹_›).sizeOf_lt

end Members

/-! ## Mentions -/

/-- A reference is somewhere in a rule. -/
def Rule.Mentions (rule : Rule) (reference : String) : Prop := .reference reference ∈ rule.steps

section
variable {reference : String}

theorem mem_stepsOfAll {s : Step} {rules : List Rule} :
    s ∈ Rule.stepsOfAll rules ↔ ∃ r ∈ rules, s ∈ r.steps := by
  induction rules with
  | nil => simp [Rule.stepsOfAll]
  | cons rule rules ih => simp [Rule.stepsOfAll, ih]

theorem mem_stepsOfDeclared {s : Step} {declared : List (String × Rule)} :
    s ∈ PropertyRules.stepsOfDeclared declared ↔ ∃ r ∈ declared.map (·.2), s ∈ r.steps := by
  induction declared with
  | nil => simp [PropertyRules.stepsOfDeclared]
  | cons entry declared ih =>
    rw [PropertyRules.stepsOfDeclared, List.mem_append, ih, List.map_cons, List.exists_mem_cons_iff]

theorem mem_stepsOfPatterned {s : Step} {patterned : List (Pattern × Rule)} :
    s ∈ PropertyRules.stepsOfPatterned patterned ↔ ∃ r ∈ patterned.map (·.2), s ∈ r.steps := by
  induction patterned with
  | nil => simp [PropertyRules.stepsOfPatterned]
  | cons entry patterned ih =>
    rw [PropertyRules.stepsOfPatterned, List.mem_append, ih, List.map_cons,
      List.exists_mem_cons_iff]

theorem Additional.mem_steps {s : Step} {beyond : Additional} :
    s ∈ beyond.steps ↔ ∃ r ∈ beyond.rules, s ∈ r.steps := by
  cases beyond <;> simp [Additional.steps, Additional.rules]

theorem ItemRules.mem_steps {s : Step} {items : ItemRules} :
    s ∈ items.steps ↔ ∃ r ∈ items.rules, s ∈ r.steps := by
  cases items with
  | positional rules beyond =>
    simp only [ItemRules.steps, ItemRules.rules, List.mem_append, mem_stepsOfAll,
      Additional.mem_steps, or_and_right, exists_or]
  | _ => simp [ItemRules.steps, ItemRules.rules]

/-- The steps of the patterns of keys. -/
def PropertyRules.patternSteps : PropertyRules → List Step
  | .unchecked => []
  | .checked _ patterned _ => patterned.flatMap fun (p, _) => p.steps .malformedPropertyPattern

theorem PropertyRules.mem_steps {s : Step} {properties : PropertyRules} :
    s ∈ properties.steps ↔
      s ∈ properties.patternSteps ∨ ∃ r ∈ properties.rules, s ∈ r.steps := by
  cases properties with
  | unchecked => simp [PropertyRules.steps, PropertyRules.rules, PropertyRules.patternSteps]
  | checked declared patterned beyond =>
    simp only [PropertyRules.steps, PropertyRules.rules, PropertyRules.patternSteps,
      List.mem_append, mem_stepsOfDeclared, mem_stepsOfPatterned, Additional.mem_steps,
      or_and_right, exists_or, or_assoc, or_left_comm]

/-- The steps of a rule that do not come from the rules inside it. -/
def Rule.ownSteps : Rule → List Step
  | .text limits => (limits.pattern.map (Pattern.steps .malformedPattern)).getD []
  | .object _ properties => properties.patternSteps
  | .reference reference => [.reference reference]
  | .invalid problem => problem.steps
  | _ => []

/-- **The steps of a rule are its own and those of its children.** -/
theorem Rule.mem_steps {s : Step} {rule : Rule} :
    s ∈ rule.steps ↔ s ∈ rule.ownSteps ∨ ∃ r ∈ rule.children, s ∈ r.steps := by
  cases rule with
  | combined rules | allOf branches | anyOf branches | oneOf branches =>
    simp [Rule.steps, ownSteps, children, mem_stepsOfAll]
  | array limits items => simp [Rule.steps, ownSteps, children, ItemRules.mem_steps]
  | object limits properties => simp [Rule.steps, ownSteps, children, PropertyRules.mem_steps]
  | _ => simp [Rule.steps, ownSteps, children]

/-- But for its report, the step of a pattern is a defect that is no ordinary mistake. -/
theorem Pattern.mem_steps {s : Step} (hs : ∀ e, s ≠ .event e) {report : String → Event}
    {p : Pattern} : s ∈ p.steps report ↔
      ∃ d, p.expression = .error d ∧ d ≠ .malformed ∧ s = .defect d := by
  unfold Pattern.steps
  split
  · next h => simp [h]
  · next h => simp [h, hs]
  · next d hne h =>
    have hne : d ≠ .malformed := hne
    simp [h, hne]

theorem reference_notMem_steps {report : String → Event} {p : Pattern} :
    .reference reference ∉ p.steps report := by
  simp [Pattern.mem_steps]

/-- Only a reference asks for itself. -/
theorem Rule.reference_mem_ownSteps {rule : Rule} :
    .reference reference ∈ rule.ownSteps ↔ rule = .reference reference := by
  cases rule with
  | text limits => cases h : limits.pattern <;> simp [ownSteps, h, reference_notMem_steps]
  | object limits properties =>
    cases properties <;> simp [ownSteps, PropertyRules.patternSteps, reference_notMem_steps]
  | reference r => simp [ownSteps, eq_comm]
  | invalid problem => cases problem <;> simp [ownSteps, Problem.steps]
  | _ => simp [ownSteps]

/-- **A rule mentions a reference if it is that reference, or if a child mentions it.** -/
theorem Rule.mentions_iff {rule : Rule} : rule.Mentions reference ↔
    rule = .reference reference ∨ ∃ r ∈ rule.children, r.Mentions reference := by
  unfold Rule.Mentions
  rw [Rule.mem_steps, Rule.reference_mem_ownSteps]

theorem Rule.mentions_of_child {rule r : Rule} (h : r ∈ rule.children)
    (hr : r.Mentions reference) : rule.Mentions reference :=
  Rule.mentions_iff.2 (Or.inr ⟨r, h, hr⟩)

theorem Rule.mentions_reference {r : String} :
    (Rule.reference r).Mentions reference ↔ r = reference := by
  rw [Rule.mentions_iff]
  simp [Rule.children]

/-- A problem with a schema holds no reference. -/
theorem Rule.not_mentions_invalid (problem : Problem) :
    ¬(Rule.invalid problem).Mentions reference := by
  rw [Rule.mentions_iff]
  simp [Rule.children]

end

/-! ## The steps of a schema object -/

namespace Members

variable (S : Members) (env : Environment) {s : Step} {reference : String}

/-- The steps of a schema object that do not come from the schemas inside it. -/
def ownSteps : List Step :=
  [((S.string? "$ref").map fun r => (env.reference r).steps).getD [],
    ((S.get? "type").map fun v => (typeRule v).steps).getD [],
    ((S.string? "pattern").map fun p => (Pattern.ofSource p).steps .malformedPattern).getD [],
    (S.named "patternProperties").flatMap fun (source, _) =>
      (Pattern.ofSource source).steps .malformedPropertyPattern,
    ((S.string? "format").map fun name => (formatRule env name).steps).getD []].flatten

theorem mem_steps_option {α : Type} {o : Option α} {f : α → Rule} :
    (∃ r ∈ (o.map f).toList, s ∈ r.steps) ↔ s ∈ (o.map fun a => (f a).steps).getD [] := by
  cases o <;> simp

/-- A rule that stands for limits has steps only if there are limits. -/
theorem mem_steps_of_limits {none? : Bool} {rule : Rule} (h : none? = true → rule.steps = []) :
    (∃ r ∈ (if none? then none else some rule).toList, s ∈ r.steps) ↔ s ∈ rule.steps := by
  cases none? with
  | true => simp [h rfl]
  | false => simp

theorem mem_steps_schemas {key : String} {f : List Rule → Rule}
    (h : ∀ rules, (f rules).steps = Rule.stepsOfAll rules) :
    (∃ r ∈ ((S.schemas? key).map fun Ts => f (Ts.map fun T => T.rule env)).toList,
      s ∈ r.steps) ↔
    ∃ T ∈ (S.schemas? key).getD [], s ∈ (T.rule env).steps := by
  cases S.schemas? key with
  | none => simp
  | some Ts => simp [h, mem_stepsOfAll]

theorem mem_steps_not :
    (∃ r ∈ ((S.schema? "not").map fun T => (T.rule env).not).toList, s ∈ r.steps) ↔
      ∃ T ∈ (S.schema? "not").toList, s ∈ (T.rule env).steps := by
  cases S.schema? "not" <;> simp [Rule.steps]

theorem rules_additional (key : String) :
    (S.additional env key).rules = (S.schema? key).toList.map fun T => T.rule env := by
  unfold additional
  cases S.schema? key with
  | some T => rfl
  | none =>
    dsimp only
    split <;> rfl

theorem rules_itemRules : (S.itemRules env).rules = S.itemSchemas.map fun T => T.rule env := by
  unfold itemRules itemSchemas
  cases S.schema? "items" with
  | some T => rfl
  | none =>
    cases S.schemas? "items" with
    | none => rfl
    | some Ts => simp only [ItemRules.rules, rules_additional, List.map_append]

theorem named_eq_nil {key : String} (h : S.has key = false) : S.named key = [] := by
  have hk : S.get? key = none := by simpa [has] using h
  simp [named, schema?, hk]

theorem schema?_eq_none {key : String} (h : S.has key = false) : S.schema? key = none := by
  have hk : S.get? key = none := by simpa [has] using h
  simp [schema?, hk]

theorem rules_propertyRules :
    (S.propertyRules env).rules = S.propertySchemas.map fun T => T.rule env := by
  unfold propertyRules propertySchemas
  split_ifs with h
  · simp only [PropertyRules.rules, rules_additional, List.map_append, List.map_map,
      Function.comp_def]
  · simp only [hasPropertyRules, Bool.or_eq_true, not_or, Bool.not_eq_true] at h
    simp [PropertyRules.rules, named_eq_nil S h.1.1, named_eq_nil S h.1.2, schema?_eq_none S h.2]

theorem patternSteps_propertyRules : (S.propertyRules env).patternSteps =
    (S.named "patternProperties").flatMap fun (source, _) =>
      (Pattern.ofSource source).steps .malformedPropertyPattern := by
  unfold propertyRules
  split_ifs with h
  · simp only [PropertyRules.patternSteps, List.flatMap_map]
  · simp only [hasPropertyRules, Bool.or_eq_true, not_or, Bool.not_eq_true] at h
    simp [PropertyRules.patternSteps, named_eq_nil S h.1.2]

theorem mem_steps_text :
    (∃ r ∈ (if S.textLimits.isEmpty then none else some (.text S.textLimits)).toList,
      s ∈ Rule.steps r) ↔
    s ∈ ((S.string? "pattern").map fun p =>
      (Pattern.ofSource p).steps .malformedPattern).getD [] := by
  have hsteps : (Rule.text S.textLimits).steps = ((S.string? "pattern").map fun p =>
      (Pattern.ofSource p).steps .malformedPattern).getD [] := by
    simp only [Rule.steps, textLimits, Option.map_map, Function.comp_def]
  rw [mem_steps_of_limits, hsteps]
  intro hempty
  simp only [TextLimits.isEmpty, textLimits, Option.isNone_map, Bool.and_eq_true,
    Option.isNone_iff_eq_none] at hempty
  simp [Rule.steps, textLimits, hempty.2]

theorem mem_steps_number :
    ¬∃ r ∈ (if S.numberLimits.isEmpty then none else some (.number S.numberLimits)).toList,
      s ∈ Rule.steps r := by
  rw [mem_steps_of_limits fun _ => rfl]
  simp [Rule.steps]

theorem mem_steps_array :
    (∃ r ∈ (if S.itemLimits.isEmpty && (S.itemRules env).isUnchecked then none
        else some (.array S.itemLimits (S.itemRules env))).toList, s ∈ Rule.steps r) ↔
      ∃ T ∈ S.itemSchemas, s ∈ (T.rule env).steps := by
  rw [mem_steps_of_limits, Rule.steps, ItemRules.mem_steps, rules_itemRules]
  · simp
  · intro hempty
    cases hi : S.itemRules env with
    | unchecked => rfl
    | _ => simp [hi, ItemRules.isUnchecked] at hempty

theorem mem_steps_object :
    (∃ r ∈ (if S.propertyLimits.isEmpty && (S.propertyRules env).isUnchecked then none
        else some (.object S.propertyLimits (S.propertyRules env))).toList, s ∈ Rule.steps r) ↔
      (s ∈ (S.named "patternProperties").flatMap fun (source, _) =>
        (Pattern.ofSource source).steps .malformedPropertyPattern) ∨
      ∃ T ∈ S.propertySchemas, s ∈ (T.rule env).steps := by
  rw [mem_steps_of_limits, Rule.steps, PropertyRules.mem_steps, rules_propertyRules,
    patternSteps_propertyRules]
  · simp
  · intro hempty
    cases hp : S.propertyRules env with
    | unchecked => rfl
    | _ => simp [hp, PropertyRules.isUnchecked] at hempty

theorem mem_steps_dependencies :
    (∃ r ∈ S.dependencyRules env, s ∈ r.steps) ↔
      ∃ T ∈ (S.named "dependencies").map (·.2), s ∈ (T.rule env).steps := by
  simp only [dependencyRules, named, List.mem_filterMap, List.mem_map, Prod.exists]
  constructor
  · rintro ⟨rule, ⟨key, needs, hm, hr⟩, h⟩
    cases hT : needs.members? with
    | some T =>
      simp only [dependency?, hT, Option.some.injEq] at hr
      subst hr
      exact ⟨T, ⟨key, T, ⟨key, needs, hm, by simp [hT]⟩, rfl⟩, h⟩
    | none =>
      simp only [dependency?, hT, Option.map_eq_some_iff] at hr
      obtain ⟨names, -, rfl⟩ := hr
      simp [Rule.steps] at h
  · rintro ⟨_, ⟨key, T, ⟨k, needs, hm, hT⟩, rfl⟩, h⟩
    obtain ⟨U, hU, he⟩ := Option.map_eq_some_iff.1 hT
    cases he
    exact ⟨.dependentRule key (T.rule env), ⟨key, needs, hm, by simp [dependency?, hU]⟩, h⟩

/-- **The steps of the rule of a schema object are its own and those of its subschemas.** -/
theorem mem_steps_rule : s ∈ (S.rule env).steps ↔
    s ∈ S.ownSteps env ∨ ∃ T ∈ S.subschemas, s ∈ (T.rule env).steps := by
  have henum : ¬∃ r ∈ (((S.get? "enum").bind (·.items?)).map Rule.enum).toList, s ∈ r.steps := by
    rw [mem_steps_option]
    cases (S.get? "enum").bind (·.items?) <;> simp [Rule.steps]
  rw [rule, Rule.steps, mem_stepsOfAll, rules_eq]
  simp only [ownSteps, subschemas, List.flatten_cons, List.flatten_nil, List.append_nil,
    List.mem_append, or_and_right, exists_or, mem_steps_option (f := env.reference),
    mem_steps_option (f := typeRule), mem_steps_option (f := formatRule env), henum,
    mem_steps_schemas S env (f := .allOf) fun _ => rfl,
    mem_steps_schemas S env (f := .anyOf) fun _ => rfl,
    mem_steps_schemas S env (f := .oneOf) fun _ => rfl,
    mem_steps_not, mem_steps_text, mem_steps_number, mem_steps_array, mem_steps_object,
    mem_steps_dependencies, false_or]
  grind

/-! ### Steps that are no mere reports -/

/-- The texts that a schema object takes for regular expressions. -/
def expressions : List String :=
  (S.string? "pattern").toList ++ (S.named "patternProperties").map (·.1)

theorem not_mem_steps_typeRule (hs : ∀ e, s ≠ .event e) (v : Json) : s ∉ (typeRule v).steps := by
  unfold typeRule
  split
  · simp [Rule.steps]
  · split
    · simp [Rule.steps, mem_stepsOfAll]
    · simp [Rule.steps, Problem.steps, hs]

theorem not_mem_steps_formatRule (hs : ∀ e, s ≠ .event e) (name : String) :
    s ∉ (formatRule env name).steps := by
  unfold formatRule
  split <;> simp [Rule.steps, Problem.steps, hs]

/-- **Of its own a schema object has, but for reports, the steps of its `$ref` and the defects of
its regular expressions.** -/
theorem mem_ownSteps (hs : ∀ e, s ≠ .event e) : s ∈ S.ownSteps env ↔
    (∃ r, S.string? "$ref" = some r ∧ s ∈ (env.reference r).steps) ∨
      ∃ source ∈ S.expressions, ∃ d, (Pattern.ofSource source).expression = .error d ∧
        d ≠ .malformed ∧ s = .defect d := by
  have htype : s ∉ ((S.get? "type").map fun v => (typeRule v).steps).getD [] := by
    cases S.get? "type" with
    | none => simp
    | some v => exact not_mem_steps_typeRule hs v
  have hformat : s ∉
      ((S.string? "format").map fun name => (formatRule env name).steps).getD [] := by
    cases S.string? "format" with
    | none => simp
    | some name => exact not_mem_steps_formatRule env hs name
  have hpattern : s ∈ ((S.string? "pattern").map fun p =>
        (Pattern.ofSource p).steps .malformedPattern).getD [] ↔
      ∃ source ∈ (S.string? "pattern").toList, ∃ d,
        (Pattern.ofSource source).expression = .error d ∧ d ≠ .malformed ∧ s = .defect d := by
    cases S.string? "pattern" with
    | none => simp
    | some p => simp [Pattern.mem_steps hs]
  have href : s ∈ ((S.string? "$ref").map fun r => (env.reference r).steps).getD [] ↔
      ∃ r, S.string? "$ref" = some r ∧ s ∈ (env.reference r).steps := by
    cases S.string? "$ref" <;> simp
  simp only [ownSteps, expressions, List.flatten_cons, List.flatten_nil, List.append_nil,
    List.mem_append, List.mem_flatMap, List.mem_map, htype, hformat, hpattern, href,
    Pattern.mem_steps hs, false_or, or_false, or_and_right, exists_or, exists_exists_and_eq_and]

theorem reference_mem_ownSteps : .reference reference ∈ S.ownSteps env ↔
    ∃ r, S.string? "$ref" = some r ∧ (env.reference r).Mentions reference := by
  simp [mem_ownSteps, Rule.Mentions]

theorem defect_mem_ownSteps {d : Regex.Defect} {registry : Registry} :
    .defect d ∈ S.ownSteps (.unresolved registry) ↔
      ∃ source ∈ S.expressions, (Pattern.ofSource source).expression = .error d ∧
        d ≠ .malformed := by
  simp [mem_ownSteps, Environment.unresolved, Rule.steps]

/-! ## Mentions of a schema object -/

/-- **What the rule of a schema object mentions comes from its `$ref` or from a subschema.** -/
theorem mentions_rule : (S.rule env).Mentions reference ↔
    (∃ r, S.string? "$ref" = some r ∧ (env.reference r).Mentions reference) ∨
      ∃ T ∈ S.subschemas, (T.rule env).Mentions reference := by
  rw [Rule.Mentions, mem_steps_rule, reference_mem_ownSteps]
  rfl

/-- A reference is the `$ref` of a schema object or of a schema inside. -/
inductive Mentions : Members → String → Prop
  | here {S : Members} {r : String} : S.string? "$ref" = some r → Mentions S r
  | inside {S T : Members} {r : String} : T ∈ S.subschemas → Mentions T r → Mentions S r

/-- **The rule of a schema object mentions what the references of the object stand for.** -/
theorem mentions_rule_iff : (S.rule env).Mentions reference ↔
    ∃ r, S.Mentions r ∧ (env.reference r).Mentions reference := by
  induction S using subschemas_induction with
  | step S ih =>
    rw [mentions_rule]
    constructor
    · rintro (⟨r, hr, h⟩ | ⟨T, hT, h⟩)
      · exact ⟨r, .here hr, h⟩
      · obtain ⟨r, hr, h⟩ := (ih T hT).1 h
        exact ⟨r, .inside hT hr, h⟩
    · rintro ⟨r, hr, h⟩
      cases hr with
      | here hr => exact Or.inl ⟨r, hr, h⟩
      | inside hT hr => exact Or.inr ⟨_, hT, (ih _ hT).2 ⟨r, hr, h⟩⟩

/-- The steps of a schema object ask for the references that it mentions. -/
theorem mem_steps_iff {registry : Registry} :
    .reference reference ∈ S.steps registry ↔ S.Mentions reference := by
  have h : (S.rule (.unresolved registry)).Mentions reference ↔ _ := S.mentions_rule_iff _
  simp only [Environment.unresolved, Rule.mentions_reference, exists_eq_right] at h
  exact h

/-- **Mentioned references are written somewhere in the schema object.** -/
theorem mem_references_of_mentions {S : Members} (h : S.Mentions reference) :
    reference ∈ Members.references S := by
  induction h with
  | here h => exact mem_references_of_string? h
  | inside hT _ ih => exact (inside_of_mem_subschemas hT).references_subset ih

theorem inside_of_get?_object {U : Members} {segment : String}
    (h : S.get? segment = some (.object U)) : U.Inside S :=
  .single (Json.partOf_member (mem_of_get? h))

theorem inside_of_objectAt? {U : Members} {items : List Json} {segment : String} {index : ℕ}
    (h : S.get? segment = some (.array items)) (hU : objectAt? items index = some U) :
    U.Inside S := by
  obtain ⟨v, hv, hm⟩ := Option.bind_eq_some_iff.1 hU
  rw [eq_object_of_members? hm] at hv
  have hitem : (Json.object U).PartOf (.array items) :=
    Json.partOf_item (List.mem_of_getElem? hv)
  have hitems : (Json.array items).PartOf (.object S) := Json.partOf_member (mem_of_get? h)
  exact .tail (.single hitem) hitems

/-- A walk ends at the object where it began or at one inside. -/
theorem eq_or_inside_of_walk {T : Members} {segments : List String}
    (h : S.walk segments = .ok (.found T)) : T = S ∨ T.Inside S := by
  fun_induction Members.walk S segments with
  | case1 S =>
    cases h
    exact Or.inl rfl
  | case2 S segment rest U hU ih =>
    have hUS := inside_of_get?_object S hU
    rcases ih h with rfl | hTU
    · exact Or.inr hUS
    · exact Or.inr (hTU.trans hUS)
  | case6 S segment items hi next rest digits hd hl U hU ih =>
    have hUS := inside_of_objectAt? S hi hU
    rcases ih h with rfl | hTU
    · exact Or.inr hUS
    · exact Or.inr (hTU.trans hUS)
  | _ => cases h

end Members

end JsonSchema
