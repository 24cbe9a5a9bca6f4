/-
  Errors, and where they come from.

  * `Violation.isGuard`: the violations that only the guards on references make.
  * `Violation.isOwn`: the violations that are a matter of the value alone, not
    of branches or guards; the limits make no others.
  * `Compositional`: a property of results at a place that is kept by all that
    rules do but to collect the errors of branches.
  * `Compositional.of_yields`: what a plan yields has such a property if the
    results of its tasks and references have it.
  * `Inherited`: a property of errors at a place that rules cannot break: it
    holds of errors at the place itself, and errors at parts hand it on.
  * `Inherited.of_yields`: the same for all errors of a result, which may come
    from branches.
-/
import JsonSchema.Proofs.Observation

namespace JsonSchema

/-! ## Guards -/

/-- Following a reference is refused. -/
def Violation.isGuard : Violation → Bool
  | referenceCycle _ | referenceDepth .. => true
  | _ => false

theorem mem_violationIf {condition : Bool} {v w : Violation} :
    w ∈ violationIf condition v ↔ condition = true ∧ w = v := by
  unfold violationIf
  cases condition <;> simp

/-! ## Violations by the value alone -/

/-- A combinator is not met, for which the errors of branches are collected. -/
def Violation.isCombinator : Violation → Bool
  | anyOf | oneOf _ => true
  | _ => false

/-- The value alone violates something. -/
def Violation.isOwn (v : Violation) : Bool := !v.isCombinator && !v.isGuard

theorem Violation.isOwn_iff {v : Violation} :
    v.isOwn = true ↔ v.isCombinator = false ∧ v.isGuard = false := by
  simp [isOwn]

/-- All violations are by the value alone. -/
def AllOwn (violations : List Violation) : Prop := ∀ v ∈ violations, v.isOwn = true

namespace AllOwn

variable {vs ws : List Violation}

theorem nil : AllOwn [] := by simp [AllOwn]

theorem singleton {v : Violation} (h : v.isOwn = true) : AllOwn [v] := by
  simpa [AllOwn] using h

theorem append (hv : AllOwn vs) (hw : AllOwn ws) : AllOwn (vs ++ ws) := by
  intro v h
  rcases List.mem_append.1 h with h | h
  · exact hv v h
  · exact hw v h

theorem violationIf {condition : Bool} {v : Violation} (h : v.isOwn = true) :
    AllOwn (violationIf condition v) := by
  intro w hw
  obtain ⟨-, rfl⟩ := mem_violationIf.1 hw
  exact h

theorem lengthViolations (least most : Option Number) (counted : Counted) (length : ℕ) :
    AllOwn (lengthViolations least most counted length).1 ∧
      AllOwn (lengthViolations least most counted length).2 := by
  constructor
  · cases least with
    | none => exact nil
    | some bound => exact violationIf rfl
  · cases most with
    | none => exact nil
    | some bound => exact violationIf rfl

end AllOwn

theorem TextLimits.allOwn (l : TextLimits) (s : String) : AllOwn (l.violations s) := by
  have hl := AllOwn.lengthViolations l.least l.most .characters s.length
  refine (hl.2.append hl.1).append ?_
  cases l.pattern with
  | none => exact .nil
  | some p =>
    simp only [Option.map_some, Option.getD_some, patternViolations]
    split_ifs
    · exact .violationIf rfl
    · exact .singleton rfl

theorem NumberLimits.allOwn_multiple {n divisor : Number} {vs : List Violation}
    (h : multipleViolations n divisor = .ok vs) : AllOwn vs := by
  unfold multipleViolations at h
  split_ifs at h
  · generalize n.isMultipleOf divisor = multiple at h
    cases multiple with
    | error fault => cases h
    | ok multiple =>
      cases h
      exact .violationIf rfl
  · cases h
    exact .nil

theorem NumberLimits.allOwn (l : NumberLimits) (n : Number) : AllOwn (l.violated n) := by
  refine (AllOwn.append ?_ ?_).append ?_
  · unfold multiples
    cases l.multipleOf with
    | none => exact .nil
    | some divisor =>
      obtain ⟨vs, hv⟩ := multipleViolations_isOk n divisor
      simp only [Option.bind_some, hv]
      exact allOwn_multiple hv
  · unfold tooSmall
    cases l.minimum with
    | none => exact .nil
    | some bound => exact .violationIf rfl
  · unfold tooLarge
    cases l.maximum with
    | none => exact .nil
    | some bound => exact .violationIf rfl

theorem ItemLimits.allOwn (l : ItemLimits) (items : List Json) :
    AllOwn (l.violations items) := by
  have hl := AllOwn.lengthViolations l.least l.most .items items.length
  exact (hl.1.append hl.2).append (.violationIf rfl)

theorem PropertyLimits.allOwn (l : PropertyLimits) (members : Members) :
    AllOwn (l.violations members) := by
  have hl := AllOwn.lengthViolations l.least l.most .properties members.length
  refine (hl.2.append hl.1).append ?_
  cases l.required with
  | none => exact .nil
  | some names => exact .violationIf rfl

theorem PropertyLimits.allOwn_other (l : PropertyLimits) : AllOwn l.violationsOfOther := by
  unfold violationsOfOther
  cases l.required with
  | none => exact .nil
  | some names => exact .singleton rfl

/-! ## Compositional properties -/

/-- A property of results at a place that is kept by all that rules do but to collect the errors of
branches. -/
structure Compositional (R : Context → Json → Result → Prop) : Prop where
  check : ∀ {c v violations}, AllOwn violations → R c v (c.check v violations)
  merge : ∀ {c v rs}, (∀ r ∈ rs, R c v r) → R c v (.merge rs)
  part : ∀ {c v part w r}, (part, w) ∈ v.parts → R (c.push part) w r → R c v r

namespace Compositional

variable {R : Context → Json → Result → Prop} (hR : Compositional R) {c : Context} {v : Json}
  {rs : List Result}

include hR in
theorem success : R c v .success := by
  have h : R c v (.merge []) := hR.merge fun _ h => nomatch h
  exact h

include hR in
/-- Results near a place are results at the place. -/
theorem of_near {t : Task} (h : t.Near c v) {r : Result} (hr : R t.context t.value r) :
    R c v r := by
  obtain ⟨rfl, rfl⟩ | ⟨part, hp, hc⟩ := h
  · exact hr
  · rw [hc] at hr
    exact hR.part hp hr

include hR in
theorem refusals {beyond : Additional} {extras : List Extra}
    (h : ∀ e ∈ extras, (e.part, e.value) ∈ v.parts ∧ e.violation.isOwn = true) :
    ∀ r ∈ beyond.refusals c extras, R c v r := by
  cases beyond with
  | forbidden =>
    intro r hr
    obtain ⟨extra, hx, rfl⟩ := List.mem_map.1 hr
    obtain ⟨hp, hv⟩ := h extra hx
    exact hR.part hp (hR.check (.singleton hv))
  | _ => simp [Additional.refusals]

include hR in
theorem itemRefusals {items : ItemRules} {values : List Json} :
    ∀ r ∈ items.refusals c values, R c (.array values) r := by
  cases items with
  | positional rules beyond =>
    refine hR.refusals ?_
    intro e he
    refine ⟨Extra.mem_parts_of_items he, ?_⟩
    rw [Extra.ofItems_eq] at he
    obtain ⟨⟨w, i⟩, -, rfl⟩ := List.mem_map.1 he
    rfl
  | _ => simp [ItemRules.refusals]

include hR in
theorem concludeProperties {properties : PropertyRules} {members : Members}
    (h : ∀ r ∈ rs, R c (.object members) r) :
    R c (.object members) (properties.conclude c members rs) := by
  cases properties with
  | unchecked => exact hR.success
  | checked declared patterned beyond =>
    simp only [PropertyRules.conclude]
    split
    · exact hR.check (.singleton rfl)
    · refine hR.merge ?_
      intro r hr
      rcases List.mem_append.1 hr with hr | hr
      · exact h r hr
      · refine hR.refusals ?_ r hr
        intro e he
        refine ⟨PropertyRules.mem_parts_of_extras he, ?_⟩
        obtain ⟨member, -, rfl⟩ := List.mem_map.1 he
        rfl

include hR in
/-- The results of all tasks have the property at the place of the plan. -/
theorem of_tasks {rule : Rule} {Q : Task → Result → Prop}
    (hQ : ∀ t ∈ (rule.plan c v).tasks, ∀ x, Q t x → R t.context t.value x)
    (h : List.Forall₂ Q (rule.plan c v).tasks rs) : ∀ r ∈ rs, R c v r := by
  intro r hr
  obtain ⟨t, ht, hq⟩ := exists_of_mem_forall₂ h hr
  exact hR.of_near (Rule.tasks_spec ht).2 (hQ t ht r hq)

include hR in
/-- **What a plan yields has the property if what its tasks and references come to has it**, and if
it has it where the errors of branches are collected. -/
theorem of_yields {rule : Rule} {F : String → Result → Prop} {Q : Task → Result → Prop}
    {r : Result} (h : (rule.plan c v).Yields F Q r)
    (hF : ∀ reference x, rule = .reference reference → F reference x → R c v x)
    (hQ : ∀ t ∈ (rule.plan c v).tasks, ∀ x, Q t x → R t.context t.value x)
    (hbranches : ∀ branches, rule = .anyOf branches ∨ rule = .oneOf branches → R c v r) :
    R c v r := by
  have hall : ∀ {results}, List.Forall₂ Q (rule.plan c v).tasks results →
      ∀ x ∈ results, R c v x := hR.of_tasks hQ
  cases rule with
  | anyOf branches => exact hbranches branches (Or.inl rfl)
  | oneOf branches => exact hbranches branches (Or.inr rfl)
  | combined rules | allOf branches =>
    obtain ⟨results, hr, rfl⟩ := h
    exact hR.merge (hall hr)
  | not rule =>
    obtain ⟨results, hr, rfl⟩ := h
    unfold refute
    split_ifs
    · exact hR.check (.singleton rfl)
    · exact hR.success
  | type name | enum values | format name checker =>
    cases h
    exact hR.check (.violationIf rfl)
  | text limits =>
    cases v with
    | string s =>
      cases h
      exact hR.check (limits.allOwn s)
    | _ =>
      cases h
      exact hR.success
  | number limits =>
    simp only [Rule.plan] at h
    split at h
    · cases h
      exact hR.check (limits.allOwn _)
    · cases h
      exact hR.success
  | array limits items =>
    cases v with
    | array values =>
      obtain ⟨results, hr, rfl⟩ := h
      refine hR.merge ?_
      intro x hx
      rcases List.mem_cons.1 hx with rfl | hx
      · exact hR.check (limits.allOwn values)
      · rcases List.mem_append.1 hx with hx | hx
        · exact hall hr x hx
        · exact hR.itemRefusals x hx
    | _ =>
      cases h
      exact hR.success
  | object limits properties =>
    cases v with
    | object members =>
      obtain ⟨results, hr, rfl⟩ := h
      refine hR.merge ?_
      intro x hx
      rcases List.mem_cons.1 hx with rfl | hx
      · exact hR.check (limits.allOwn members)
      · rw [List.mem_singleton.1 hx]
        exact hR.concludeProperties (hall hr)
    | _ =>
      cases h
      exact hR.check limits.allOwn_other
  | dependentRule key rule =>
    cases v with
    | object members =>
      simp only [Rule.plan] at h hall
      split_ifs at h hall
      · obtain ⟨results, hr, rfl⟩ := h
        cases results with
        | nil => exact hR.success
        | cons x results => exact hall hr x List.mem_cons_self
      · cases h
        exact hR.success
    | _ =>
      cases h
      exact hR.success
  | dependentKeys key names =>
    cases v with
    | object members =>
      simp only [Rule.plan] at h
      split_ifs at h
      · cases h
        refine hR.check ?_
        intro violation hv
        obtain ⟨name, -, rfl⟩ := List.mem_map.1 hv
        rfl
      · cases h
        exact hR.success
    | _ =>
      cases h
      exact hR.success
  | reference reference => exact hF reference r rfl h
  | invalid problem =>
    cases h
    exact hR.check (.singleton (by cases problem <;> rfl))

end Compositional

/-! ## Inherited properties -/

/-- A property of errors at a place that rules cannot break. -/
structure Inherited (E : Context → Json → ValidationError → Prop) : Prop where
  own : ∀ {c v} {violation : Violation} {causes}, violation.isGuard = false →
    (∀ e ∈ causes, E c v e) → E c v (c.error v violation causes)
  part : ∀ {c v part w e}, (part, w) ∈ v.parts → E (c.push part) w e → E c v e

/-- All errors of a result at a place have a property. -/
def Result.ErrorsAre (E : Context → Json → ValidationError → Prop) (c : Context) (v : Json)
    (r : Result) : Prop := ∀ e ∈ r.errors, E c v e

namespace Inherited

variable {E : Context → Json → ValidationError → Prop} (hE : Inherited E) {c : Context} {v : Json}
  {rs : List Result}

include hE in
/-- That all errors have an inherited property is kept by what rules do. -/
theorem compositional : Compositional (Result.ErrorsAre E) where
  check h e he := by
    obtain ⟨violation, hv, rfl⟩ := List.mem_map.1 he
    exact hE.own (Violation.isOwn_iff.1 (h violation hv)).2 fun _ he => nomatch he
  merge h e he := by
    obtain ⟨r, hr, he⟩ := List.mem_flatMap.1 he
    exact h r (List.mem_filter.1 hr).1 e he
  part hp h e he := hE.part hp (h e he)

include hE in
theorem failWith {violation : Violation} (hv : violation.isGuard = false)
    (h : ∀ r ∈ rs, r.ErrorsAre E c v) : (c.failWith v violation rs).ErrorsAre E c v := by
  intro e he
  obtain rfl := List.mem_singleton.1 he
  refine hE.own hv ?_
  intro cause hc
  unfold Context.causes at hc
  split_ifs at hc
  · obtain ⟨r, hr, hc⟩ := List.mem_flatMap.1 hc
    exact h r hr cause hc
  · cases hc

include hE in
theorem exactlyOne (h : ∀ r ∈ rs, r.ErrorsAre E c v) :
    (JsonSchema.exactlyOne c v rs).ErrorsAre E c v := by
  unfold JsonSchema.exactlyOne
  dsimp only
  split_ifs
  · exact hE.compositional.success
  · refine hE.failWith rfl ?_
    intro r hr
    exact h r (List.mem_filter.1 hr).1

include hE in
/-- **All errors that a plan yields have the property if those that its tasks and references come
to have it.** -/
theorem of_yields {rule : Rule} {F : String → Result → Prop} {Q : Task → Result → Prop}
    {r : Result} (h : (rule.plan c v).Yields F Q r)
    (hF : ∀ reference x, rule = .reference reference → F reference x → x.ErrorsAre E c v)
    (hQ : ∀ t ∈ (rule.plan c v).tasks, ∀ x, Q t x → x.ErrorsAre E t.context t.value) :
    r.ErrorsAre E c v := by
  refine hE.compositional.of_yields h hF hQ ?_
  rintro branches (rfl | rfl)
  · rcases MeetsFirst.cases_all h with rfl | ⟨failed, hf, rfl⟩
    · exact hE.compositional.success
    · exact hE.failWith rfl (hE.compositional.of_tasks hQ hf)
  · obtain ⟨results, hr, rfl⟩ := h
    exact hE.exactlyOne (hE.compositional.of_tasks hQ hr)

end Inherited

end JsonSchema
