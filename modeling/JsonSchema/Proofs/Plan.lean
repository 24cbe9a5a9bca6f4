/-
  One step of an evaluation.

  * `Task`: a rule to be evaluated on the value at a place.
  * `Rule.plan`: what it takes to evaluate a rule: the tasks that it leads to,
    and the result that follows from theirs.  `Plan.run` carries a plan out.
  * `Rule.check_eq`: evaluating a rule is carrying out its plan, in any monad.
    What holds of evaluations is proved by induction on rules along it.
  * `Rule.children`: the rules immediately inside a rule.  The tasks of a plan
    are for children, at the same place or at a part of the value
    (`Rule.tasks_spec`).
-/
import JsonSchema.Proofs.Division
import JsonSchema.Proofs.Location
import JsonSchema.Evaluation

namespace JsonSchema

/-! ## Plans -/

/-- A rule to be evaluated on the value at a place. -/
structure Task where
  rule : Rule
  context : Context
  value : Json

/-- How a result comes about. -/
inductive Plan where
  /-- without evaluating anything else -/
  | done (result : Result)
  /-- by following a reference -/
  | follow (reference : String)
  /-- from the results of all tasks -/
  | all (tasks : List Task) (conclude : List Result → Result)
  /-- from the first task that is met, or else from the results of all -/
  | any (tasks : List Task) (conclude : List Result → Result)

/-- The tasks of a plan. -/
def Plan.tasks : Plan → List Task
  | all tasks _ | any tasks _ => tasks
  | _ => []

section
variable {m : Type → Type} [Monad m]

/-- Success at the first result that is valid; if none is, all have failed, as `failed` in
reverse before them. -/
def firstMet (conclude : List Result → Result) : List (m Result) → (failed : List Result) → m Result
  | [], failed => pure (conclude failed.reverse)
  | x :: rest, failed => do
    let result ← x
    if result.valid then pure .success else firstMet conclude rest (result :: failed)

/-- Carries out a plan. -/
def Plan.run (follow : String → m Result) (run : Task → m Result) : Plan → m Result
  | done result => pure result
  | .follow reference => follow reference
  | all tasks conclude => conclude <$> tasks.mapM run
  | any tasks conclude => firstMet conclude (tasks.map run) []

end

/-! ## The plan of a rule -/

/-- Rules for the value at one place. -/
def tasksAt (c : Context) (v : Json) (rules : List Rule) : List Task :=
  rules.map fun rule => ⟨rule, c, v⟩

namespace Additional

/-- The tasks for what no other rule is for. -/
def tasks : Additional → Context → List Extra → List Task
  | governed rule, c, extras => extras.map fun e => ⟨rule, c.push e.part, e.value⟩
  | _, _, _ => []

/-- The results on what is forbidden. -/
def refusals : Additional → Context → List Extra → List Result
  | forbidden, c, extras => extras.map fun e => (c.push e.part).fail e.value e.violation
  | _, _, _ => []

end Additional

namespace ItemRules

/-- The tasks for the items of an array. -/
def tasks : ItemRules → Context → List Json → List Task
  | unchecked, _, _ => []
  | every rule, c, values => values.zipIdx.map fun (v, i) => ⟨rule, c.push (toString i), v⟩
  | positional rules beyond, c, values =>
    ((rules.zip values.zipIdx).map fun (rule, v, i) => ⟨rule, c.push (toString i), v⟩) ++
      beyond.tasks c (Extra.ofItems rules.length (values.drop rules.length))

/-- The results on items that are forbidden. -/
def refusals : ItemRules → Context → List Json → List Result
  | positional rules beyond, c, values =>
    beyond.refusals c (Extra.ofItems rules.length (values.drop rules.length))
  | _, _, _ => []

end ItemRules

namespace PropertyRules

/-- The tasks of rules by key. -/
def declaredTasks (declared : List (String × Rule)) (c : Context) (members : Members) : List Task :=
  declared.flatMap fun (key, rule) =>
    (members.get? key).toList.map fun v => ⟨rule, c.push key, v⟩

/-- The tasks of rules by pattern, up to the first pattern that is malformed. -/
def patternedTasks (c : Context) (members : Members) : List (Pattern × Rule) → List Task
  | [] => []
  | (p, rule) :: rest =>
    if p.isWellFormed then
      ((members.filter fun (name, _) => p.searches name).map fun (name, v) =>
        ⟨rule, c.push name, v⟩) ++ patternedTasks c members rest
    else []

/-- The first pattern that is malformed. -/
def malformed? (patterned : List (Pattern × Rule)) : Option Pattern :=
  (patterned.find? fun (p, _) => !p.isWellFormed).map (·.1)

/-- The properties that no other rule is for. -/
def extras (declared : List (String × Rule)) (patterned : List (Pattern × Rule))
    (members : Members) : List Extra :=
  Extra.ofMembers (undeclared declared patterned members)

/-- The tasks for the properties of an object. -/
def tasks : PropertyRules → Context → Members → List Task
  | unchecked, _, _ => []
  | checked declared patterned beyond, c, members =>
    declaredTasks declared c members ++ patternedTasks c members patterned ++
      match malformed? patterned with
      | some _ => []
      | none => beyond.tasks c (extras declared patterned members)

/-- The result for the properties of an object, given those of the tasks. -/
def conclude : PropertyRules → Context → Members → List Result → Result
  | unchecked, _, _, _ => .success
  | checked declared patterned beyond, c, members, results =>
    match malformed? patterned with
    | some p => c.fail (.object members) (.invalidPattern p.source)
    | none => .merge (results ++ beyond.refusals c (extras declared patterned members))

end PropertyRules

/-- The result of a rule that must not be met, given the result of the rule. -/
def refute (c : Context) (v : Json) (results : List Result) : Result :=
  if results.all (·.valid) then c.fail v .not else .success

/-- The result of the only task. -/
def onlyResult (results : List Result) : Result := results.headD .success

/-- What it takes to evaluate a rule on the value at a place. -/
def Rule.plan : Rule → Context → Json → Plan
  | .combined rules, c, v => .all (tasksAt c v rules) .merge
  | .allOf branches, c, v => .all (tasksAt c v branches) .merge
  | .anyOf branches, c, v => .any (tasksAt c v branches) (c.failWith v .anyOf)
  | .oneOf branches, c, v => .all (tasksAt c v branches) (exactlyOne c v)
  | .not rule, c, v => .all [⟨rule, c, v⟩] (refute c v)
  | .type name, c, v => .done (c.check v (violationIf (!v.hasType name) (.unmatchingType name)))
  | .enum values, c, v => .done (c.check v (violationIf (!values.any v.equal) (.enum values)))
  | .text limits, c, v => match v with
    | .string s => .done (c.check v (limits.violations s))
    | _ => .done .success
  | .number limits, c, v => match v.number? with
    | some n => .done (c.check v (limits.violated n))
    | none => .done .success
  | .array limits items, c, v => match v with
    | .array values => .all (items.tasks c values) fun results =>
      .merge (c.check v (limits.violations values) :: (results ++ items.refusals c values))
    | _ => .done .success
  | .object limits properties, c, v => match v with
    | .object members => .all (properties.tasks c members) fun results =>
      .merge [c.check v (limits.violations members), properties.conclude c members results]
    | _ => .done (c.check v limits.violationsOfOther)
  | .dependentRule key rule, c, v => match v with
    | .object members =>
      if Members.has members key then .all [⟨rule, c, v⟩] onlyResult else .done .success
    | _ => .done .success
  | .dependentKeys key names, c, v => match v with
    | .object members =>
      if Members.has members key then
        .done (c.check v ((names.filter fun name => !Members.has members name).map
          (.dependencyMissing key)))
      else .done .success
    | _ => .done .success
  | .format name checker, c, v => .done (c.check v (violationIf (!checker v) (.invalidFormat name)))
  | .reference r, _, _ => .follow r
  | .invalid problem, c, v => .done (c.fail v problem.violation)

/-! ## Carrying out plans -/

section
variable {m : Type → Type} [Monad m]

theorem mapM_congr_mem [LawfulMonad m] {α β : Type} {f g : α → m β} {l : List α}
    (h : ∀ a ∈ l, f a = g a) : l.mapM f = l.mapM g := by
  induction l with
  | nil => rfl
  | cons a l ih =>
    have htail : l.mapM f = l.mapM g := ih fun b hb => h b (List.mem_cons_of_mem _ hb)
    rw [List.mapM_cons, List.mapM_cons, h a List.mem_cons_self, htail]

variable [MonadExceptOf Fault m]

/-- The result of a task. -/
def Task.run (follow : Follow m) (t : Task) : m Result := t.rule.check follow t.context t.value

variable (follow : Follow m)

theorem Rule.checkAny_eq (rules : List Rule) (c : Context) (v : Json) (failed : List Result) :
    Rule.checkAny follow rules c v failed =
      firstMet (c.failWith v .anyOf) ((tasksAt c v rules).map (Task.run follow)) failed := by
  induction rules generalizing failed with
  | nil => rfl
  | cons rule rules ih =>
    simp only [Rule.checkAny, tasksAt, List.map_cons, firstMet, Task.run] at ih ⊢
    refine bind_congr fun result => ?_
    rw [ih]

variable [LawfulMonad m]

theorem Rule.checkAll_eq (rules : List Rule) (c : Context) (v : Json) :
    Rule.checkAll follow rules c v = (tasksAt c v rules).mapM (Task.run follow) := by
  induction rules with
  | nil => simp [Rule.checkAll, tasksAt]
  | cons rule rules ih =>
    simp only [Rule.checkAll, ih, tasksAt, List.map_cons, List.mapM_cons, Task.run]

theorem Additional.check_eq (beyond : Additional) (c : Context) (extras : List Extra) :
    beyond.check follow c extras =
      (· ++ beyond.refusals c extras) <$> (beyond.tasks c extras).mapM (Task.run follow) := by
  cases beyond with
  | governed rule =>
    simp only [Additional.check, tasks, refusals, List.mapM_map, List.append_nil]
    exact (id_map _).symm
  | allowed => simp [Additional.check, tasks, refusals]
  | forbidden => simp [Additional.check, tasks, refusals]

theorem ItemRules.checkPositions_eq (rules : List Rule) (c : Context) (i : ℕ) (values : List Json) :
    ItemRules.checkPositions follow rules c i values =
      ((rules.zip (values.zipIdx i)).map fun (rule, v, i) =>
        (⟨rule, c.push (toString i), v⟩ : Task)).mapM (Task.run follow) := by
  induction rules generalizing i values with
  | nil => simp [ItemRules.checkPositions]
  | cons rule rules ih =>
    cases values with
    | nil => simp [ItemRules.checkPositions]
    | cons v values =>
      simp only [ItemRules.checkPositions, ih, List.zipIdx_cons, List.zip_cons_cons,
        List.map_cons, List.mapM_cons, Task.run]

theorem ItemRules.check_eq (items : ItemRules) (c : Context) (values : List Json) :
    items.check follow c values =
      (· ++ items.refusals c values) <$> (items.tasks c values).mapM (Task.run follow) := by
  cases items with
  | unchecked => simp [ItemRules.check, tasks, refusals]
  | every rule =>
    simp only [ItemRules.check, tasks, refusals, List.mapM_map, List.append_nil]
    exact (id_map _).symm
  | positional rules beyond =>
    simp only [ItemRules.check, checkPositions_eq, Additional.check_eq, tasks, refusals,
      List.mapM_append, map_eq_pure_bind, bind_assoc, pure_bind, List.append_assoc]

theorem PropertyRules.checkDeclared_eq (declared : List (String × Rule)) (c : Context)
    (members : Members) :
    PropertyRules.checkDeclared follow declared c members =
      (declaredTasks declared c members).mapM (Task.run follow) := by
  induction declared with
  | nil => simp [PropertyRules.checkDeclared, declaredTasks]
  | cons entry declared ih =>
    obtain ⟨key, rule⟩ := entry
    simp only [PropertyRules.checkDeclared, ih, declaredTasks, List.flatMap_cons, List.mapM_append]
    cases Members.get? members key with
    | none => simp
    | some v => simp [Task.run]

theorem PropertyRules.checkPatterned_eq (patterned : List (Pattern × Rule)) (c : Context)
    (members : Members) :
    PropertyRules.checkPatterned follow patterned c members =
      (fun results => match malformed? patterned with
        | some p => .error p.source
        | none => .ok results) <$> (patternedTasks c members patterned).mapM (Task.run follow) := by
  induction patterned with
  | nil => simp [PropertyRules.checkPatterned, patternedTasks, malformed?]
  | cons entry patterned ih =>
    obtain ⟨p, rule⟩ := entry
    simp only [PropertyRules.checkPatterned, patternedTasks]
    split_ifs with hp
    · have hm : malformed? ((p, rule) :: patterned) = malformed? patterned := by
        simp [malformed?, hp]
      simp only [ih, hm, List.mapM_append, List.mapM_map, map_eq_pure_bind, bind_assoc,
        pure_bind]
      refine bind_congr fun here => bind_congr fun results => ?_
      cases malformed? patterned <;> rfl
    · have hm : malformed? ((p, rule) :: patterned) = some p := by
        simp [malformed?, hp]
      simp [hm]

theorem PropertyRules.check_eq (properties : PropertyRules) (c : Context) (members : Members) :
    properties.check follow c members =
      properties.conclude c members <$> (properties.tasks c members).mapM (Task.run follow) := by
  cases properties with
  | unchecked => simp [PropertyRules.check, tasks, conclude]
  | checked declared patterned beyond =>
    simp only [PropertyRules.check, checkDeclared_eq, checkPatterned_eq, Additional.check_eq, tasks,
      conclude, extras, List.mapM_append, map_eq_pure_bind, bind_assoc, pure_bind]
    cases malformed? patterned <;> simp

/-- **Evaluating a rule is carrying out its plan.** -/
theorem Rule.check_eq (rule : Rule) (c : Context) (v : Json) :
    rule.check follow c v =
      (rule.plan c v).run (fun reference => follow reference c v) (Task.run follow) := by
  cases rule with
  | combined rules => simp [Rule.check, Rule.checkAll_eq, plan, Plan.run]
  | allOf branches => simp [Rule.check, Rule.checkAll_eq, plan, Plan.run]
  | anyOf branches => simp [Rule.check, Rule.checkAny_eq, plan, Plan.run]
  | oneOf branches => simp [Rule.check, Rule.checkAll_eq, plan, Plan.run]
  | not rule => simp [Rule.check, plan, Plan.run, Task.run, refute]
  | text limits => cases v <;> rfl
  | number limits =>
    simp only [Rule.check, plan]
    cases v.number? with
    | none => rfl
    | some n => simp [checkNumber, NumberLimits.violations_eq, Plan.run]
  | array limits items =>
    cases v with
    | array values => simp [Rule.check, ItemRules.check_eq, plan, Plan.run]
    | _ => rfl
  | object limits properties =>
    cases v with
    | object members => simp [Rule.check, PropertyRules.check_eq, plan, Plan.run]
    | _ => rfl
  | dependentRule key rule =>
    cases v with
    | object members =>
      simp only [Rule.check, plan]
      split_ifs
      · simp [Plan.run, Task.run, onlyResult]
      · rfl
    | _ => rfl
  | dependentKeys key names =>
    cases v with
    | object members =>
      simp only [Rule.check, plan]
      split_ifs <;> rfl
    | _ => rfl
  | _ => rfl

end

/-! ## Rules inside rules -/

/-- The rule for what no other rule is for. -/
def Additional.rules : Additional → List Rule
  | governed rule => [rule]
  | _ => []

/-- The rules on items. -/
def ItemRules.rules : ItemRules → List Rule
  | unchecked => []
  | every rule => [rule]
  | positional rules beyond => rules ++ beyond.rules

/-- The rules on properties. -/
def PropertyRules.rules : PropertyRules → List Rule
  | unchecked => []
  | checked declared patterned beyond =>
    declared.map (·.2) ++ patterned.map (·.2) ++ beyond.rules

/-- The rules immediately inside a rule. -/
def Rule.children : Rule → List Rule
  | combined rules | allOf rules | anyOf rules | oneOf rules => rules
  | not rule | dependentRule _ rule => [rule]
  | array _ items => items.rules
  | object _ properties => properties.rules
  | _ => []

theorem Additional.sizeOf_lt_of_mem {beyond : Additional} {r : Rule} (h : r ∈ beyond.rules) :
    sizeOf r < sizeOf beyond := by
  cases beyond with
  | governed rule =>
    rw [List.mem_singleton.1 h]
    simp
  | _ => simp [rules] at h

theorem ItemRules.sizeOf_lt_of_mem {items : ItemRules} {r : Rule} (h : r ∈ items.rules) :
    sizeOf r < sizeOf items := by
  cases items with
  | unchecked => simp [rules] at h
  | every rule =>
    rw [List.mem_singleton.1 h]
    simp
  | positional rs beyond =>
    rcases List.mem_append.1 h with h | h
    · have := List.sizeOf_lt_of_mem h
      simp only [positional.sizeOf_spec]; omega
    · have := Additional.sizeOf_lt_of_mem h
      simp only [positional.sizeOf_spec]; omega

theorem sizeOf_snd_lt_of_mem {α : Type} [SizeOf α] {l : List (α × Rule)} {r : Rule}
    (h : r ∈ l.map (·.2)) : sizeOf r < sizeOf l := by
  obtain ⟨⟨a, r⟩, he, rfl⟩ := List.mem_map.1 h
  have := List.sizeOf_lt_of_mem he
  simp only [Prod.mk.sizeOf_spec] at this ⊢; omega

theorem PropertyRules.sizeOf_lt_of_mem {properties : PropertyRules} {r : Rule}
    (h : r ∈ properties.rules) : sizeOf r < sizeOf properties := by
  cases properties with
  | unchecked => simp [rules] at h
  | checked declared patterned beyond =>
    rcases List.mem_append.1 h with h | h
    · rcases List.mem_append.1 h with h | h
      · have := sizeOf_snd_lt_of_mem h
        simp only [checked.sizeOf_spec]; omega
      · have := sizeOf_snd_lt_of_mem h
        simp only [checked.sizeOf_spec]; omega
    · have := Additional.sizeOf_lt_of_mem h
      simp only [checked.sizeOf_spec]; omega

theorem Rule.sizeOf_lt_of_mem_children {rule r : Rule} (h : r ∈ rule.children) :
    sizeOf r < sizeOf rule := by
  cases rule with
  | combined rules | allOf rules | anyOf rules | oneOf rules =>
    simp only [children] at h
    have := List.sizeOf_lt_of_mem h
    simp only [combined.sizeOf_spec, allOf.sizeOf_spec, anyOf.sizeOf_spec, oneOf.sizeOf_spec]
    omega
  | not rule | dependentRule key rule =>
    rw [List.mem_singleton.1 h]
    simp only [not.sizeOf_spec, dependentRule.sizeOf_spec]
    omega
  | array limits items =>
    have := ItemRules.sizeOf_lt_of_mem h
    simp only [array.sizeOf_spec]; omega
  | object limits properties =>
    have := PropertyRules.sizeOf_lt_of_mem h
    simp only [object.sizeOf_spec]; omega
  | _ => simp [children] at h

/-- What holds of a rule whenever it holds of its children holds of all rules. -/
theorem Rule.children_induction {P : Rule → Prop}
    (step : ∀ rule, (∀ r ∈ rule.children, P r) → P rule) (rule : Rule) : P rule :=
  step rule fun r _ => Rule.children_induction step r
termination_by sizeOf rule
decreasing_by exact Rule.sizeOf_lt_of_mem_children ‹_›

/-! ## Where tasks stand -/

/-- At the same place, or at a part of the value. -/
def Task.Near (c : Context) (v : Json) (t : Task) : Prop :=
  (t.context = c ∧ t.value = v) ∨
    ∃ part, (part, t.value) ∈ v.parts ∧ t.context = c.push part

/-- Tasks follow no reference. -/
theorem Task.Near.active_eq {c : Context} {v : Json} {t : Task} (h : t.Near c v) :
    t.context.active = c.active := by
  obtain ⟨rfl, -⟩ | ⟨part, -, hc⟩ := h
  · rfl
  · rw [hc]
    rfl

theorem tasksAt_spec {c : Context} {v : Json} {rules : List Rule} {t : Task}
    (h : t ∈ tasksAt c v rules) : t.rule ∈ rules ∧ t.Near c v := by
  obtain ⟨rule, hr, rfl⟩ := List.mem_map.1 h
  exact ⟨hr, Or.inl ⟨rfl, rfl⟩⟩

theorem Extra.ofItems_eq (index : ℕ) (items : List Json) :
    Extra.ofItems index items =
      (items.zipIdx index).map fun (v, i) => ⟨toString i, v, .additionalItem i⟩ := by
  induction items generalizing index with
  | nil => rfl
  | cons item items ih => simp [Extra.ofItems, ih]

/-- The items from an index on are parts of the array. -/
theorem Extra.mem_parts_of_items {values : List Json} {n : ℕ} {e : Extra}
    (h : e ∈ Extra.ofItems n (values.drop n)) : (e.part, e.value) ∈ (Json.array values).parts := by
  simp only [Extra.ofItems_eq, List.mem_map, Prod.exists] at h
  obtain ⟨v, i, hi, rfl⟩ := h
  obtain ⟨hn, hv⟩ := List.mk_mem_zipIdx_iff_le_and_getElem?_sub.1 hi
  rw [List.getElem?_drop, Nat.add_sub_cancel' hn] at hv
  exact Json.mem_parts_array.2 ⟨i, hv, rfl⟩

/-- The members that are left over are parts of the object. -/
theorem PropertyRules.mem_parts_of_extras {declared : List (String × Rule)}
    {patterned : List (Pattern × Rule)} {members : Members} {e : Extra}
    (h : e ∈ extras declared patterned members) : (e.part, e.value) ∈ (Json.object members).parts := by
  obtain ⟨⟨name, v⟩, hm, rfl⟩ := List.mem_map.1 h
  exact (List.mem_filter.1 hm).1

theorem Additional.tasks_spec {beyond : Additional} {c : Context} {extras : List Extra} {v : Json}
    (he : ∀ e ∈ extras, (e.part, e.value) ∈ v.parts) {t : Task} (h : t ∈ beyond.tasks c extras) :
    t.rule ∈ beyond.rules ∧ t.Near c v := by
  cases beyond with
  | governed rule =>
    obtain ⟨e, hm, rfl⟩ := List.mem_map.1 h
    exact ⟨List.mem_singleton_self _, Or.inr ⟨e.part, he e hm, rfl⟩⟩
  | _ => cases h

theorem ItemRules.tasks_spec {items : ItemRules} {c : Context} {values : List Json} {t : Task}
    (h : t ∈ items.tasks c values) : t.rule ∈ items.rules ∧ t.Near c (.array values) := by
  have near : ∀ {v : Json} {i : ℕ}, (v, i) ∈ values.zipIdx →
      (toString i, v) ∈ (Json.array values).parts := by
    intro v i hv
    exact Json.mem_parts_array.2 ⟨i, List.mk_mem_zipIdx_iff_getElem?.1 hv, rfl⟩
  cases items with
  | unchecked => cases h
  | every rule =>
    obtain ⟨⟨v, i⟩, hv, rfl⟩ := List.mem_map.1 h
    exact ⟨List.mem_singleton_self _, Or.inr ⟨_, near hv, rfl⟩⟩
  | positional rules beyond =>
    rcases List.mem_append.1 h with h | h
    · obtain ⟨⟨rule, v, i⟩, hm, rfl⟩ := List.mem_map.1 h
      obtain ⟨hr, hv⟩ := List.of_mem_zip hm
      exact ⟨List.mem_append_left _ hr, Or.inr ⟨_, near hv, rfl⟩⟩
    · obtain ⟨hr, hn⟩ := Additional.tasks_spec (fun e => Extra.mem_parts_of_items) h
      exact ⟨List.mem_append_right _ hr, hn⟩

theorem mem_of_lookup {α : Type} {l : List (String × α)} {r : String} {a : α}
    (h : l.lookup r = some a) : (r, a) ∈ l := by
  obtain ⟨before, after, rfl, -⟩ := List.lookup_eq_some_iff.1 h
  exact List.mem_append_right _ List.mem_cons_self

theorem Members.mem_of_get? {members : Members} {key : String} {v : Json}
    (h : members.get? key = some v) : (key, v) ∈ members :=
  mem_of_lookup h

theorem PropertyRules.declaredTasks_spec {declared : List (String × Rule)} {c : Context}
    {members : Members} {t : Task} (h : t ∈ declaredTasks declared c members) :
    t.rule ∈ declared.map (·.2) ∧ t.Near c (.object members) := by
  simp only [declaredTasks, List.mem_flatMap, List.mem_map, Option.mem_toList] at h
  obtain ⟨⟨key, rule⟩, hr, v, hv, rfl⟩ := h
  exact ⟨List.mem_map.2 ⟨_, hr, rfl⟩, Or.inr ⟨key, Members.mem_of_get? hv, rfl⟩⟩

theorem PropertyRules.patternedTasks_spec {patterned : List (Pattern × Rule)} {c : Context}
    {members : Members} {t : Task} (h : t ∈ patternedTasks c members patterned) :
    t.rule ∈ patterned.map (·.2) ∧ t.Near c (.object members) := by
  induction patterned with
  | nil => cases h
  | cons entry patterned ih =>
    obtain ⟨p, rule⟩ := entry
    rw [patternedTasks] at h
    split_ifs at h
    · rcases List.mem_append.1 h with h | h
      · obtain ⟨⟨name, v⟩, hm, rfl⟩ := List.mem_map.1 h
        exact ⟨List.mem_cons_self, Or.inr ⟨name, (List.mem_filter.1 hm).1, rfl⟩⟩
      · exact ⟨List.mem_cons_of_mem _ (ih h).1, (ih h).2⟩
    · cases h

theorem PropertyRules.tasks_spec {properties : PropertyRules} {c : Context} {members : Members}
    {t : Task} (h : t ∈ properties.tasks c members) :
    t.rule ∈ properties.rules ∧ t.Near c (.object members) := by
  cases properties with
  | unchecked => cases h
  | checked declared patterned beyond =>
    rcases List.mem_append.1 h with h | h
    · rcases List.mem_append.1 h with h | h
      · obtain ⟨hr, hn⟩ := declaredTasks_spec h
        exact ⟨List.mem_append_left _ (List.mem_append_left _ hr), hn⟩
      · obtain ⟨hr, hn⟩ := patternedTasks_spec h
        exact ⟨List.mem_append_left _ (List.mem_append_right _ hr), hn⟩
    · split at h
      · cases h
      · obtain ⟨hr, hn⟩ := Additional.tasks_spec (fun e => mem_parts_of_extras) h
        exact ⟨List.mem_append_right _ hr, hn⟩

/-- **The tasks of a rule are for its children, at the same place or at a part.** -/
theorem Rule.tasks_spec {rule : Rule} {c : Context} {v : Json} {t : Task}
    (h : t ∈ (rule.plan c v).tasks) : t.rule ∈ rule.children ∧ t.Near c v := by
  cases rule with
  | combined rules | allOf branches | anyOf branches | oneOf branches => exact tasksAt_spec h
  | not rule =>
    rw [List.mem_singleton.1 h]
    exact ⟨List.mem_singleton_self _, Or.inl ⟨rfl, rfl⟩⟩
  | text limits => cases v <;> cases h
  | number limits =>
    simp only [plan] at h
    split at h <;> cases h
  | array limits items =>
    cases v with
    | array values => exact ItemRules.tasks_spec h
    | _ => cases h
  | object limits properties =>
    cases v with
    | object members => exact PropertyRules.tasks_spec h
    | _ => cases h
  | dependentRule key rule =>
    cases v with
    | object members =>
      simp only [plan] at h
      split_ifs at h
      · rw [List.mem_singleton.1 h]
        exact ⟨List.mem_singleton_self _, Or.inl ⟨rfl, rfl⟩⟩
      · cases h
    | _ => cases h
  | dependentKeys key names =>
    cases v with
    | object members =>
      simp only [plan] at h
      split_ifs at h <;> cases h
    | _ => cases h
  | _ => cases h

/-- Only references follow references. -/
theorem Rule.eq_reference_of_plan {rule : Rule} {c : Context} {v : Json} {r : String}
    (h : rule.plan c v = .follow r) : rule = .reference r := by
  cases rule with
  | reference r' =>
    cases h
    rfl
  | text limits | array limits items | object limits properties => cases v <;> cases h
  | number limits =>
    simp only [plan] at h
    split at h <;> cases h
  | dependentRule key rule | dependentKeys key names =>
    cases v with
    | object members =>
      simp only [plan] at h
      split_ifs at h
    | _ => cases h
  | _ => cases h

/-! ## Following references -/

namespace Program

variable {m : Type → Type} [Monad m] [MonadExceptOf Fault m] {p : Program} {limit remaining : ℕ}
  {reference : String} {c : Context} {v : Json}

theorem enter_following (h : c.isFollowing reference = true) :
    p.enter limit remaining reference c v = (pure (c.fail v (.referenceCycle reference)) : m _) := by
  cases remaining <;> rw [enter, if_pos h]

theorem enter_zero (h : ¬c.isFollowing reference = true) :
    p.enter limit 0 reference c v = (pure (c.fail v (.referenceDepth reference limit)) : m _) := by
  rw [enter, if_neg h]

theorem enter_succ (h : ¬c.isFollowing reference = true) {target : Rule}
    (ht : p.target? reference = some target) : p.enter limit (remaining + 1) reference c v =
      (target.check (p.enter limit remaining) (c.follow reference) v : m _) := by
  rw [enter, if_neg h]
  simp only [ht]

theorem enter_dangling (h : ¬c.isFollowing reference = true) (ht : p.target? reference = none) :
    p.enter limit (remaining + 1) reference c v =
      (throw (.danglingReference reference) : m _) := by
  rw [enter, if_neg h]
  simp only [ht]

end Program

end JsonSchema
