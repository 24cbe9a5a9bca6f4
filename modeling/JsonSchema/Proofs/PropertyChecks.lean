/-
  Which rules the properties of an object are checked by.

  * `PropertyLimits.Admits`: the number of members is within the bounds, and all
    required keys are there.
  * `PropertyRules.Declares`: a key has a rule of its own or a pattern for it.
  * `PropertyRules.Applies`: a rule is for a key.  `mem_tasks_iff`: the tasks for
    an object are those of the rules that apply to its keys, each at the value
    of the key, whatever the order in which they are come by.
  * `Program.Accepts`, `Program.Suits`: a rule is met at a place; a member meets
    everything that is demanded of it.
  * `properties_checked_by_rules_for_them`: what the result says of an object.
-/
import JsonSchema.Proofs.KeywordGroups
import JsonSchema.Proofs.Equality
import Mathlib.Tactic.MkIffOfInductiveProp

namespace JsonSchema

/-! ## Limits -/

theorem violationIf_eq_nil_iff {condition : Bool} {violation : Violation} :
    violationIf condition violation = [] ↔ condition = false := by
  cases condition <;> simp [violationIf]

theorem Members.has_iff {members : Members} {key : String} :
    members.has key = true ↔ key ∈ members.keys := by
  rw [Members.has, Option.isSome_iff_exists]
  constructor
  · rintro ⟨v, hv⟩
    exact Members.mem_keys_of_get? hv
  · exact Members.exists_get?_of_mem_keys

namespace PropertyLimits

/-- There are not more members than the upper bound, not fewer than the lower one, and none of the
required keys is missing. -/
@[mk_iff]
structure Admits (limits : PropertyLimits) (members : Members) : Prop where
  most : ∀ bound, limits.most = some bound → bound.less members.length = false
  least : ∀ bound, limits.least = some bound → Number.less members.length bound = false
  required : ∀ names, limits.required = some names → ∀ name ∈ names, name ∈ members.keys

/-- The errors of an object at a place for the limits that it violates. -/
def errors (limits : PropertyLimits) (c : Context) (members : Members) : List ValidationError :=
  (limits.violations members).map fun violation => c.error (.object members) violation []

variable {limits : PropertyLimits} {members : Members}

/-- **Nothing is violated exactly if the limits admit the object.** -/
theorem violations_eq_nil_iff : limits.violations members = [] ↔ limits.Admits members := by
  have hmost : (lengthViolations limits.least limits.most .properties members.length).2 = [] ↔
      ∀ bound, limits.most = some bound → bound.less members.length = false := by
    cases limits.most <;> simp [lengthViolations, violationIf_eq_nil_iff]
  have hleast : (lengthViolations limits.least limits.most .properties members.length).1 = [] ↔
      ∀ bound, limits.least = some bound → Number.less members.length bound = false := by
    cases limits.least <;> simp [lengthViolations, violationIf_eq_nil_iff]
  simp only [violations, List.append_eq_nil_iff, hmost, hleast, admits_iff, ← and_assoc]
  refine and_congr_right fun _ => ?_
  cases limits.required <;> simp [violationIf_eq_nil_iff, Members.has_iff]

end PropertyLimits

/-! ## Rules for keys -/

namespace PropertyRules

variable {declared : List (String × Rule)} {patterned : List (Pattern × Rule)}
  {beyond : Additional} {c : Context} {members : Members} {key : String} {value : Json} {t : Task}

/-- A key has a rule of its own, or a pattern matches somewhere in it. -/
def Declares (declared : List (String × Rule)) (patterned : List (Pattern × Rule)) (key : String) :
    Prop :=
  key ∈ declared.map (·.1) ∨ ∃ e ∈ patterned, e.1.searches key = true

instance : Decidable (Declares declared patterned key) :=
  inferInstanceAs (Decidable (_ ∨ _))

/-- A rule is for a key: by the key, by a pattern, or as the rule for keys that are not declared. -/
inductive Applies (declared : List (String × Rule)) (patterned : List (Pattern × Rule))
    (beyond : Additional) (key : String) (rule : Rule) : Prop
  | byKey : (key, rule) ∈ declared → Applies declared patterned beyond key rule
  | byPattern {pattern : Pattern} : (pattern, rule) ∈ patterned → pattern.searches key = true →
      Applies declared patterned beyond key rule
  | beyond : ¬Declares declared patterned key → beyond = .governed rule →
      Applies declared patterned beyond key rule

/-- Where other keys are forbidden, the rules that apply are for keys that are declared. -/
theorem Applies.declares {rule : Rule} (h : Applies declared patterned .forbidden key rule) :
    Declares declared patterned key := by
  cases h with
  | byKey hr => exact .inl (List.mem_map.2 ⟨_, hr, rfl⟩)
  | byPattern hr hs => exact .inr ⟨_, hr, hs⟩
  | beyond _ hr => cases hr

theorem undeclared_eq_filter : undeclared declared patterned members =
    members.filter fun m => !decide (Declares declared patterned m.1) := by
  refine List.filter_congr fun ⟨key, value⟩ _ => ?_
  rw [Bool.eq_iff_iff, Bool.not_eq_true', decide_eq_false_iff_not]
  simp [Declares, Members.lookup_isNone]

theorem mem_undeclared {m : String × Json} : m ∈ undeclared declared patterned members ↔
    m ∈ members ∧ ¬Declares declared patterned m.1 := by
  simp [undeclared_eq_filter]

theorem malformed?_eq_none_iff :
    malformed? patterned = none ↔ ∀ e ∈ patterned, e.1.isWellFormed = true := by
  simp [malformed?]

theorem malformed?_append_cons {before after : List (Pattern × Rule)} {pattern : Pattern}
    {rule : Rule} (hbefore : ∀ e ∈ before, e.1.isWellFormed = true)
    (h : pattern.isWellFormed = false) :
    malformed? (before ++ (pattern, rule) :: after) = some pattern := by
  have hnone := malformed?_eq_none_iff.2 hbefore
  rw [malformed?, Option.map_eq_none_iff] at hnone
  simp [malformed?, List.find?_append, hnone, h]

/-! ### Tasks -/

theorem mem_declaredTasks (hm : members.keys.Nodup) : t ∈ declaredTasks declared c members ↔
    ∃ key value rule, (key, value) ∈ members ∧ (key, rule) ∈ declared ∧
      t = ⟨rule, c.push key, value⟩ := by
  simp only [declaredTasks, List.mem_flatMap, List.mem_map, Option.mem_toList]
  constructor
  · rintro ⟨⟨key, rule⟩, hr, value, hv, rfl⟩
    exact ⟨key, value, rule, Members.mem_of_get? hv, hr, rfl⟩
  · rintro ⟨key, value, rule, hv, hr, rfl⟩
    exact ⟨⟨key, rule⟩, hr, value, lookup_of_mem hm hv, rfl⟩

theorem patternedTasks_eq_flatMap (hp : ∀ e ∈ patterned, e.1.isWellFormed = true) :
    patternedTasks c members patterned = patterned.flatMap fun (pattern, rule) =>
      (members.filter fun (key, _) => pattern.searches key).map fun (key, value) =>
        ⟨rule, c.push key, value⟩ := by
  induction patterned with
  | nil => rfl
  | cons e patterned ih =>
    rw [List.forall_mem_cons] at hp
    rw [patternedTasks, if_pos hp.1, ih hp.2, List.flatMap_cons]

theorem mem_patternedTasks (hp : ∀ e ∈ patterned, e.1.isWellFormed = true) :
    t ∈ patternedTasks c members patterned ↔
      ∃ key value rule pattern, (key, value) ∈ members ∧ (pattern, rule) ∈ patterned ∧
        pattern.searches key = true ∧ t = ⟨rule, c.push key, value⟩ := by
  simp only [patternedTasks_eq_flatMap hp, List.mem_flatMap, List.mem_map, List.mem_filter]
  constructor
  · rintro ⟨⟨pattern, rule⟩, hr, ⟨key, value⟩, ⟨hv, hs⟩, rfl⟩
    exact ⟨key, value, rule, pattern, hv, hr, hs, rfl⟩
  · rintro ⟨key, value, rule, pattern, hv, hr, hs, rfl⟩
    exact ⟨⟨pattern, rule⟩, hr, ⟨key, value⟩, ⟨hv, hs⟩, rfl⟩

theorem mem_beyondTasks : t ∈ beyond.tasks c (extras declared patterned members) ↔
    ∃ key value rule, (key, value) ∈ members ∧ ¬Declares declared patterned key ∧
      beyond = .governed rule ∧ t = ⟨rule, c.push key, value⟩ := by
  cases beyond with
  | governed rule =>
    simp only [Additional.tasks, extras, Extra.ofMembers, List.map_map, List.mem_map,
      mem_undeclared, Prod.exists]
    constructor
    · rintro ⟨key, value, ⟨hv, hkey⟩, rfl⟩
      exact ⟨key, value, rule, hv, hkey, rfl, rfl⟩
    · rintro ⟨key, value, _, hv, hkey, hrule, rfl⟩
      cases hrule
      exact ⟨key, value, ⟨hv, hkey⟩, rfl⟩
  | _ => simp [Additional.tasks]

/-- **The tasks for an object are those of the rules that apply to its keys.** -/
theorem mem_tasks_iff (hm : members.keys.Nodup)
    (hp : ∀ e ∈ patterned, e.1.isWellFormed = true) :
    t ∈ (checked declared patterned beyond).tasks c members ↔
      ∃ key value rule, (key, value) ∈ members ∧ Applies declared patterned beyond key rule ∧
        t = ⟨rule, c.push key, value⟩ := by
  simp only [tasks, malformed?_eq_none_iff.2 hp, List.mem_append, mem_declaredTasks hm,
    mem_patternedTasks hp, mem_beyondTasks]
  constructor
  · rintro ((⟨key, value, rule, hv, hr, rfl⟩ | ⟨key, value, rule, pattern, hv, hr, hs, rfl⟩) |
      ⟨key, value, rule, hv, hkey, hr, rfl⟩)
    · exact ⟨key, value, rule, hv, .byKey hr, rfl⟩
    · exact ⟨key, value, rule, hv, .byPattern hr hs, rfl⟩
    · exact ⟨key, value, rule, hv, .beyond hkey hr, rfl⟩
  · rintro ⟨key, value, rule, hv, hr, rfl⟩
    cases hr with
    | byKey hr => exact .inl (.inl ⟨key, value, rule, hv, hr, rfl⟩)
    | byPattern hr hs => exact .inl (.inr ⟨key, value, rule, _, hv, hr, hs, rfl⟩)
    | beyond hkey hr => exact .inr ⟨key, value, rule, hv, hkey, hr, rfl⟩

end PropertyRules

/-! ## What is concluded -/

theorem Additional.merge_refusals_forbidden (c : Context) (es : List Extra) :
    Result.merge (Additional.forbidden.refusals c es) =
      ⟨es.isEmpty, es.map fun e => (c.push e.part).error e.value e.violation []⟩ := by
  induction es with
  | nil => rfl
  | cons e es ih =>
    have hcons : Additional.forbidden.refusals c (e :: es) =
        (c.push e.part).check e.value [e.violation] :: Additional.forbidden.refusals c es := rfl
    rw [hcons, Context.merge_check_cons, ih]
    rfl

/-- What is forbidden is refused, and nothing else is. -/
theorem Additional.valid_merge_refusals {beyond : Additional} {c : Context} {es : List Extra} :
    (Result.merge (beyond.refusals c es)).valid = true ↔ (beyond = .forbidden → es = []) := by
  cases beyond with
  | forbidden => simp [merge_refusals_forbidden]
  | _ => simp [refusals, Result.merge]

namespace PropertyRules

variable {declared : List (String × Rule)} {patterned : List (Pattern × Rule)}
  {beyond : Additional} {c : Context} {members : Members} {results : List Result}

theorem merge_conclude (hp : ∀ e ∈ patterned, e.1.isWellFormed = true) :
    Result.merge [(checked declared patterned beyond).conclude c members results] =
      (Result.merge results).join
        (.merge (beyond.refusals c (extras declared patterned members))) := by
  simp only [conclude, malformed?_eq_none_iff.2 hp]
  rw [Result.merge_merge, Result.merge_append]

theorem merge_conclude_malformed {before after : List (Pattern × Rule)} {pattern : Pattern}
    {rule : Rule} (hbefore : ∀ e ∈ before, e.1.isWellFormed = true)
    (h : pattern.isWellFormed = false) :
    Result.merge [(checked declared (before ++ (pattern, rule) :: after) beyond).conclude c members
      results] = c.check (.object members) [.invalidPattern pattern.source] := by
  simp only [conclude, malformed?_append_cons hbefore h]
  rfl

theorem extras_eq_nil_iff : extras declared patterned members = [] ↔
    ∀ m ∈ members, Declares declared patterned m.1 := by
  simp [extras, Extra.ofMembers, undeclared_eq_filter, List.filter_eq_nil_iff]

end PropertyRules

/-! ## Results -/

namespace Program

/-- A rule of a program is met by the value at a place. -/
def Accepts (p : Program) (limit : ℕ) (rule : Rule) (c : Context) (v : Json) : Prop :=
  ∃ r, p.evaluate limit rule c v = (.ok r : Except Fault Result) ∧ r.valid = true

/-- What the rules of tasks give, each evaluated by the program like any other. -/
def TasksGive (p : Program) (limit : ℕ) (tasks : List Task) (results : List Result) : Prop :=
  List.Forall₂ (fun (t : Task) r =>
    p.evaluate limit t.rule t.context t.value = (.ok r : Except Fault Result)) tasks results

/-- The value of a key meets what is demanded of it, each time at the place of the key: the rules by
the key and those by a pattern that matches, and if there can be no such rule, the one for keys that
are not declared, unless these are allowed as they are. -/
structure Suits (p : Program) (limit : ℕ) (declared : List (String × Rule))
    (patterned : List (Pattern × Rule)) (beyond : Additional) (c : Context) (key : String)
    (value : Json) : Prop where
  byKey : ∀ rule, (key, rule) ∈ declared → p.Accepts limit rule (c.push key) value
  byPattern : ∀ pattern rule, (pattern, rule) ∈ patterned → pattern.searches key = true →
    p.Accepts limit rule (c.push key) value
  beyond : ¬PropertyRules.Declares declared patterned key →
    beyond = .allowed ∨ ∃ rule, beyond = .governed rule ∧ p.Accepts limit rule (c.push key) value

variable {p : Program} {limit : ℕ} {limits : PropertyLimits} {declared : List (String × Rule)}
  {patterned : List (Pattern × Rule)} {beyond : Additional} {properties : PropertyRules}
  {c : Context} {members : Members} {key : String} {value : Json} {tasks : List Task}
  {results : List Result}

/-- A value suits if the rules that apply accept it, and its key is not forbidden. -/
theorem suits_iff : p.Suits limit declared patterned beyond c key value ↔
    (∀ rule, PropertyRules.Applies declared patterned beyond key rule →
      p.Accepts limit rule (c.push key) value) ∧
    (¬PropertyRules.Declares declared patterned key → beyond ≠ .forbidden) := by
  constructor
  · intro h
    refine ⟨?_, ?_⟩
    · intro rule hrule
      cases hrule with
      | byKey hr => exact h.byKey rule hr
      | byPattern hr hs => exact h.byPattern _ rule hr hs
      | beyond hkey hr =>
        rcases h.beyond hkey with hallowed | ⟨rule', hr', haccepts⟩
        · cases hr.symm.trans hallowed
        · cases hr.symm.trans hr'
          exact haccepts
    · rintro hkey rfl
      rcases h.beyond hkey with hallowed | ⟨_, hr, -⟩
      · cases hallowed
      · cases hr
  · rintro ⟨hrules, hforbidden⟩
    refine ⟨?_, ?_, ?_⟩
    · intro rule hr
      exact hrules rule (.byKey hr)
    · intro pattern rule hr hs
      exact hrules rule (.byPattern hr hs)
    · intro hkey
      cases beyond with
      | allowed => exact .inl rfl
      | forbidden => exact absurd rfl (hforbidden hkey)
      | governed rule => exact .inr ⟨rule, rfl, hrules rule (.beyond hkey rfl)⟩

/-- The result for an object is made of its limits and of what its tasks give. -/
theorem exists_tasksGive (hp : p.Closed) (hr : p.Supports (.object limits properties)) (c : Context)
    (members : Members) : ∃ results, p.TasksGive limit (properties.tasks c members) results ∧
      p.evaluate limit (.object limits properties) c (.object members) =
        (.ok ((c.check (.object members) (limits.violations members)).join
          (.merge [properties.conclude c members results])) : Except Fault Result) := by
  obtain ⟨r, hresult⟩ := evaluate_total hp hr c (.object members)
  obtain ⟨results, htasks, rfl⟩ := (Rule.gives_check .plain).1 hresult
  simp only [Context.merge_check_cons] at hresult
  refine ⟨results, forall₂_imp_mem htasks ?_, hresult⟩
  intro t ht y hy
  -- one step down the guards are the same
  obtain ⟨-, hnear⟩ := PropertyRules.tasks_spec ht
  rw [evaluate, hnear.active_eq]
  exact hy

/-- Tasks all succeed exactly if their rules are met. -/
theorem valid_merge_iff (h : p.TasksGive limit tasks results) :
    (Result.merge results).valid = true ↔
      ∀ t ∈ tasks, p.Accepts limit t.rule t.context t.value := by
  simp only [Result.merge, List.all_eq_true]
  constructor
  · intro hvalid t ht
    obtain ⟨y, hy, hresult⟩ := exists_of_mem_forall₂ h.flip ht
    exact ⟨y, hresult, hvalid y hy⟩
  · intro haccepts y hy
    obtain ⟨t, ht, hresult⟩ := exists_of_mem_forall₂ h hy
    obtain ⟨y', hresult', hvalid⟩ := haccepts t ht
    cases hresult.symm.trans hresult'
    exact hvalid

/-- **The tasks succeed and nothing is refused exactly if every value suits its key.** -/
theorem valid_join_iff (hm : members.keys.Nodup) (hwell : ∀ e ∈ patterned, e.1.isWellFormed = true)
    (h : p.TasksGive limit ((PropertyRules.checked declared patterned beyond).tasks c members)
      results) :
    ((Result.merge results).join
        (.merge (beyond.refusals c (PropertyRules.extras declared patterned members)))).valid =
          true ↔ ∀ key value, (key, value) ∈ members →
      p.Suits limit declared patterned beyond c key value := by
  simp only [Result.join, Bool.and_eq_true, valid_merge_iff h, Additional.valid_merge_refusals,
    PropertyRules.extras_eq_nil_iff, PropertyRules.mem_tasks_iff hm hwell, suits_iff]
  constructor
  · rintro ⟨htasks, hforbidden⟩ key value hv
    refine ⟨?_, ?_⟩
    · intro rule hrule
      exact htasks _ ⟨key, value, rule, hv, hrule, rfl⟩
    · intro hkey hbeyond
      exact hkey (hforbidden hbeyond _ hv)
  · intro hsuits
    refine ⟨?_, ?_⟩
    · rintro t ⟨key, value, rule, hv, hrule, rfl⟩
      exact (hsuits key value hv).1 rule hrule
    · rintro hbeyond ⟨key, value⟩ hv
      by_contra hkey
      exact (hsuits key value hv).2 hkey hbeyond

/-- The errors of tasks are those of rules that apply, each at the place of its key. -/
theorem exists_of_mem_errors (hm : members.keys.Nodup)
    (hwell : ∀ e ∈ patterned, e.1.isWellFormed = true)
    (h : p.TasksGive limit ((PropertyRules.checked declared patterned beyond).tasks c members)
      results)
    {e : ValidationError} (he : e ∈ (Result.merge results).errors) :
    ∃ key value rule y, (key, value) ∈ members ∧
      PropertyRules.Applies declared patterned beyond key rule ∧
      p.evaluate limit rule (c.push key) value = (.ok y : Except Fault Result) ∧
      y.valid = false ∧ e ∈ y.errors := by
  obtain ⟨y, hy, he⟩ := List.mem_flatMap.1 he
  obtain ⟨hy, hvalid⟩ := List.mem_filter.1 hy
  obtain ⟨t, ht, hresult⟩ := exists_of_mem_forall₂ h hy
  obtain ⟨key, value, rule, hv, hrule, rfl⟩ := (PropertyRules.mem_tasks_iff hm hwell).1 ht
  exact ⟨key, value, rule, y, hv, hrule, hresult, by simpa using hvalid, he⟩

end Program

open PropertyRules in
/-- **Properties are checked by the rules for them, and by no others.**  In a closed program a rule
for objects has a result for every object, at every place.  If all patterns are well formed, the
object is valid exactly if the limits admit it and each value suits its key.  If other keys are
forbidden, behind the errors for the limits and those of rules for declared keys there is one error
for each key that is not declared, in the order of the object.  If a pattern is malformed, the first
one is all that is reported behind the errors for the limits. -/
theorem properties_checked_by_rules_for_them {p : Program} {limits : PropertyLimits}
    {declared : List (String × Rule)} {patterned : List (Pattern × Rule)} {beyond : Additional}
    (hp : p.Closed) (hr : p.Supports (.object limits (.checked declared patterned beyond)))
    (limit : ℕ) (c : Context) {members : Members} (hm : members.keys.Nodup) :
    ∃ r : Result, p.evaluate limit (.object limits (.checked declared patterned beyond)) c
        (.object members) = (.ok r : Except Fault Result) ∧
      ((∀ e ∈ patterned, e.1.isWellFormed = true) →
        (r.valid = true ↔ limits.Admits members ∧ ∀ key value, (key, value) ∈ members →
          p.Suits limit declared patterned beyond c key value) ∧
        (beyond = .forbidden → ∃ ruleErrors : List ValidationError,
          r.errors = limits.errors c members ++ ruleErrors ++
            (members.filter fun m => !decide (Declares declared patterned m.1)).map
              (fun m => (c.push m.1).error m.2 (.additionalProperty m.1) []) ∧
          ∀ e ∈ ruleErrors, ∃ key value rule y, (key, value) ∈ members ∧
            Declares declared patterned key ∧ Applies declared patterned beyond key rule ∧
            p.evaluate limit rule (c.push key) value = (.ok y : Except Fault Result) ∧
            y.valid = false ∧ e ∈ y.errors)) ∧
      ∀ before pattern rule after, patterned = before ++ (pattern, rule) :: after →
        (∀ e ∈ before, e.1.isWellFormed = true) → pattern.isWellFormed = false →
          r.valid = false ∧ r.errors = limits.errors c members ++
            [c.error (.object members) (.invalidPattern pattern.source) []] := by
  obtain ⟨results, htasks, hresult⟩ := Program.exists_tasksGive hp hr c members
  refine ⟨_, hresult, ?_, ?_⟩
  · intro hwell
    rw [merge_conclude hwell]
    refine ⟨?_, ?_⟩
    · rw [Result.join, Bool.and_eq_true, Program.valid_join_iff hm hwell htasks]
      exact and_congr_left' (List.isEmpty_iff.trans PropertyLimits.violations_eq_nil_iff)
    · rintro rfl
      refine ⟨(Result.merge results).errors, ?_, ?_⟩
      · rw [Additional.merge_refusals_forbidden, extras, undeclared_eq_filter, Extra.ofMembers,
          List.map_map]
        exact (List.append_assoc ..).symm
      · intro e he
        obtain ⟨key, value, rule, y, hv, hrule, hy⟩ :=
          Program.exists_of_mem_errors hm hwell htasks he
        exact ⟨key, value, rule, y, hv, hrule.declares, hrule, hy⟩
  · rintro before pattern rule after rfl hbefore hpattern
    rw [merge_conclude_malformed hbefore hpattern]
    exact ⟨Bool.and_false _, rfl⟩

/-! ### Keys of three kinds -/

/-- A name is required, there may be a text under `id` and numbers under keys with an `x`, and what
more patterns say; other keys are forbidden. -/
def tagRule (more : List (Pattern × Rule)) : Rule :=
  .object ⟨none, none, some ["name"]⟩ (.checked [("id", .type "string")]
    ((.ofSource "x", .type "number") :: more) .forbidden)

/-- Keys of every kind, and no name. -/
def tagValue : Members := [("y", .null), ("xx", .int 1), ("id", .string "a"), ("z", .null)]

/-- A program of one rule is closed if the rule has no reference. -/
theorem closed_of_not_mentions {rule : Rule} (h : ∀ r, ¬rule.Mentions r) :
    (Program.mk rule []).Closed where
  root r hr := absurd hr (h r)
  target ht := nomatch ht

theorem closed_tagRule : (Program.mk (tagRule []) []).Closed := by
  have hsteps : (tagRule []).steps = [] := rfl
  refine closed_of_not_mentions fun r hr => ?_
  rw [Rule.Mentions, hsteps] at hr
  cases hr

/-- A parenthesis that is not closed is no regular expression. -/
theorem closed_tagRule_malformed :
    (Program.mk (tagRule [(.ofSource "(", .type "null")]) []).Closed := by
  have hsteps : (tagRule [(.ofSource "(", .type "null")]).steps =
      [.event (.malformedPropertyPattern "(")] := rfl
  refine closed_of_not_mentions fun r hr => ?_
  rw [Rule.Mentions, hsteps] at hr
  cases List.mem_singleton.1 hr

theorem properties_checked_by_rules_for_them_tags :
    (Members.keys tagValue).Nodup ∧
      (∃ r : Result, Program.evaluate ⟨tagRule [], []⟩ 8 (tagRule []) (.start false)
          (.object tagValue) = (.ok r : Except Fault Result) ∧
        ∃ ruleErrors : List ValidationError, r.errors =
          [.mk "" (.object tagValue) (.required ["name"]) []] ++ ruleErrors ++
            [.mk "/y" .null (.additionalProperty "y") [],
              .mk "/z" .null (.additionalProperty "z") []]) ∧
      ∃ r : Result, Program.evaluate ⟨tagRule [(.ofSource "(", .type "null")], []⟩ 8
          (tagRule [(.ofSource "(", .type "null")]) (.start false) (.object tagValue) =
            (.ok r : Except Fault Result) ∧
        r.errors = [.mk "" (.object tagValue) (.required ["name"]) [],
          .mk "" (.object tagValue) (.invalidPattern "(") []] := by
  have hm : (Members.keys tagValue).Nodup := by decide
  have hx : ∀ e ∈ [(Pattern.ofSource "x", Rule.type "number")], e.1.isWellFormed = true := by
    rw [List.forall_mem_singleton]
    rfl
  refine ⟨hm, ?_, ?_⟩
  · obtain ⟨r, hr, hwell, -⟩ := properties_checked_by_rules_for_them closed_tagRule
      closed_tagRule.root 8 (.start false) hm
    obtain ⟨ruleErrors, herrors, -⟩ := (hwell hx).2 rfl
    exact ⟨r, hr, ruleErrors, herrors⟩
  · obtain ⟨r, hr, -, hmalformed⟩ := properties_checked_by_rules_for_them
      closed_tagRule_malformed closed_tagRule_malformed.root 8 (.start false) hm
    obtain ⟨-, herrors⟩ := hmalformed _ _ _ [] rfl hx rfl
    refine ⟨r, hr, herrors.trans ?_⟩
    rfl

end JsonSchema
