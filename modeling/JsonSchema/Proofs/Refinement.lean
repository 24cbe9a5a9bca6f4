/-
  Compiled schemas do what direct interpretation does.

  * `Check.Amount`, `Check.Sums`: checks, or rules, come to the same as one
    check, once their results are merged.
  * `Rule.check_allOf`, …: a rule asks what the combinator of its kind asks.
  * `Members.check_rule`: the rule of a schema object asks what the object asks,
    as long as references are treated alike.
  * `Members.mention_eq_pursue`: following a reference through a complete table
    is looking it up in the document.
  * `Members.evaluate_eq_interpret`: what the rule of a schema object gives.
  * `interpretation_eq_validate`: the result of a schema that was built.
-/
import JsonSchema.Proofs.Interpreter
import JsonSchema.Proofs.Totality

namespace JsonSchema

/-! ## Merging -/

namespace Result

/-- Two merged results in one. -/
def join (a b : Result) : Result := ⟨a.valid && b.valid, a.errors ++ b.errors⟩

theorem merge_append (as bs : List Result) : merge (as ++ bs) = (merge as).join (merge bs) := by
  simp [merge, join]

theorem merge_of_valid {rs : List Result} (h : (merge rs).valid = true) : merge rs = .success := by
  have hv : ∀ r ∈ rs, r.valid = true := by simpa [merge] using h
  have hn : rs.filter (!·.valid) = [] := by simpa using hv
  simpa [merge, hn, success] using hv

/-- Merging once more makes no difference. -/
theorem merge_merge (rs : List Result) : merge [merge rs] = merge rs := by
  cases h : (merge rs).valid with
  | true =>
    rw [merge_of_valid h]
    rfl
  | false =>
    generalize merge rs = r at h
    obtain ⟨valid, errors⟩ := r
    cases h
    simp [merge]

end Result

/-! ## Rules and combinators -/

section
variable {m : Type → Type} [Monad m] [MonadExceptOf Fault m] {follow : Follow m}

namespace Rule

theorem check_anyOf (rules : List Rule) :
    (anyOf rules).check follow = Check.any (rules.map (Rule.check follow)) := by
  funext c v
  simp only [Rule.check, checkAny_eq, tasksAt, Check.any, List.map_map]
  rfl

theorem check_not (rule : Rule) :
    (not rule).check follow = Check.negation (rule.check follow) := rfl

theorem check_typeRule (type : Json) : (typeRule type).check follow = Check.ofType type := by
  cases type with
  | array items =>
    simp only [typeRule, Check.ofType, Json.strings?]
    cases items.mapM Json.string? with
    | none => rfl
    | some names =>
      rw [check_anyOf, List.map_map]
      rfl
  | _ => rfl

theorem check_formatRule (env : Environment) (name : String) :
    (formatRule env name).check follow = Check.format env.registry name := by
  unfold formatRule Check.format
  cases env.registry.get? name <;> rfl

theorem check_array (limits : ItemLimits) (items : ItemRules) :
    (array limits items).check follow = Check.array limits (items.check follow) := by
  funext c v
  cases v <;> rfl

theorem check_object (limits : PropertyLimits) (properties : PropertyRules) :
    (object limits properties).check follow = Check.object limits (properties.check follow) := by
  funext c v
  cases v <;> rfl

theorem check_dependentRule (key : String) (rule : Rule) :
    (dependentRule key rule).check follow = Check.having key (rule.check follow) := by
  funext c v
  cases v <;> rfl

theorem check_dependentKeys (key : String) (names : List String) :
    (dependentKeys key names).check follow = Check.having key (Check.keys key names) := by
  funext c v
  cases v <;> rfl

variable [LawfulMonad m]

theorem checkAll_mapM (rules : List Rule) (c : Context) (v : Json) :
    Rule.checkAll follow rules c v = rules.mapM fun rule => rule.check follow c v := by
  rw [Rule.checkAll_eq, tasksAt, List.mapM_map]
  rfl

theorem check_allOf (rules : List Rule) :
    (allOf rules).check follow = Check.all (rules.map (Rule.check follow)) := by
  funext c v
  simp only [Rule.check, checkAll_mapM, Check.all, List.mapM_map, Function.comp_def]

theorem check_oneOf (rules : List Rule) :
    (oneOf rules).check follow = Check.one (rules.map (Rule.check follow)) := by
  funext c v
  simp only [Rule.check, checkAll_mapM, Check.one, List.mapM_map, Function.comp_def]

end Rule

end

/-! ## Groups of rules -/

section
variable {m : Type → Type} [Monad m] [LawfulMonad m]

theorem Result.map_merge_append (x y : m (List Result)) :
    merge <$> (do return (← x) ++ (← y)) = do return (← merge <$> x).join (← merge <$> y) := by
  simp [merge_append]

namespace Check

/-- Checks come to the same as one check, once their results are merged. -/
def Amount (checks : List (Check m)) (check : Check m) : Prop :=
  ∀ c v, Result.merge <$> (checks.mapM fun check => check c v) =
    (fun r => Result.merge [r]) <$> check c v

theorem amount_nil : Amount [] (anything (m := m)) := by
  intro c v
  simp [anything]
  rfl

theorem amount_singleton (check : Check m) : Amount [check] check := by
  intro c v
  simp

/-- The checks of groups can be made one after another. -/
theorem merge_mapM_flatten {groups : List (List (Check m))} {checks : List (Check m)}
    (h : List.Forall₂ Amount groups checks) (c : Context) (v : Json) :
    Result.merge <$> (groups.flatten.mapM fun check => check c v) =
      Result.merge <$> checks.mapM fun check => check c v := by
  induction h with
  | nil => rfl
  | @cons group check groups checks hg _ ih =>
    calc Result.merge <$> ((group ++ groups.flatten).mapM fun check => check c v)
      _ = Result.merge <$> (do
            return (← group.mapM fun check => check c v) ++
              (← groups.flatten.mapM fun check => check c v)) := by
          rw [List.mapM_append]
      _ = (do
            let first ← Result.merge <$> (fun r => [r]) <$> check c v
            return first.join (← Result.merge <$> checks.mapM fun check => check c v)) := by
          rw [Result.map_merge_append, hg, ih, Functor.map_map]
      _ = Result.merge <$> (check :: checks).mapM fun check => check c v := by
          rw [← Result.map_merge_append]
          simp

theorem all_eq_map (checks : List (Check m)) (c : Context) (v : Json) :
    all checks c v = Result.merge <$> checks.mapM fun check => check c v := by
  simp only [all, map_eq_pure_bind]

/-- **All checks of groups are all of their amounts.** -/
theorem all_flatten {groups : List (List (Check m))} {checks : List (Check m)}
    (h : List.Forall₂ Amount groups checks) : all groups.flatten = all checks := by
  funext c v
  rw [all_eq_map, all_eq_map, merge_mapM_flatten h]

end Check

variable [MonadExceptOf Fault m] {follow : Follow m}

/-- Rules come to the same as a check, once their results are merged. -/
def Check.Sums (follow : Follow m) (rules : List Rule) (check : Check m) : Prop :=
  ∀ c v, Result.merge <$> Rule.checkAll follow rules c v =
    (fun r => Result.merge [r]) <$> check c v

namespace Check

/-- Rules sum up to what their checks amount to. -/
theorem sums_iff {rules : List Rule} {check : Check m} :
    Sums follow rules check ↔ Amount (rules.map (Rule.check follow)) check := by
  simp only [Sums, Amount, Rule.checkAll_mapM, List.mapM_map, Function.comp_def]

theorem sums_nil : Sums follow [] anything := sums_iff.2 amount_nil

theorem sums_singleton {rule : Rule} {check : Check m} (h : rule.check follow = check) :
    Sums follow [rule] check := by
  rw [sums_iff, ← h]
  exact amount_singleton _

/-- The check of a keyword that may be missing. -/
theorem sums_option {α : Type} {o : Option α} {f : α → Rule} {g : α → Check m}
    (h : ∀ a, o = some a → (f a).check follow = g a) :
    Sums follow (o.map f).toList (o.elim anything g) := by
  cases o with
  | none => exact sums_nil
  | some a => exact sums_singleton (h a rfl)

/-- The check of a group of keywords, of which none may be there. -/
theorem sums_limits {empty : Bool} {rule : Rule} {check : Check m}
    (h : rule.check follow = check) (he : empty = true → check = anything) :
    Sums follow (if empty then none else some rule).toList check := by
  cases empty with
  | true =>
    rw [he rfl]
    exact sums_nil
  | false => exact sums_singleton h

/-- **All groups of keywords in turn.** -/
theorem check_combined {groups : List (List Rule)} {checks : List (Check m)}
    (h : List.Forall₂ (Sums follow) groups checks) :
    (Rule.combined groups.flatten).check follow = all checks := by
  have hamounts : List.Forall₂ Amount (groups.map (·.map (Rule.check follow))) checks := by
    rw [List.forall₂_map_left_iff]
    exact h.imp fun _ _ => sums_iff.1
  rw [← all_flatten hamounts, ← List.map_flatten]
  funext c v
  simp only [Rule.check, Rule.checkAll_mapM, all, List.mapM_map, Function.comp_def]

theorem sums_all {rules : List Rule} {checks : List (Check m)}
    (h : (Rule.combined rules).check follow = all checks) : Sums follow rules (all checks) := by
  intro c v
  have hc := congrFun (congrFun h c) v
  simp only [Rule.check] at hc
  rw [← hc]
  simp [Result.merge_merge]

end Check

end

/-! ## Limits that are not set -/

theorem TextLimits.violations_eq_nil {l : TextLimits} (h : l.isEmpty = true) (s : String) :
    l.violations s = [] := by
  obtain ⟨most, least, pattern⟩ := l
  simp only [isEmpty, Bool.and_eq_true, Option.isNone_iff_eq_none] at h
  obtain ⟨⟨rfl, rfl⟩, rfl⟩ := h
  rfl

theorem NumberLimits.violations_eq_nil {l : NumberLimits} (h : l.isEmpty = true) (n : Number) :
    l.violations n = .ok [] := by
  obtain ⟨multipleOf, minimum, maximum, exclusiveMinimum, exclusiveMaximum⟩ := l
  simp only [isEmpty, Bool.and_eq_true, Option.isNone_iff_eq_none] at h
  obtain ⟨⟨rfl, rfl⟩, rfl⟩ := h
  rfl

theorem ItemLimits.violations_eq_nil {l : ItemLimits} (h : l.isEmpty = true) (items : List Json) :
    l.violations items = [] := by
  obtain ⟨least, most, unique⟩ := l
  simp only [isEmpty, Bool.and_eq_true, Option.isNone_iff_eq_none, Bool.not_eq_true'] at h
  obtain ⟨⟨rfl, rfl⟩, rfl⟩ := h
  rfl

theorem PropertyLimits.violations_eq_nil {l : PropertyLimits} (h : l.isEmpty = true)
    (members : Members) : l.violations members = [] ∧ l.violationsOfOther = [] := by
  obtain ⟨most, least, required⟩ := l
  simp only [isEmpty, Bool.and_eq_true, Option.isNone_iff_eq_none] at h
  obtain ⟨⟨rfl, rfl⟩, rfl⟩ := h
  exact ⟨rfl, rfl⟩

namespace Check

section
variable {m : Type → Type} [Monad m]

theorem text_eq_anything {limits : TextLimits} (h : limits.isEmpty = true) :
    text (m := m) limits = anything := by
  funext c v
  cases v with
  | string s => simp only [text, TextLimits.violations_eq_nil h, anything]; rfl
  | _ => rfl

variable [MonadExceptOf Fault m]

theorem number_eq_anything {limits : NumberLimits} (h : limits.isEmpty = true) :
    number (m := m) limits = anything := by
  funext c v
  unfold number
  cases v.number? with
  | none => rfl
  | some n => simp only [checkNumber, NumberLimits.violations_eq_nil h, anything]; rfl

variable [LawfulMonad m] {follow : Follow m}

theorem array_eq_anything {limits : ItemLimits} {items : ItemRules}
    (h : (limits.isEmpty && items.isUnchecked) = true) :
    array limits (items.check follow) = anything := by
  obtain ⟨hl, hi⟩ := Bool.and_eq_true_iff.1 h
  funext c v
  cases items with
  | unchecked =>
    cases v with
    | array values =>
      simp only [array, ItemLimits.violations_eq_nil hl, ItemRules.check, pure_bind]
      rfl
    | _ => rfl
  | _ => cases hi

theorem object_eq_anything {limits : PropertyLimits} {properties : PropertyRules}
    (h : (limits.isEmpty && properties.isUnchecked) = true) :
    object limits (properties.check follow) = anything := by
  obtain ⟨hl, hp⟩ := Bool.and_eq_true_iff.1 h
  funext c v
  cases properties with
  | unchecked =>
    cases v with
    | object members =>
      simp only [object, (PropertyLimits.violations_eq_nil hl _).1, PropertyRules.check, pure_bind]
      rfl
    | _ =>
      simp only [object, (PropertyLimits.violations_eq_nil hl []).2]
      rfl
  | _ => cases hp

end

end Check

/-! ## Items and properties -/

section
variable {m : Type → Type} [Monad m] [MonadExceptOf Fault m] {follow : Follow m}

namespace Members

variable {S : Members} {env : Environment} {f : Members → Check m}

theorem check_additional {key : String}
    (h : ∀ T, S.schema? key = some T → (T.rule env).check follow = f T) :
    (S.additional env key).check follow = (S.rest key ((S.schema? key).map f)).results := by
  unfold additional rest
  cases hs : S.schema? key with
  | some T =>
    funext c extras
    simp only [Additional.check, h T hs, Option.map_some, Rest.results]
  | none =>
    cases S.get? key with
    | none => rfl
    | some v =>
      cases v with
      | bool b => cases b <;> rfl
      | _ => rfl

theorem check_patterned (l : List (String × Members)) (c : Context) (members : Members)
    (h : ∀ e ∈ l, (e.2.rule env).check follow = f e.2) :
    PropertyRules.checkPatterned follow (l.map fun (source, T) => (.ofSource source, T.rule env))
        c members =
      Check.onMatches c members (l.map fun (source, T) => (.ofSource source, f T)) := by
  induction l with
  | nil => rfl
  | cons e l ih =>
    obtain ⟨name, T⟩ := e
    have ih := ih fun e he => h e (List.mem_cons_of_mem _ he)
    have hT := h (name, T) List.mem_cons_self
    simp only [List.map_cons, PropertyRules.checkPatterned, Check.onMatches, ih, hT]

theorem lookup_isNone {α : Type} (l : List (String × α)) (name : String) :
    (l.lookup name).isNone = !(l.map (·.1)).contains name := by
  induction l with
  | nil => rfl
  | cons e l ih =>
    obtain ⟨k, a⟩ := e
    simp only [List.lookup_cons, List.map_cons, List.contains_cons]
    cases name == k <;> simp [ih]

theorem ofMembers_undeclared (declared : List (String × Rule)) (patterned : List (Pattern × Rule))
    (members : Members) : Extra.ofMembers (undeclared declared patterned members) =
      Check.others (declared.map (·.1)) (patterned.map (·.1)) members := by
  simp only [undeclared, Check.others, lookup_isNone, List.any_map, Function.comp_def]

variable [LawfulMonad m]

theorem check_positional (Ts : List Members) (beyond : Additional) (rest : Rest m)
    (h : ∀ T ∈ Ts, (T.rule env).check follow = f T) (hr : beyond.check follow = rest.results) :
    (ItemRules.positional (Ts.map fun T => T.rule env) beyond).check follow =
      Check.onPositions (Ts.map f) rest := by
  funext c values
  simp only [ItemRules.check, ItemRules.checkPositions_eq, Check.onPositions, hr, List.length_map,
    List.mapM_map, List.zip_map_left]
  congr 1
  refine mapM_congr_mem ?_
  intro e hm
  obtain ⟨hT, -⟩ := List.of_mem_zip hm
  exact congrFun (congrFun (h e.1 hT) _) _

theorem check_itemRules (h : ∀ T ∈ S.itemSchemas, (T.rule env).check follow = f T) :
    (S.itemRules env).check follow =
      onItems ((S.schema? "items").map f) ((S.schemas? "items").map (·.map f))
        (S.rest "additionalItems" ((S.schema? "additionalItems").map f)) := by
  unfold itemRules onItems
  unfold itemSchemas at h
  cases hi : S.schema? "items" with
  | some T =>
    rw [hi] at h
    funext c values
    simp only [ItemRules.check, h T (List.mem_singleton_self T), Option.map_some, Check.onItems]
  | none =>
    cases hs : S.schemas? "items" with
    | none => rfl
    | some Ts =>
      rw [hi, hs] at h
      apply check_positional
      · intro T hT
        exact h T (List.mem_append_left _ hT)
      · refine check_additional ?_
        intro T hT
        exact h T (List.mem_append_right _ (Option.mem_toList.2 hT))

theorem check_declared (l : List (String × Members)) (c : Context) (members : Members)
    (h : ∀ e ∈ l, (e.2.rule env).check follow = f e.2) :
    PropertyRules.checkDeclared follow (l.map fun (name, T) => (name, T.rule env)) c members =
      Check.onKeys (l.map fun (name, T) => (name, f T)) c members := by
  induction l with
  | nil => rfl
  | cons e l ih =>
    obtain ⟨name, T⟩ := e
    have ih := ih fun e he => h e (List.mem_cons_of_mem _ he)
    have hT := h (name, T) List.mem_cons_self
    simp only [List.map_cons, PropertyRules.checkDeclared, ih, Check.onKeys, List.filterMap_cons]
    cases Members.get? members name with
    | none => simp
    | some v => simp [hT]

theorem check_propertyRules (h : ∀ T ∈ S.propertySchemas, (T.rule env).check follow = f T) :
    (S.propertyRules env).check follow =
      S.onProperties ((S.named "properties").map fun (name, T) => (name, f T))
        ((S.named "patternProperties").map fun (source, T) => (source, f T))
        (S.rest "additionalProperties" ((S.schema? "additionalProperties").map f)) := by
  unfold propertyRules onProperties
  split_ifs with hp
  · have hd : ∀ e ∈ S.named "properties", (e.2.rule env).check follow = f e.2 := by
      intro e he
      have hT := List.mem_map_of_mem (f := (·.2)) he
      exact h e.2 (List.mem_append_left _ (List.mem_append_left _ hT))
    have hm : ∀ e ∈ S.named "patternProperties", (e.2.rule env).check follow = f e.2 := by
      intro e he
      have hT := List.mem_map_of_mem (f := (·.2)) he
      exact h e.2 (List.mem_append_left _ (List.mem_append_right _ hT))
    have ha : (S.additional env "additionalProperties").check follow = (S.rest
        "additionalProperties" ((S.schema? "additionalProperties").map f)).results :=
      check_additional fun T hT => h T (List.mem_append_right _ (Option.mem_toList.2 hT))
    funext c members
    rw [PropertyRules.check, check_declared _ c members hd, check_patterned _ c members hm]
    unfold Check.onProperties
    rw [List.map_map]
    refine bind_congr fun first => bind_congr fun second => ?_
    cases second with
    | error source => rfl
    | ok second => simp only [ofMembers_undeclared, ha, List.map_map, Function.comp_def]
  · rfl

theorem check_dependency (key : String) (needs : Json)
    (h : ∀ T, needs.members? = some T → (T.rule env).check follow = f T) :
    Check.Sums follow (dependency? env key needs).toList
      (onDependency key needs (needs.members?.map f)) := by
  unfold dependency? onDependency
  cases hn : needs.members? with
  | some T =>
    refine Check.sums_singleton ?_
    rw [Rule.check_dependentRule, h T hn]
    rfl
  | none => exact Check.sums_option fun names _ => Rule.check_dependentKeys key names

theorem mem_dependencySchemas {key : String} {needs : Json} {T : Members}
    (h : (key, needs) ∈ S.dependencies) (hT : needs.members? = some T) :
    T ∈ (S.named "dependencies").map (·.2) := by
  have hm : (key, T) ∈ S.named "dependencies" :=
    List.mem_filterMap.2 ⟨(key, needs), h, by simp [hT]⟩
  exact List.mem_map.2 ⟨(key, T), hm, rfl⟩

theorem sums_dependencies
    (h : ∀ T ∈ (S.named "dependencies").map (·.2), (T.rule env).check follow = f T) :
    Check.Sums follow (S.dependencyRules env) (Check.all (S.dependencies.map fun (key, needs) =>
      onDependency key needs (needs.members?.map f))) := by
  have hg : S.dependencyRules env = (S.dependencies.map fun (key, needs) =>
      (dependency? env key needs).toList).flatten := by
    simp [dependencyRules, dependencies, List.filterMap_eq_flatMap_toList, List.flatMap]
  rw [hg]
  refine Check.sums_all (Check.check_combined ?_)
  rw [List.forall₂_map_left_iff, List.forall₂_map_right_iff, List.forall₂_same]
  rintro ⟨key, needs⟩ he
  refine check_dependency key needs ?_
  intro T hT
  exact h T (mem_dependencySchemas he hT)

theorem sums_schemas {key : String} {combine : List Rule → Rule}
    {combined : List (Check m) → Check m}
    (hc : ∀ rules, (combine rules).check follow = combined (rules.map (Rule.check follow)))
    (h : ∀ T ∈ (S.schemas? key).getD [], (T.rule env).check follow = f T) :
    Check.Sums follow ((S.schemas? key).map fun Ts => combine (Ts.map fun T => T.rule env)).toList
      (((S.schemas? key).map (·.map f)).elim Check.anything combined) := by
  cases hs : S.schemas? key with
  | none => exact Check.sums_nil
  | some Ts =>
    rw [hs, Option.getD_some] at h
    refine Check.sums_singleton ?_
    rw [hc, List.map_map]
    exact congrArg combined (List.map_congr_left h)

/-- **The rule of a schema object asks what the object asks**, as long as the rules that its
references stand for ask what becomes of the references. -/
theorem check_rule {follow' : Follow m} (S : Members)
    (h : ∀ r, S.Mentions r → (env.reference r).check follow = follow' r) :
    (S.rule env).check follow = S.interpret env.registry follow' := by
  induction S using subschemas_induction with
  | step S ih =>
    have hT : ∀ T ∈ S.subschemas,
        (T.rule env).check follow = T.interpret env.registry follow' := by
      intro T hT
      refine ih T hT ?_
      intro r hr
      exact h r (.inside hT hr)
    simp only [subschemas, List.flatten_cons, List.flatten_nil, List.append_nil, List.mem_append,
      or_imp, forall_and] at hT
    obtain ⟨hall, hany, hone, hnot, hitems, hproperties, hdependencies⟩ := hT
    rw [rule, rules_eq, interpret_eq]
    refine Check.check_combined (.cons ?ref (.cons ?type (.cons ?allOf (.cons ?anyOf
      (.cons ?oneOf (.cons ?not (.cons ?enum (.cons ?text (.cons ?number (.cons ?array
      (.cons ?object (.cons ?dependencies (.cons ?format .nil)))))))))))))
    case ref => exact Check.sums_option fun r hr => h r (.here hr)
    case type => exact Check.sums_option fun type _ => Rule.check_typeRule type
    case allOf => exact sums_schemas Rule.check_allOf hall
    case anyOf => exact sums_schemas Rule.check_anyOf hany
    case oneOf => exact sums_schemas Rule.check_oneOf hone
    case not =>
      cases hs : S.schema? "not" with
      | none => exact Check.sums_nil
      | some T =>
        refine Check.sums_singleton ?_
        rw [Rule.check_not, hnot T (Option.mem_toList.2 hs)]
        rfl
    case enum => exact Check.sums_option fun values _ => rfl
    case text => exact Check.sums_limits rfl Check.text_eq_anything
    case number => exact Check.sums_limits rfl Check.number_eq_anything
    case array =>
      rw [← check_itemRules hitems]
      exact Check.sums_limits (Rule.check_array _ _) Check.array_eq_anything
    case object =>
      rw [← check_propertyRules hproperties]
      exact Check.sums_limits (Rule.check_object _ _) Check.object_eq_anything
    case dependencies => exact sums_dependencies hdependencies
    case format => exact Check.sums_option fun name _ => Rule.check_formatRule env name

/-! ## Documents -/

variable {table : References} {D : Members} {registry : Registry} {limit remaining : ℕ}

/-- The rule of a schema object asks what the object asks, if references are treated alike. -/
theorem check_rule_of_knows {T : Members} (hT : ∀ r, T.Mentions r → table.Knows r)
    (hr : ∀ {r}, table.Knows r →
      (table.mention r).check ((table.program D registry).enter limit remaining) =
        (D.pursue registry limit remaining r : Check m)) :
    (T.rule ⟨registry, table.mention⟩).check ((table.program D registry).enter limit remaining) =
      (T.interpret registry (D.pursue registry limit remaining) : Check m) :=
  check_rule T fun r hm => hr (hT r hm)

/-- **Following a reference through the table is looking it up in the document.** -/
theorem mention_eq_pursue (hc : table.Complete D) (limit remaining : ℕ) {r : String}
    (hr : table.Knows r) :
    (table.mention r).check ((table.program D registry).enter limit remaining) =
      (D.pursue registry limit remaining r : Check m) := by
  induction remaining using Nat.strong_induction_on generalizing r with
  | _ remaining ih =>
    obtain ⟨res, hres⟩ := hr.lookup
    have hs := hc.sound (mem_of_lookup hres)
    funext c v
    rw [References.mention, hres, pursue, hs]
    cases res with
    | remote => rfl
    | notFound segment => rfl
    | found T =>
      have ht : (table.program D registry).target? r = some (T.rule ⟨registry, table.mention⟩) := by
        rw [References.target?_program, hres]
        rfl
      simp only [Rule.check]
      by_cases hf : c.isFollowing r = true
      · rw [Program.enter_following hf, if_pos hf]
      · rw [if_neg hf]
        cases remaining with
        | zero => exact Program.enter_zero hf
        | succ remaining =>
          have hT : ∀ r, T.Mentions r → table.Knows r := fun _ => hc.closed (mem_of_lookup hres)
          rw [Program.enter_succ hf ht, check_rule_of_knows hT (ih remaining (Nat.lt_succ_self _))]

/-- **What the rule of a schema object gives is what the object asks**, if the table is complete
and knows the references that are mentioned. -/
theorem evaluate_eq_interpret (hc : table.Complete D) {T : Members}
    (hT : ∀ r, T.Mentions r → table.Knows r) (limit : ℕ) (c : Context) (v : Json) :
    (table.program D registry).evaluate limit (T.rule ⟨registry, table.mention⟩) c v =
      (T.interpret registry (D.pursue registry limit (limit - c.active.length)) c v : m Result) :=
  congrFun (congrFun (check_rule_of_knows hT (mention_eq_pursue hc limit _)) c) v

end Members

end

/-- A schema that was built gives what the interpretation of its document gives. -/
theorem validate?_eq_interpretation {D : Members} {options : Options} {s : Schema}
    {registry : Registry} (h : (Schema.build (.object D) options).schema = .ok s)
    (hr : Registry.build options.formats = .ok registry) (v : Json) : s.validate? v =
      D.interpretation registry options.verbose options.maxReferenceDepth.toNat v := by
  obtain ⟨registry', hr', -, hf, rfl⟩ := build_eq_ok_iff.1 h
  obtain rfl : registry' = registry := by simpa [hr] using hr'.symm
  have hc := D.table_complete registry' hf
  exact Members.evaluate_eq_interpret hc (fun _ => hc.closed hc.document) _ _ v

/-- **A schema that was built says of a value what the direct interpretation of its document
says.** -/
theorem interpretation_eq_validate {D : Members} {options : Options} {s : Schema}
    {registry : Registry} (h : (Schema.build (.object D) options).schema = .ok s)
    (hr : Registry.build options.formats = .ok registry) (v : Json) :
    D.interpretation registry options.verbose options.maxReferenceDepth.toNat v =
      .ok (s.validate v) := by
  rw [← validate?_eq h v]
  exact (validate?_eq_interpretation h hr v).symm

theorem interpretation_listValue :
    (Schema.build (.object listDocument) .default).schema = .ok listSchema ∧
      Registry.build Options.default.formats = .ok .builtIn ∧
      listDocument.interpretation .builtIn false 64 listValue =
        .ok (listSchema.validate listValue) :=
  ⟨build_listSchema, rfl, interpretation_eq_validate build_listSchema rfl listValue⟩

end JsonSchema
