/-
  What a schema object asks, one group of keywords at a time.

  * `keywordGroups`: the groups, in the order of evaluation.
  * `KeywordGroup`: the check of a group, which reads the keys of the group only.
  * `Check.text_amount`, …: limits come to the same as one limit at a time.
  * `Members.interpret_eq_groups`: a schema object asks what its groups ask, in
    order.
  * `Members.restrict`: the members under some keys only.
  * `Members.interpret_eq_restricted`: a schema object asks what its restrictions
    to the groups ask, in order.
-/
import JsonSchema.Proofs.Refinement

namespace JsonSchema

/-- Keywords that are evaluated together, in the order of evaluation. -/
def keywordGroups : List (List String) :=
  [["$ref"], ["type"], ["allOf"], ["anyOf"], ["oneOf"], ["not"], ["enum"],
    ["maxLength"], ["minLength"], ["pattern"],
    ["multipleOf"], ["minimum", "exclusiveMinimum"], ["maximum", "exclusiveMaximum"],
    ["minItems"], ["maxItems"], ["uniqueItems"], ["items", "additionalItems"],
    ["maxProperties"], ["minProperties"], ["required"],
    ["properties", "patternProperties", "additionalProperties"],
    ["dependencies"], ["format"]]

/-! ## Merging -/

namespace Result

@[simp] theorem join_success (a : Result) : a.join .success = a := by
  simp [join, success]

@[simp] theorem merge_nil : merge [] = .success := rfl

@[simp] theorem merge_success_cons (rs : List Result) : merge (.success :: rs) = merge rs := by
  simp [merge, success]

attribute [simp] merge_merge

end Result

namespace Context

variable (c : Context) (v : Json)

@[simp] theorem check_nil : c.check v [] = .success := rfl

theorem join_check (a b : List Violation) :
    (c.check v a).join (c.check v b) = c.check v (a ++ b) := by
  cases a <;> simp [check, Result.join]

theorem merge_check_cons (a : List Violation) (rs : List Result) :
    Result.merge (c.check v a :: rs) = (c.check v a).join (.merge rs) := by
  have hself : Result.merge [c.check v a] = c.check v a := by
    cases a <;> simp [check, Result.merge]
  rw [← List.singleton_append, Result.merge_append, hself]

theorem merge_check_join (a : List Violation) (rs : List Result) :
    Result.merge [(c.check v a).join (.merge rs)] = (c.check v a).join (.merge rs) := by
  rw [← merge_check_cons, Result.merge_merge]

theorem merge_map_check (as : List (List Violation)) :
    Result.merge (as.map (c.check v)) = c.check v as.flatten := by
  induction as with
  | nil => rfl
  | cons a as ih => rw [List.map_cons, merge_check_cons, ih, join_check, List.flatten_cons]

end Context

/-! ## One limit at a time -/

namespace Check

section
variable {m : Type → Type} [Monad m]

theorem text_eq (l : TextLimits) : text (m := m) l = violations fun v =>
    match v with
    | .string s => l.violations s
    | _ => [] := by
  funext c v
  cases v <;> rfl

theorem number_eq [MonadExceptOf Fault m] (l : NumberLimits) :
    number (m := m) l = violations fun v =>
      match v.number? with
      | some n => l.violated n
      | none => [] := by
  funext c v
  cases h : v.number? with
  | none => simp only [number, violations, h, Context.check_nil]
  | some n => simp only [number, violations, h, checkNumber, l.violations_eq]

variable [LawfulMonad m]

theorem amount_all (checks : List (Check m)) : Amount checks (all checks) := by
  intro c v
  rw [all_eq_map, Functor.map_map]
  simp only [Result.merge_merge]

/-- Checks that ask nothing may be left out. -/
theorem all_idle {before after : List (Check m)} (check : Check m)
    (hb : ∀ k ∈ before, k = anything) (ha : ∀ k ∈ after, k = anything) :
    all (before ++ check :: after) = all [check] := by
  have idle : ∀ {ks : List (Check m)}, (∀ k ∈ ks, k = anything) →
      List.Forall₂ Amount (ks.map fun _ => []) ks := by
    intro ks hk
    rw [List.forall₂_map_left_iff, List.forall₂_same]
    intro k hmem
    rw [hk k hmem]
    exact amount_nil
  have h : List.Forall₂ Amount
      ((before.map fun _ => []) ++ [check] :: (after.map fun _ => [])) (before ++ check :: after) :=
    List.rel_append (idle hb) (.cons (amount_singleton check) (idle ha))
  rw [← all_flatten h]
  simp

theorem Amount.trans {groups : List (List (Check m))} {checks : List (Check m)} {check : Check m}
    (h : List.Forall₂ Amount groups checks) (hc : Amount checks check) :
    Amount groups.flatten check := by
  intro c v
  rw [merge_mapM_flatten h, hc]

/-- All violations in turn. -/
theorem violations_amount (fs : List (Json → List Violation)) {f : Json → List Violation}
    (h : ∀ v, f v = (fs.map fun g => g v).flatten) :
    Amount (fs.map (violations (m := m))) (violations f) := by
  intro c v
  have hmap : ((fs.map (violations (m := m))).mapM fun check => check c v) =
      pure ((fs.map fun g => g v).map (c.check v)) := by
    simp [violations, List.mapM_map, Function.comp_def]
  rw [hmap, map_pure, Context.merge_map_check, ← h v, violations, map_pure,
    Context.merge_check_cons]
  simp

theorem text_amount (l : TextLimits) :
    Amount [text ⟨l.most, none, none⟩, text ⟨none, l.least, none⟩, text ⟨none, none, l.pattern⟩]
      (text (m := m) l) := by
  simp only [text_eq]
  refine violations_amount [_, _, _] fun v => ?_
  cases v <;> simp [TextLimits.violations, lengthViolations]

theorem number_amount [MonadExceptOf Fault m] (l : NumberLimits) :
    Amount [number ⟨l.multipleOf, none, none, false, false⟩,
        number ⟨none, l.minimum, none, l.exclusiveMinimum, false⟩,
        number ⟨none, none, l.maximum, false, l.exclusiveMaximum⟩]
      (number (m := m) l) := by
  simp only [number_eq]
  refine violations_amount [_, _, _] fun v => ?_
  cases h : v.number? <;> simp [h, NumberLimits.violated, NumberLimits.multiples,
    NumberLimits.tooSmall, NumberLimits.tooLarge]

/-! ### Limits and contents -/

/-- Nothing is asked of items. -/
def freeItems : Context → List Json → m (List Result) := fun _ _ => pure []

theorem array_freeItems (l : ItemLimits) : array l (freeItems (m := m)) = violations fun v =>
    match v with
    | .array values => l.violations values
    | _ => [] := by
  funext c v
  cases v with
  | array values => simp [array, freeItems, violations, Context.merge_check_cons]
  | _ => rfl

theorem array_contents (l : ItemLimits) (items : Context → List Json → m (List Result)) :
    Amount [array l freeItems, array ⟨none, none, false⟩ items] (array l items) := by
  intro c v
  rw [array_freeItems]
  cases v with
  | array values =>
    simp [violations, array, ItemLimits.violations, lengthViolations, violationIf,
      Context.merge_check_cons, Context.merge_check_join]
  | _ => simp [violations, array]

theorem array_amount (l : ItemLimits) (items : Context → List Json → m (List Result)) :
    Amount [array ⟨l.least, none, false⟩ freeItems, array ⟨none, l.most, false⟩ freeItems,
        array ⟨none, none, l.unique⟩ freeItems, array ⟨none, none, false⟩ items]
      (array l items) := by
  have hlimits : Amount [array ⟨l.least, none, false⟩ freeItems,
      array ⟨none, l.most, false⟩ freeItems, array ⟨none, none, l.unique⟩ freeItems]
      (array l (freeItems (m := m))) := by
    simp only [array_freeItems]
    refine violations_amount [_, _, _] fun v => ?_
    cases v <;> simp [ItemLimits.violations, lengthViolations, violationIf]
  exact .trans (.cons hlimits (.cons (amount_singleton _) .nil)) (array_contents l items)

/-- Nothing is asked of properties. -/
def freeProperties : Context → Members → m Result := fun _ _ => pure .success

theorem object_freeProperties (l : PropertyLimits) :
    object l (freeProperties (m := m)) = violations fun v =>
      match v with
      | .object members => l.violations members
      | _ => l.violationsOfOther := by
  funext c v
  cases v with
  | object members => simp [object, freeProperties, violations, Context.merge_check_cons]
  | _ => rfl

theorem object_contents (l : PropertyLimits) (properties : Context → Members → m Result) :
    Amount [object l freeProperties, object ⟨none, none, none⟩ properties]
      (object l properties) := by
  intro c v
  rw [object_freeProperties]
  cases v with
  | object members =>
    simp [violations, object, PropertyLimits.violations, lengthViolations,
      Context.merge_check_cons, Context.merge_check_join]
  | _ => simp [violations, object, PropertyLimits.violationsOfOther, Context.merge_check_cons]

theorem object_amount (l : PropertyLimits) (properties : Context → Members → m Result) :
    Amount [object ⟨l.most, none, none⟩ freeProperties, object ⟨none, l.least, none⟩ freeProperties,
        object ⟨none, none, l.required⟩ freeProperties, object ⟨none, none, none⟩ properties]
      (object l properties) := by
  have hlimits : Amount [object ⟨l.most, none, none⟩ freeProperties,
      object ⟨none, l.least, none⟩ freeProperties, object ⟨none, none, l.required⟩ freeProperties]
      (object l (freeProperties (m := m))) := by
    simp only [object_freeProperties]
    refine violations_amount [_, _, _] fun v => ?_
    cases v <;> simp [PropertyLimits.violations, PropertyLimits.violationsOfOther, lengthViolations]
  exact .trans (.cons hlimits (.cons (amount_singleton _) .nil)) (object_contents l properties)

end

end Check

/-! ## Groups -/

namespace Check

variable {m : Type → Type} [Monad m] [LawfulMonad m]

theorem array_free : array ⟨none, none, false⟩ (freeItems (m := m)) = anything := by
  rw [array_freeItems]
  funext c v
  cases v <;> rfl

theorem object_free : object ⟨none, none, none⟩ (freeProperties (m := m)) = anything := by
  rw [object_freeProperties]
  funext c v
  cases v <;> rfl

theorem all_nil : all [] = anything (m := m) := by
  funext c v
  simp [all, anything]

end Check

/-- What a group of keywords asks.  It reads the keys of the group only, and asks nothing where
there are none. -/
structure KeywordGroup (m : Type → Type) [Monad m] where
  keys : List String
  check : Members → Check m
  reads : ∀ {S S' : Members}, (∀ key ∈ keys, S.get? key = S'.get? key) → check S = check S'
  idle : check [] = .anything

namespace KeywordGroup

section
variable {m : Type → Type} [Monad m]

/-- A group of one keyword. -/
def one (key : String) (check : Option Json → Check m) (idle : check none = .anything) :
    KeywordGroup m where
  keys := [key]
  check S := check (S.get? key)
  reads h := by rw [h key (List.mem_singleton_self key)]
  idle := idle

/-- A group of two keywords. -/
def two (first second : String) (check : Option Json → Option Json → Check m)
    (idle : check none none = .anything) : KeywordGroup m where
  keys := [first, second]
  check S := check (S.get? first) (S.get? second)
  reads h := by rw [h first (by simp), h second (by simp)]
  idle := idle

variable [LawfulMonad m]

/-- The group of items. -/
def items (f : Members → Check m) : KeywordGroup m where
  keys := ["items", "additionalItems"]
  check S := .array ⟨none, none, false⟩ (Members.onItems ((S.schema? "items").map f)
    ((S.schemas? "items").map (·.map f))
    (S.rest "additionalItems" ((S.schema? "additionalItems").map f)))
  reads {S S'} h := by
    have hi : S.get? "items" = S'.get? "items" := h _ (by simp)
    have ha : S.get? "additionalItems" = S'.get? "additionalItems" := h _ (by simp)
    simp only [Members.schema?, Members.schemas?, Members.rest, hi, ha]
  idle := Check.array_free

/-- The group of properties. -/
def properties (f : Members → Check m) : KeywordGroup m where
  keys := ["properties", "patternProperties", "additionalProperties"]
  check S := .object ⟨none, none, none⟩ (S.onProperties
    ((S.named "properties").map fun (name, T) => (name, f T))
    ((S.named "patternProperties").map fun (name, T) => (name, f T))
    (S.rest "additionalProperties" ((S.schema? "additionalProperties").map f)))
  reads {S S'} h := by
    have hd : S.get? "properties" = S'.get? "properties" := h _ (by simp)
    have hp : S.get? "patternProperties" = S'.get? "patternProperties" := h _ (by simp)
    have ha : S.get? "additionalProperties" = S'.get? "additionalProperties" := h _ (by simp)
    simp only [Members.onProperties, Members.hasPropertyRules, Members.has, Members.named,
      Members.schema?, Members.rest, hd, hp, ha]
  idle := Check.object_free

variable [MonadExceptOf Fault m] (registry : Registry) (follow : Follow m)

/-- The groups in the order of evaluation, given how schema objects are interpreted. -/
def inOrder (f : Members → Check m) : List (KeywordGroup m) :=
  let schemas (key : String) (combine : List (Check m) → Check m) : KeywordGroup m :=
    .one key (fun v => ((v.bind (·.objects?)).map (·.map f)).elim .anything combine) rfl
  let onItems (key : String) (limits : Option Json → ItemLimits)
      (h : limits none = ⟨none, none, false⟩) : KeywordGroup m :=
    .one key (fun v => .array (limits v) Check.freeItems) (by rw [h, Check.array_free])
  let onProperties (key : String) (limits : Option Json → PropertyLimits)
      (h : limits none = ⟨none, none, none⟩) : KeywordGroup m :=
    .one key (fun v => .object (limits v) Check.freeProperties) (by rw [h, Check.object_free])
  [.one "$ref" (fun v => (v.bind (·.string?)).elim .anything follow) rfl,
    .one "type" (fun v => v.elim .anything .ofType) rfl,
    schemas "allOf" .all, schemas "anyOf" .any, schemas "oneOf" .one,
    .one "not" (fun v => ((v.bind (·.members?)).map f).elim .anything .negation) rfl,
    .one "enum" (fun v => (v.bind (·.items?)).elim .anything .enum) rfl,
    .one "maxLength" (fun v => .text ⟨v.bind (·.number?), none, none⟩) (Check.text_eq_anything rfl),
    .one "minLength" (fun v => .text ⟨none, v.bind (·.number?), none⟩) (Check.text_eq_anything rfl),
    .one "pattern" (fun v => .text ⟨none, none, (v.bind (·.string?)).map .ofSource⟩)
      (Check.text_eq_anything rfl),
    .one "multipleOf" (fun v => .number ⟨v.bind (·.number?), none, none, false, false⟩)
      (Check.number_eq_anything rfl),
    .two "minimum" "exclusiveMinimum"
      (fun v w => .number ⟨none, v.bind (·.number?), none, w.any (·.isTrue), false⟩)
      (Check.number_eq_anything rfl),
    .two "maximum" "exclusiveMaximum"
      (fun v w => .number ⟨none, none, v.bind (·.number?), false, w.any (·.isTrue)⟩)
      (Check.number_eq_anything rfl),
    onItems "minItems" (fun v => ⟨v.bind (·.number?), none, false⟩) rfl,
    onItems "maxItems" (fun v => ⟨none, v.bind (·.number?), false⟩) rfl,
    onItems "uniqueItems" (fun v => ⟨none, none, v.any (·.isTrue)⟩) rfl,
    .items f,
    onProperties "maxProperties" (fun v => ⟨v.bind (·.number?), none, none⟩) rfl,
    onProperties "minProperties" (fun v => ⟨none, v.bind (·.number?), none⟩) rfl,
    onProperties "required" (fun v => ⟨none, none, v.bind (·.strings?)⟩) rfl,
    .properties f,
    .one "dependencies" (fun v => .all (((v.bind (·.members?)).getD []).map fun (key, needs) =>
      Members.onDependency key needs (needs.members?.map f))) Check.all_nil,
    .one "format" (fun v => (v.bind (·.string?)).elim .anything (.format registry)) rfl]

theorem keys_inOrder (f : Members → Check m) :
    (inOrder registry follow f).map (·.keys) = keywordGroups :=
  rfl

end

end KeywordGroup

/-! ## Interpretation by groups -/

namespace Members

variable {m : Type → Type} [Monad m] [LawfulMonad m] [MonadExceptOf Fault m] (registry : Registry)
  (follow : Follow m)

/-- The groups with the interpretation of schema objects. -/
def groups : List (KeywordGroup m) :=
  KeywordGroup.inOrder registry follow (interpret registry follow)

/-- **A schema object asks what its groups of keywords ask, in order.** -/
theorem interpret_eq_groups (S : Members) : S.interpret registry follow =
    .all ((groups registry follow).map fun g => g.check S) := by
  have one := fun check => Check.amount_singleton (m := m) check
  rw [interpret_eq]
  refine (Check.all_flatten (.cons (one _) (.cons (one _) (.cons (one _) (.cons (one _)
    (.cons (one _) (.cons (one _) (.cons (one _) (.cons (Check.text_amount _)
    (.cons (Check.number_amount _) (.cons (Check.array_amount _ _)
    (.cons (Check.object_amount _ _) (.cons (one _)
    (.cons (one _) .nil)))))))))))))).symm.trans ?_
  rfl

/-- The members under some keys only. -/
def restrict (S : Members) (keys : List String) : Members :=
  S.filter fun member => keys.contains member.1

theorem get?_restrict (S : Members) (keys : List String) (key : String) :
    (S.restrict keys).get? key = if key ∈ keys then S.get? key else none := by
  unfold restrict get?
  induction S with
  | nil => simp
  | cons member S ih =>
    obtain ⟨k, v⟩ := member
    rw [List.filter_cons, List.lookup_cons]
    cases hbeq : key == k with
    | true =>
      rw [eq_of_beq hbeq] at ih ⊢
      by_cases hk : k ∈ keys
      · simp [hk]
      · simpa [hk] using ih
    | false =>
      by_cases hk : k ∈ keys
      · simpa [hk, List.lookup_cons, hbeq] using ih
      · simpa [hk] using ih

/-- No two groups share a key. -/
theorem disjoint_keywordGroups :
    keywordGroups.Pairwise fun group other => ∀ key ∈ other, key ∉ group := by
  decide

/-- **A schema object that is restricted to a group asks what the group asks.** -/
theorem interpret_restrict (S : Members) {g : KeywordGroup m} (hg : g ∈ groups registry follow) :
    (S.restrict g.keys).interpret registry follow = .all [g.check S] := by
  obtain ⟨before, after, hsplit⟩ := List.append_of_mem hg
  -- the group itself finds all its keys, and any other group finds none
  have hself : g.check (S.restrict g.keys) = g.check S := by
    refine g.reads fun key hkey => ?_
    rw [get?_restrict, if_pos hkey]
  have hother : ∀ g' : KeywordGroup m, (∀ key ∈ g'.keys, key ∉ g.keys) →
      g'.check (S.restrict g.keys) = .anything := by
    intro g' hdisjoint
    rw [← g'.idle]
    refine g'.reads fun key hkey => ?_
    rw [get?_restrict, if_neg (hdisjoint key hkey)]
    rfl
  have hkeys : ((groups registry follow).map (·.keys)).Pairwise fun group other =>
      ∀ key ∈ other, key ∉ group := disjoint_keywordGroups
  rw [hsplit, List.map_append, List.map_cons, List.pairwise_append, List.pairwise_cons] at hkeys
  obtain ⟨-, ⟨hafter, -⟩, hbefore⟩ := hkeys
  rw [interpret_eq_groups, hsplit, List.map_append, List.map_cons, hself]
  refine Check.all_idle _ ?_ ?_
  · intro k hk
    obtain ⟨g', hg', rfl⟩ := List.mem_map.1 hk
    have hdisjoint := hbefore _ (List.mem_map_of_mem hg') _ List.mem_cons_self
    exact hother g' fun key hkey hself => hdisjoint key hself hkey
  · intro k hk
    obtain ⟨g', hg', rfl⟩ := List.mem_map.1 hk
    exact hother g' (hafter _ (List.mem_map_of_mem hg'))

/-- **A schema object asks what its restrictions to the groups ask, in order.** -/
theorem interpret_eq_restricted (S : Members) : S.interpret registry follow =
    .all (keywordGroups.map fun group => (S.restrict group).interpret registry follow) := by
  have hgroups : (keywordGroups.map fun group => (S.restrict group).interpret registry follow) =
      (groups registry follow).map fun g => Check.all [g.check S] := by
    rw [← KeywordGroup.keys_inOrder registry follow (interpret registry follow), List.map_map]
    exact List.map_congr_left fun g hg => S.interpret_restrict registry follow hg
  -- each check amounts to all of itself
  have hamounts : List.Forall₂ Check.Amount
      ((groups registry follow).map fun g => [g.check S])
      ((groups registry follow).map fun g => Check.all [g.check S]) := by
    rw [List.forall₂_map_left_iff, List.forall₂_map_right_iff, List.forall₂_same]
    exact fun g _ => Check.amount_all _
  have hflatten : ((groups registry follow).map fun g => [g.check S]).flatten =
      (groups registry follow).map fun g => g.check S := by
    rw [← List.flatMap_def, List.map_eq_flatMap]
  rw [hgroups, ← Check.all_flatten hamounts, hflatten, interpret_eq_groups]

end Members

end JsonSchema
