/-
  Evaluations in other words.

  * `Translation`: another place for each place and another error for each
    error, such that errors at a place become errors at the other place.
  * `Translation.Guarded`: the other place is guarded as the place itself is.
  * `Rule.plan_translates`: the plan of a rule at the other place has the same
    tasks in other words, and concludes the same in other words.
  * `Rule.check_translate`, `Program.enter_translate`: what a rule, and following
    a reference, give at the other place is what they give at the place, in
    other words.
-/
import JsonSchema.Proofs.Plan

namespace JsonSchema

/-! ## Translations -/

theorem Context.causes_nil (c : Context) : c.causes [] = [] := by
  unfold causes
  split_ifs <;> rfl

/-- A result with its errors changed. -/
def Result.mapErrors (f : ValidationError → ValidationError) (r : Result) : Result :=
  ⟨r.valid, r.errors.map f⟩

@[simp] theorem Result.mapErrors_id : Result.mapErrors id = id := by
  funext r
  rw [mapErrors, List.map_id, id]

/-- Another place for each place and another error for each error.  A step down is a step down, and
the error of a combinator is its error at the other place, with the causes that are kept there. -/
structure Translation where
  place : Context → Context
  error : ValidationError → ValidationError
  place_push : ∀ c part, place (c.push part) = (place c).push part
  error_combinator : ∀ (c : Context) v violation rs,
    error (c.error v violation (c.causes rs)) =
      (place c).error v violation ((place c).causes (rs.map (Result.mapErrors error)))

namespace Translation

variable (T : Translation)

/-- The other words for a result. -/
def result : Result → Result := Result.mapErrors T.error

/-- The other words for a task. -/
def task (t : Task) : Task := { t with context := T.place t.context }

variable (c : Context) (v : Json)

@[simp] theorem valid_result (r : Result) : (T.result r).valid = r.valid := rfl

@[simp] theorem result_success : T.result .success = .success := rfl

theorem result_check (violations : List Violation) :
    T.result (c.check v violations) = (T.place c).check v violations := by
  have herror : ∀ violation, T.error (c.error v violation []) =
      (T.place c).error v violation [] := by
    intro violation
    simpa only [Context.causes_nil, List.map_nil] using T.error_combinator c v violation []
  simp only [result, Result.mapErrors, Context.check, List.map_map, Function.comp_def, herror]

theorem result_fail (violation : Violation) :
    T.result (c.fail v violation) = (T.place c).fail v violation :=
  T.result_check c v [violation]

theorem result_failWith (violation : Violation) (rs : List Result) :
    T.result (c.failWith v violation rs) =
      (T.place c).failWith v violation (rs.map T.result) := by
  simp only [result, Result.mapErrors, Context.failWith, Result.failure, List.map_cons,
    List.map_nil, T.error_combinator]

theorem filter_map_result (p : Bool → Bool) (rs : List Result) :
    (rs.map T.result).filter (fun r => p r.valid) =
      (rs.filter fun r => p r.valid).map T.result := by
  rw [List.filter_map]
  rfl

theorem result_merge (rs : List Result) :
    T.result (.merge rs) = .merge (rs.map T.result) := by
  have hvalid : (rs.map T.result).all (·.valid) = rs.all (·.valid) := by
    rw [List.all_map]
    rfl
  unfold Result.merge
  rw [hvalid, T.filter_map_result (!·), List.flatMap_map]
  simp only [result, Result.mapErrors, List.map_flatMap]

theorem result_exactlyOne (rs : List Result) :
    T.result (exactlyOne c v rs) = exactlyOne (T.place c) v (rs.map T.result) := by
  have hcount : (rs.map T.result).countP (·.valid) = rs.countP (·.valid) := by
    rw [List.countP_map]
    rfl
  unfold exactlyOne
  simp only [hcount, T.filter_map_result (!·)]
  split_ifs
  · rfl
  · exact T.result_failWith c v _ _

theorem result_refute (rs : List Result) :
    T.result (refute c v rs) = refute (T.place c) v (rs.map T.result) := by
  have hall : (rs.map T.result).all (·.valid) = rs.all (·.valid) := by
    rw [List.all_map]
    rfl
  unfold refute
  rw [hall]
  split_ifs
  · exact T.result_fail c v _
  · rfl

theorem result_onlyResult (rs : List Result) :
    T.result (onlyResult rs) = onlyResult (rs.map T.result) := by
  cases rs <;> rfl

end Translation

/-! ## Plans -/

section
variable (T : Translation) {c : Context} {v : Json}

theorem tasksAt_translate (rules : List Rule) :
    tasksAt (T.place c) v rules = (tasksAt c v rules).map T.task := by
  simp only [tasksAt, List.map_map]
  rfl

namespace Additional

theorem tasks_translate (beyond : Additional) (extras : List Extra) :
    beyond.tasks (T.place c) extras = (beyond.tasks c extras).map T.task := by
  cases beyond with
  | governed rule =>
    simp only [tasks, List.map_map, Function.comp_def, Translation.task, T.place_push]
  | _ => rfl

theorem refusals_translate (beyond : Additional) (extras : List Extra) :
    beyond.refusals (T.place c) extras = (beyond.refusals c extras).map T.result := by
  cases beyond with
  | forbidden =>
    simp only [refusals, List.map_map, Function.comp_def, T.result_fail, T.place_push]
  | _ => rfl

end Additional

namespace ItemRules

theorem tasks_translate (items : ItemRules) (values : List Json) :
    items.tasks (T.place c) values = (items.tasks c values).map T.task := by
  cases items with
  | unchecked => rfl
  | every rule =>
    simp only [tasks, List.map_map, Function.comp_def, Translation.task, T.place_push]
  | positional rules beyond =>
    simp only [tasks, List.map_append, List.map_map, Function.comp_def, Translation.task,
      T.place_push, beyond.tasks_translate T]

theorem refusals_translate (items : ItemRules) (values : List Json) :
    items.refusals (T.place c) values = (items.refusals c values).map T.result := by
  cases items with
  | positional rules beyond => exact beyond.refusals_translate T _
  | _ => rfl

end ItemRules

namespace PropertyRules

theorem declaredTasks_translate (declared : List (String × Rule)) (members : Members) :
    declaredTasks declared (T.place c) members = (declaredTasks declared c members).map T.task := by
  simp only [declaredTasks, List.map_flatMap, List.map_map, Function.comp_def, Translation.task,
    T.place_push]

theorem patternedTasks_translate (members : Members) (patterned : List (Pattern × Rule)) :
    patternedTasks (T.place c) members patterned =
      (patternedTasks c members patterned).map T.task := by
  induction patterned with
  | nil => rfl
  | cons entry patterned ih =>
    simp only [patternedTasks, ih]
    split_ifs
    · simp only [List.map_append, List.map_map, Function.comp_def, Translation.task, T.place_push]
    · rfl

theorem tasks_translate (properties : PropertyRules) (members : Members) :
    properties.tasks (T.place c) members = (properties.tasks c members).map T.task := by
  cases properties with
  | unchecked => rfl
  | checked declared patterned beyond =>
    simp only [tasks, List.map_append, declaredTasks_translate, patternedTasks_translate]
    congr 1
    cases malformed? patterned with
    | none => exact beyond.tasks_translate T _
    | some p => rfl

theorem conclude_translate (properties : PropertyRules) (members : Members) (rs : List Result) :
    properties.conclude (T.place c) members (rs.map T.result) =
      T.result (properties.conclude c members rs) := by
  cases properties with
  | unchecked => rfl
  | checked declared patterned beyond =>
    simp only [conclude]
    cases malformed? patterned with
    | none => simp only [T.result_merge, List.map_append, beyond.refusals_translate T]
    | some p => exact (T.result_fail c _ _).symm

end PropertyRules

/-- A plan says in other words what another one says: it has the other words for its result or for
its tasks, and concludes the other words for what that one concludes. -/
inductive Plan.Translates (T : Translation) : Plan → Plan → Prop
  | done (r : Result) : Translates T (.done r) (.done (T.result r))
  | follow (reference : String) : Translates T (.follow reference) (.follow reference)
  | all {tasks tasks' : List Task} {conclude conclude' : List Result → Result} :
      tasks' = tasks.map T.task →
      (∀ rs, conclude' (rs.map T.result) = T.result (conclude rs)) →
      Translates T (.all tasks conclude) (.all tasks' conclude')
  | any {tasks tasks' : List Task} {conclude conclude' : List Result → Result} :
      tasks' = tasks.map T.task →
      (∀ rs, conclude' (rs.map T.result) = T.result (conclude rs)) →
      Translates T (.any tasks conclude) (.any tasks' conclude')

theorem Plan.Translates.check (violations : List Violation) :
    Plan.Translates T (.done (c.check v violations)) (.done ((T.place c).check v violations)) := by
  rw [← T.result_check]
  exact .done _

theorem Plan.Translates.success : Plan.Translates T (.done .success) (.done .success) :=
  .done .success

/-- **The plan of a rule at the other place is its plan at the place, in other words.** -/
theorem Rule.plan_translates (rule : Rule) :
    Plan.Translates T (rule.plan c v) (rule.plan (T.place c) v) := by
  cases rule with
  | combined rules | allOf branches =>
    exact .all (tasksAt_translate T _) fun rs => (T.result_merge rs).symm
  | anyOf branches => exact .any (tasksAt_translate T _) fun rs => (T.result_failWith c v _ rs).symm
  | oneOf branches => exact .all (tasksAt_translate T _) fun rs => (T.result_exactlyOne c v rs).symm
  | not rule => exact .all rfl fun rs => (T.result_refute c v rs).symm
  | text limits =>
    cases v with
    | string s => exact .check T _
    | _ => exact .success T
  | number limits =>
    simp only [plan]
    cases v.number? with
    | none => exact .success T
    | some n => exact .check T _
  | array limits items =>
    cases v with
    | array values =>
      refine .all (items.tasks_translate T values) ?_
      intro rs
      simp only [T.result_merge, List.map_cons, List.map_append, T.result_check,
        items.refusals_translate T]
    | _ => exact .success T
  | object limits properties =>
    cases v with
    | object members =>
      refine .all (properties.tasks_translate T members) ?_
      intro rs
      simp only [T.result_merge, List.map_cons, List.map_nil, T.result_check,
        properties.conclude_translate T]
    | _ => exact .check T _
  | dependentRule key rule =>
    cases v with
    | object members =>
      simp only [plan]
      split_ifs
      · exact .all rfl fun rs => (T.result_onlyResult rs).symm
      · exact .success T
    | _ => exact .success T
  | dependentKeys key names =>
    cases v with
    | object members =>
      simp only [plan]
      split_ifs
      · exact .check T _
      · exact .success T
    | _ => exact .success T
  | reference reference => exact .follow reference
  | _ => exact .check T _

end

/-! ## Evaluations -/

section
variable {m : Type → Type} [Monad m] [LawfulMonad m] {T : Translation}

theorem mapM_translate {run run' : Task → m Result} {tasks : List Task}
    (h : ∀ t ∈ tasks, run' (T.task t) = T.result <$> run t) :
    (tasks.map T.task).mapM run' = List.map T.result <$> tasks.mapM run := by
  induction tasks with
  | nil => simp
  | cons t tasks ih =>
    have hrest := ih fun t' ht' => h t' (List.mem_cons_of_mem _ ht')
    simp only [List.map_cons, List.mapM_cons, h t List.mem_cons_self, hrest, map_eq_pure_bind,
      bind_assoc, pure_bind]

theorem firstMet_translate {run run' : Task → m Result} {tasks : List Task}
    (h : ∀ t ∈ tasks, run' (T.task t) = T.result <$> run t)
    {conclude conclude' : List Result → Result}
    (hc : ∀ rs, conclude' (rs.map T.result) = T.result (conclude rs)) (failed : List Result) :
    firstMet conclude' ((tasks.map T.task).map run') (failed.map T.result) =
      T.result <$> firstMet conclude (tasks.map run) failed := by
  induction tasks generalizing failed with
  | nil => simp [firstMet, ← List.map_reverse, hc]
  | cons t tasks ih =>
    have hrest := ih fun t' ht' => h t' (List.mem_cons_of_mem _ ht')
    simp only [List.map_cons, firstMet, h t List.mem_cons_self, bind_map_left, map_bind]
    refine bind_congr fun r => ?_
    cases hr : r.valid with
    | true => simp [hr]
    | false => simpa [hr] using hrest (r :: failed)

variable [MonadExceptOf Fault m]

/-- **What a rule gives at the other place is what it gives at the place, in other words**, if
the same is true of the references that it follows. -/
theorem Rule.check_translate {follow follow' : Follow m}
    (hf : ∀ r c v, follow' r (T.place c) v = T.result <$> follow r c v) (rule : Rule)
    (c : Context) (v : Json) :
    rule.check follow' (T.place c) v = T.result <$> rule.check follow c v := by
  induction rule using Rule.children_induction generalizing c v with
  | step rule ih =>
    have hrun : ∀ t ∈ (rule.plan c v).tasks,
        Task.run follow' (T.task t) = T.result <$> Task.run follow t := by
      intro t ht
      obtain ⟨hchild, -⟩ := Rule.tasks_spec ht
      exact ih t.rule hchild t.context t.value
    rw [Rule.check_eq, Rule.check_eq]
    have hplan := rule.plan_translates T (c := c) (v := v)
    generalize rule.plan c v = plan, rule.plan (T.place c) v = plan' at hrun hplan
    cases hplan with
    | done r => exact (map_pure _ _).symm
    | follow reference => exact hf reference c v
    | @all tasks tasks' conclude conclude' ht hc =>
      have hall : tasks'.mapM (Task.run follow') =
          List.map T.result <$> tasks.mapM (Task.run follow) := by
        rw [ht]
        exact mapM_translate hrun
      simp only [Plan.run, hall, Functor.map_map, hc]
    | any ht hc =>
      rw [ht]
      exact firstMet_translate hrun hc []

/-- The other place is guarded as the place itself is. -/
structure Translation.Guarded (T : Translation) : Prop where
  place_follow : ∀ c reference, T.place (c.follow reference) = (T.place c).follow reference
  isFollowing_place : ∀ c reference, (T.place c).isFollowing reference = c.isFollowing reference

/-- **Following a reference from the other place is following it, in other words.** -/
theorem Program.enter_translate (hT : T.Guarded) (p : Program) (limit remaining : ℕ)
    (hthrow : ∀ fault, T.result <$> (throw fault : m Result) = throw fault) (reference : String)
    (c : Context) (v : Json) :
    p.enter limit remaining reference (T.place c) v =
      (T.result <$> p.enter limit remaining reference c v : m Result) := by
  have hguard := hT.isFollowing_place c reference
  induction remaining generalizing reference c v with
  | zero =>
    by_cases hf : c.isFollowing reference = true
    · rw [enter_following hf, enter_following (hguard.trans hf), map_pure, T.result_fail]
    · rw [enter_zero hf, enter_zero (by rwa [hguard]), map_pure, T.result_fail]
  | succ remaining ih =>
    by_cases hf : c.isFollowing reference = true
    · rw [enter_following hf, enter_following (hguard.trans hf), map_pure, T.result_fail]
    · have hf' : ¬(T.place c).isFollowing reference = true := by rwa [hguard]
      cases ht : p.target? reference with
      | none => rw [enter_dangling hf ht, enter_dangling hf' ht, hthrow]
      | some target =>
        rw [enter_succ hf ht, enter_succ hf' ht, ← hT.place_follow]
        refine target.check_translate ?_ _ _
        intro r c v
        exact ih r c v (hT.isFollowing_place c r)

end

end JsonSchema
