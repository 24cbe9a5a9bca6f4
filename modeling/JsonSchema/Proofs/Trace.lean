/-
  Evaluation with a trace of what the guards refuse.

  * `Stop`: a reference that is not followed, and why.
  * `Traced`: a computation that keeps a log of its stops.
  * `Program.enterTraced`, `Schema.trace`: evaluation as it is, with a log.
  * `Rule.outcome_check`, `Program.outcome_enterTraced`: without the log it is
    the evaluation.
  * `Rule.mem_log_check`: stops are those of tasks and references.
  * `Observation.quiet`: what a computation gives without a stop.
-/
import JsonSchema.Proofs.Observation
import JsonSchema.Schema

namespace JsonSchema

/-! ## Logs -/

/-- A reference that is not followed at a place. -/
inductive Stop where
  /-- it is being followed from there -/
  | cycle (reference : String) (path : List String)
  /-- too many references are being followed -/
  | depth (reference : String) (path : List String)
deriving DecidableEq, Repr

/-- The reference came back to itself. -/
def Stop.isCycle : Stop → Bool
  | cycle .. => true
  | depth .. => false

/-- A computation with a log of its stops. -/
structure Traced (α : Type) where
  outcome : Except Fault α
  log : List Stop

namespace Traced

variable {α β : Type}

/-- One computation after another; a fault ends both. -/
protected def bind (x : Traced α) (f : α → Traced β) : Traced β :=
  match x.outcome with
  | .ok a => ⟨(f a).outcome, x.log ++ (f a).log⟩
  | .error fault => ⟨.error fault, x.log⟩

instance : Monad Traced where
  pure a := ⟨.ok a, []⟩
  bind := Traced.bind

instance : MonadExceptOf Fault Traced where
  throw fault := ⟨.error fault, []⟩
  tryCatch x handle := match x.outcome with
    | .ok _ => x
    | .error fault => ⟨(handle fault).outcome, x.log ++ (handle fault).log⟩

instance : LawfulMonad Traced := LawfulMonad.mk' Traced
  (by
    rintro α ⟨_ | a, log⟩
    · rfl
    · exact congrArg (Traced.mk _) (List.append_nil log))
  (fun _ _ => rfl)
  (by
    rintro α β γ ⟨_ | a, log⟩ f g
    · rfl
    · simp only [Bind.bind, Traced.bind]
      cases (f a).outcome with
      | error fault => rfl
      | ok b => simp only [List.append_assoc])

/-- A stop, and its result. -/
def stop (s : Stop) (r : α) : Traced α := ⟨.ok r, [s]⟩

@[simp] theorem outcome_pure (a : α) : (pure a : Traced α).outcome = .ok a := rfl

@[simp] theorem log_pure (a : α) : (pure a : Traced α).log = [] := rfl

@[simp] theorem outcome_bind (x : Traced α) (f : α → Traced β) :
    (x >>= f).outcome = x.outcome >>= fun a => (f a).outcome := by
  obtain ⟨_ | a, log⟩ := x <;> rfl

@[simp] theorem outcome_map (f : α → β) (x : Traced α) :
    (f <$> x).outcome = f <$> x.outcome := by
  obtain ⟨_ | a, log⟩ := x <;> rfl

theorem mem_log_bind {x : Traced α} {f : α → Traced β} {s : Stop} (h : s ∈ (x >>= f).log) :
    s ∈ x.log ∨ ∃ a, s ∈ (f a).log := by
  obtain ⟨_ | a, log⟩ := x
  · exact Or.inl h
  · rcases List.mem_append.1 h with h | h
    · exact Or.inl h
    · exact Or.inr ⟨a, h⟩

theorem mem_log_map {x : Traced α} {f : α → β} {s : Stop} (h : s ∈ (f <$> x).log) :
    s ∈ x.log := by
  rw [map_eq_pure_bind] at h
  rcases mem_log_bind h with h | ⟨a, h⟩
  · exact h
  · cases h

theorem outcome_mapM (f : α → Traced β) (l : List α) :
    (l.mapM f).outcome = l.mapM fun a => (f a).outcome := by
  induction l with
  | nil => rfl
  | cons a l ih => simp [ih]

theorem mem_log_mapM {f : α → Traced β} {l : List α} {s : Stop} (h : s ∈ (l.mapM f).log) :
    ∃ a ∈ l, s ∈ (f a).log := by
  induction l with
  | nil => cases h
  | cons a l ih =>
    rw [List.mapM_cons] at h
    rcases mem_log_bind h with h | ⟨b, h⟩
    · exact ⟨a, List.mem_cons_self, h⟩
    · rcases mem_log_bind h with h | ⟨bs, h⟩
      · obtain ⟨a', ha', h⟩ := ih h
        exact ⟨a', List.mem_cons_of_mem _ ha', h⟩
      · cases h

theorem outcome_firstMet (conclude : List Result → Result) (xs : List (Traced Result))
    (failed : List Result) :
    (firstMet conclude xs failed).outcome =
      firstMet conclude (xs.map (·.outcome)) failed := by
  induction xs generalizing failed with
  | nil => rfl
  | cons x xs ih =>
    simp only [firstMet, List.map_cons, outcome_bind]
    refine bind_congr fun r => ?_
    split_ifs
    · rfl
    · exact ih _

theorem mem_log_firstMet {conclude : List Result → Result} {xs : List (Traced Result)}
    {failed : List Result} {s : Stop} (h : s ∈ (firstMet conclude xs failed).log) :
    ∃ x ∈ xs, s ∈ x.log := by
  induction xs generalizing failed with
  | nil => cases h
  | cons x xs ih =>
    rcases mem_log_bind h with h | ⟨r, h⟩
    · exact ⟨x, List.mem_cons_self, h⟩
    · split_ifs at h
      · cases h
      · obtain ⟨y, hy, h⟩ := ih h
        exact ⟨y, List.mem_cons_of_mem _ hy, h⟩

end Traced

/-! ## Evaluation -/

/-- Follows a reference as an evaluation does, and logs where it stops. -/
def Program.enterTraced (p : Program) (limit : ℕ) : (remaining : ℕ) → Follow Traced
  | remaining, reference, c, v =>
    if c.isFollowing reference then
      .stop (.cycle reference c.path) (c.fail v (.referenceCycle reference))
    else match remaining with
      | 0 => .stop (.depth reference c.path) (c.fail v (.referenceDepth reference limit))
      | remaining + 1 => match p.target? reference with
        | some rule => rule.check (p.enterTraced limit remaining) (c.follow reference) v
        | none => throw (.danglingReference reference)

/-- The validation of a value, with a log. -/
def Schema.trace (s : Schema) (v : Json) : Traced Result :=
  s.program.root.check (s.program.enterTraced s.depth s.depth) (.start s.verbose) v

section
variable {follow : Follow Traced}

/-- Logs make no difference to a rule. -/
theorem Rule.outcome_check {plain : Follow (Except Fault)}
    (hf : ∀ r c v, (follow r c v).outcome = plain r c v) (rule : Rule) (c : Context) (v : Json) :
    (rule.check follow c v).outcome = rule.check plain c v := by
  induction rule using Rule.children_induction generalizing c v with
  | step rule ih =>
    have hrun : ∀ t ∈ (rule.plan c v).tasks, (t.run follow).outcome = t.run plain := by
      intro t ht
      obtain ⟨hchild, -⟩ := Rule.tasks_spec ht
      exact ih t.rule hchild t.context t.value
    rw [Rule.check_eq, Rule.check_eq]
    cases hp : rule.plan c v with
    | done result => rfl
    | follow reference => exact hf reference c v
    | all tasks conclude =>
      rw [hp] at hrun
      simp only [Plan.run, Traced.outcome_map, Traced.outcome_mapM]
      exact congrArg (conclude <$> ·) (mapM_congr_mem hrun)
    | any tasks conclude =>
      rw [hp] at hrun
      simp only [Plan.run, Traced.outcome_firstMet, List.map_map]
      exact congrArg (firstMet conclude · []) (List.map_congr_left hrun)

/-- The stops of a rule are those of its tasks and references. -/
theorem Rule.mem_log_check {rule : Rule} {c : Context} {v : Json} {s : Stop}
    (h : s ∈ (rule.check follow c v).log) :
    (∃ r, rule = .reference r ∧ s ∈ (follow r c v).log) ∨
      ∃ t ∈ (rule.plan c v).tasks, s ∈ (t.run follow).log := by
  rw [Rule.check_eq] at h
  cases hp : rule.plan c v with
  | done result =>
    rw [hp] at h
    cases h
  | follow reference =>
    rw [hp] at h
    exact Or.inl ⟨reference, Rule.eq_reference_of_plan hp, h⟩
  | all tasks conclude =>
    rw [hp] at h
    exact Or.inr (Traced.mem_log_mapM (Traced.mem_log_map h))
  | any tasks conclude =>
    rw [hp] at h
    obtain ⟨x, hx, h⟩ := Traced.mem_log_firstMet h
    obtain ⟨t, ht, rfl⟩ := List.mem_map.1 hx
    exact Or.inr ⟨t, ht, h⟩

end

namespace Program

variable {p : Program} {limit remaining : ℕ} {reference : String} {c : Context} {v : Json}

theorem enterTraced_following (h : c.isFollowing reference = true) :
    p.enterTraced limit remaining reference c v =
      .stop (.cycle reference c.path) (c.fail v (.referenceCycle reference)) := by
  cases remaining <;> rw [enterTraced, if_pos h]

theorem enterTraced_zero (h : ¬c.isFollowing reference = true) :
    p.enterTraced limit 0 reference c v =
      .stop (.depth reference c.path) (c.fail v (.referenceDepth reference limit)) := by
  rw [enterTraced, if_neg h]

theorem enterTraced_succ (h : ¬c.isFollowing reference = true) :
    p.enterTraced limit (remaining + 1) reference c v =
      match p.target? reference with
      | some rule => rule.check (p.enterTraced limit remaining) (c.follow reference) v
      | none => throw (.danglingReference reference) := by
  rw [enterTraced, if_neg h]

/-- **Without the log, a traced evaluation is the evaluation.** -/
theorem outcome_enterTraced (p : Program) (limit remaining : ℕ) (reference : String) (c : Context)
    (v : Json) :
    (p.enterTraced limit remaining reference c v).outcome =
      p.enter limit remaining reference c v := by
  induction remaining generalizing reference c v with
  | zero =>
    by_cases hf : c.isFollowing reference = true
    · rw [enterTraced_following hf, enter_following hf]
      rfl
    · rw [enterTraced_zero hf, enter_zero hf]
      rfl
  | succ remaining ih =>
    by_cases hf : c.isFollowing reference = true
    · rw [enterTraced_following hf, enter_following hf]
      rfl
    · rw [enterTraced_succ hf]
      cases ht : p.target? reference with
      | none =>
        rw [enter_dangling hf ht]
        rfl
      | some target =>
        rw [enter_succ hf ht]
        exact target.outcome_check ih _ _

end Program

theorem Schema.outcome_trace (s : Schema) (v : Json) : (s.trace v).outcome = s.validate? v :=
  s.program.root.outcome_check (s.program.outcome_enterTraced _ _) _ _

/-! ## Quiet runs -/

/-- A traced computation gives the value that it ends with, if there was no stop. -/
def Observation.quiet : Observation Traced where
  Gives x a := x.outcome = .ok a ∧ x.log = []
  gives_pure := by simp
  gives_bind {α β x f b} := by
    obtain ⟨_ | a, log⟩ := x
    · simp [Bind.bind, Traced.bind]
    · simp only [Bind.bind, Traced.bind, Except.ok.injEq, List.append_eq_nil_iff,
        exists_eq_left', and_assoc]
      exact and_left_comm

end JsonSchema
