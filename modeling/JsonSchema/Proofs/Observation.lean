/-
  What an evaluation gives.

  * `Observation`: what it means for the computations of a monad to give a
    value.  The same evaluator is run plainly, with a bound on references that
    are not guarded, and with a trace; each run has its observations.
  * `Plan.Yields`: how a plan comes by its result, given what following a
    reference and carrying out a task come to.
  * `Rule.gives_check`: under any observation a rule gives what its plan yields.
  * `Plan.Yields.mono`, `Plan.exists_yields`: a plan yields the same if what its
    tasks give is given elsewhere too, and it yields something if they do.
-/
import JsonSchema.Proofs.Plan
import Mathlib.Data.List.Forall2

namespace JsonSchema

/-! ## Observations -/

/-- What it means for a computation to give a value. -/
structure Observation (m : Type → Type) [Monad m] where
  Gives : {α : Type} → m α → α → Prop
  gives_pure : ∀ {α : Type} {a b : α}, Gives (pure a) b ↔ a = b
  gives_bind : ∀ {α β : Type} {x : m α} {f : α → m β} {b : β},
    Gives (x >>= f) b ↔ ∃ a, Gives x a ∧ Gives (f a) b

namespace Observation

variable {m : Type → Type} [Monad m] [LawfulMonad m] (O : Observation m)

theorem gives_map {α β : Type} {x : m α} {f : α → β} {b : β} :
    O.Gives (f <$> x) b ↔ ∃ a, O.Gives x a ∧ f a = b := by
  simp only [map_eq_pure_bind, O.gives_bind, O.gives_pure]

theorem gives_mapM {α β : Type} {f : α → m β} {l : List α} {bs : List β} :
    O.Gives (l.mapM f) bs ↔ List.Forall₂ (fun a b => O.Gives (f a) b) l bs := by
  induction l generalizing bs with
  | nil =>
    rw [List.mapM_nil, O.gives_pure, List.forall₂_nil_left_iff]
    exact eq_comm
  | cons a l ih =>
    simp only [List.mapM_cons, O.gives_bind, O.gives_pure, ih, List.forall₂_cons_left_iff]
    constructor
    · rintro ⟨b, hb, bs', hbs, rfl⟩
      exact ⟨b, bs', hb, hbs, rfl⟩
    · rintro ⟨b, bs', hb, hbs, rfl⟩
      exact ⟨b, hb, bs', hbs, rfl⟩

end Observation

/-! ## Yields -/

theorem forall₂_imp_mem {α β : Type} {R S : α → β → Prop} {l : List α} {bs : List β}
    (h : List.Forall₂ R l bs) (hRS : ∀ a ∈ l, ∀ b, R a b → S a b) : List.Forall₂ S l bs := by
  induction h with
  | nil => exact .nil
  | cons hab _ ih =>
    refine .cons (hRS _ List.mem_cons_self _ hab) (ih ?_)
    intro a ha
    exact hRS a (List.mem_cons_of_mem _ ha)

theorem exists_of_mem_forall₂ {α β : Type} {R : α → β → Prop} {l : List α} {bs : List β}
    (h : List.Forall₂ R l bs) {b : β} (hb : b ∈ bs) : ∃ a ∈ l, R a b := by
  induction h with
  | nil => cases hb
  | cons hab _ ih =>
    rcases List.mem_cons.1 hb with rfl | hb
    · exact ⟨_, List.mem_cons_self, hab⟩
    · obtain ⟨a, ha, hr⟩ := ih hb
      exact ⟨a, List.mem_cons_of_mem _ ha, hr⟩

theorem exists_forall₂ {α β : Type} {R : α → β → Prop} {l : List α} (h : ∀ a ∈ l, ∃ b, R a b) :
    ∃ bs, List.Forall₂ R l bs := by
  induction l with
  | nil => exact ⟨[], .nil⟩
  | cons a l ih =>
    obtain ⟨b, hb⟩ := h a List.mem_cons_self
    obtain ⟨bs, hbs⟩ := ih fun a' ha' => h a' (List.mem_cons_of_mem _ ha')
    exact ⟨b :: bs, .cons hb hbs⟩

/-- How tasks come by success, or by what is concluded from the failure of all. -/
def MeetsFirst (Runs : Task → Result → Prop) : List Task → (List Result → Result) → Result → Prop
  | [], conclude, r => conclude [] = r
  | t :: tasks, conclude, r =>
    ∃ x, Runs t x ∧ if x.valid then .success = r
      else MeetsFirst Runs tasks (fun failed => conclude (x :: failed)) r

/-- How a plan comes by its result, given what following a reference and carrying out a task
come to. -/
def Plan.Yields (Follows : String → Result → Prop) (Runs : Task → Result → Prop) :
    Plan → Result → Prop
  | done result, r => result = r
  | .follow reference, r => Follows reference r
  | all tasks conclude, r => ∃ results, List.Forall₂ Runs tasks results ∧ conclude results = r
  | any tasks conclude, r => MeetsFirst Runs tasks conclude r

variable {Q Q' : Task → Result → Prop}

namespace MeetsFirst

theorem mono {tasks : List Task} {conclude : List Result → Result} {r : Result}
    (h : MeetsFirst Q tasks conclude r) (hQ : ∀ t ∈ tasks, ∀ x, Q t x → Q' t x) :
    MeetsFirst Q' tasks conclude r := by
  induction tasks generalizing conclude with
  | nil => exact h
  | cons t tasks ih =>
    obtain ⟨x, hx, h⟩ := h
    refine ⟨x, hQ t List.mem_cons_self x hx, ?_⟩
    split_ifs at h ⊢
    · exact h
    · refine ih h ?_
      intro t' ht'
      exact hQ t' (List.mem_cons_of_mem _ ht')

/-- Either some task is met, or the results of all are there to conclude from, and none is valid. -/
theorem cases_failed {tasks : List Task} {conclude : List Result → Result} {r : Result}
    (h : MeetsFirst Q tasks conclude r) :
    r = .success ∨ ∃ failed, List.Forall₂ Q tasks failed ∧ (∀ x ∈ failed, x.valid = false) ∧
      conclude failed = r := by
  induction tasks generalizing conclude with
  | nil => exact Or.inr ⟨[], .nil, by simp, h⟩
  | cons t tasks ih =>
    obtain ⟨x, hx, h⟩ := h
    split_ifs at h with hvalid
    · exact Or.inl h.symm
    · rcases ih h with h | ⟨failed, hf, hfailed, h⟩
      · exact Or.inl h
      · have hinvalid : x.valid = false := by simpa using hvalid
        exact Or.inr ⟨x :: failed, .cons hx hf, List.forall_mem_cons.2 ⟨hinvalid, hfailed⟩, h⟩

/-- Either some task is met, or the results of all are there to conclude from. -/
theorem cases_all {tasks : List Task} {conclude : List Result → Result} {r : Result}
    (h : MeetsFirst Q tasks conclude r) :
    r = .success ∨ ∃ failed, List.Forall₂ Q tasks failed ∧ conclude failed = r := by
  rcases h.cases_failed with h | ⟨failed, hf, -, h⟩
  · exact Or.inl h
  · exact Or.inr ⟨failed, hf, h⟩

theorem exists_of_forall {tasks : List Task} (hQ : ∀ t ∈ tasks, ∃ x, Q t x)
    (conclude : List Result → Result) : ∃ r, MeetsFirst Q tasks conclude r := by
  induction tasks generalizing conclude with
  | nil => exact ⟨_, rfl⟩
  | cons t tasks ih =>
    obtain ⟨x, hx⟩ := hQ t List.mem_cons_self
    obtain ⟨r, hr⟩ := ih (fun t' ht' => hQ t' (List.mem_cons_of_mem _ ht'))
      fun failed => conclude (x :: failed)
    by_cases hv : x.valid = true
    · exact ⟨.success, x, hx, by rw [if_pos hv]⟩
    · exact ⟨r, x, hx, by rwa [if_neg hv]⟩

end MeetsFirst

namespace Plan

variable {F F' : String → Result → Prop} {p : Plan} {r : Result}

/-- A plan yields the same if what its references and tasks come to is what they come to
elsewhere. -/
theorem Yields.mono (h : p.Yields F Q r) (hF : ∀ reference, p = .follow reference →
    ∀ x, F reference x → F' reference x) (hQ : ∀ t ∈ p.tasks, ∀ x, Q t x → Q' t x) :
    p.Yields F' Q' r := by
  cases p with
  | done => exact h
  | follow reference => exact hF reference rfl r h
  | all tasks conclude =>
    obtain ⟨results, hr, h⟩ := h
    exact ⟨results, forall₂_imp_mem hr hQ, h⟩
  | any tasks conclude => exact MeetsFirst.mono h hQ

/-- A plan yields something if its references and tasks come to something. -/
theorem exists_yields (hF : ∀ reference, p = .follow reference → ∃ x, F reference x)
    (hQ : ∀ t ∈ p.tasks, ∃ x, Q t x) : ∃ r, p.Yields F Q r := by
  cases p with
  | done result => exact ⟨result, rfl⟩
  | follow reference => exact hF reference rfl
  | all tasks conclude =>
    obtain ⟨results, h⟩ := exists_forall₂ hQ
    exact ⟨_, results, h, rfl⟩
  | any tasks conclude => exact MeetsFirst.exists_of_forall hQ conclude

end Plan

/-! ## Rules -/

section
variable {m : Type → Type} [Monad m] (O : Observation m)

theorem gives_firstMet {run : Task → m Result} {tasks : List Task}
    {conclude : List Result → Result} {failed : List Result} {r : Result} :
    O.Gives (firstMet conclude (tasks.map run) failed) r ↔
      MeetsFirst (fun t x => O.Gives (run t) x) tasks (fun xs => conclude (failed.reverse ++ xs)) r := by
  induction tasks generalizing failed with
  | nil => simp [firstMet, O.gives_pure, MeetsFirst]
  | cons t tasks ih =>
    rw [List.map_cons, firstMet, O.gives_bind, MeetsFirst]
    refine exists_congr fun x => and_congr_right fun _ => ?_
    split_ifs
    · exact O.gives_pure
    · simp [ih]

variable [LawfulMonad m] [MonadExceptOf Fault m]

/-- **A rule gives what its plan yields.** -/
theorem Rule.gives_check {follow : Follow m} {rule : Rule} {c : Context} {v : Json} {r : Result} :
    O.Gives (rule.check follow c v) r ↔
      (rule.plan c v).Yields (fun reference x => O.Gives (follow reference c v) x)
        (fun t x => O.Gives (t.run follow) x) r := by
  rw [Rule.check_eq]
  cases rule.plan c v with
  | done result => exact O.gives_pure
  | follow reference => exact Iff.rfl
  | all tasks conclude => simp only [Plan.run, Plan.Yields, O.gives_map, O.gives_mapM]
  | any tasks conclude => simp only [Plan.run, Plan.Yields, gives_firstMet, List.reverse_nil,
      List.nil_append]

end

/-! ## The plain run -/

/-- A plain computation gives the value that it ends with. -/
def Observation.plain : Observation (Except Fault) where
  Gives x a := x = .ok a
  gives_pure := by simp [pure, Except.pure]
  gives_bind {α β x f b} := by cases x <;> simp [bind, Except.bind]

end JsonSchema
