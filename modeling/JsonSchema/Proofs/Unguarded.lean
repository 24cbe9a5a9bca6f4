/-
  Evaluation without guards.

  * `Program.unguarded`: follows a reference by evaluating its target, whatever
    else is being followed.  This may go on for ever, so `fuel` bounds how many
    references are followed inside each other.
  * `Program.Means`: the result that a rule has without guards, if it has one.
  * `Program.Gives.mono`, `Program.Means.unique`: more fuel gives the same, so
    there is no more than one result.
  * `Context.bare`, `Program.check_bare`: the references that are being followed
    have no part in such a result.
  * `Program.Means.guardless`: no error of such a result is about following
    references.
-/
import JsonSchema.Proofs.Errors
import JsonSchema.Proofs.Translation

namespace JsonSchema

/-! ## Fuel -/

/-- Computations that may run out of fuel, or end with a fault. -/
abbrev Fueled := ExceptT Fault Option

/-- A computation gives the value that it ends with, if the fuel lasts. -/
def Observation.fueled : Observation Fueled where
  Gives x a := x.run = some (.ok a)
  gives_pure := by simp [ExceptT.run_pure]
  gives_bind {α β x f b} := by
    rw [ExceptT.run_bind]
    cases x.run with
    | none => simp
    | some result => cases result <;> simp

theorem Observation.fueled_unique {α : Type} {x : Fueled α} {a b : α}
    (ha : Observation.fueled.Gives x a) (hb : Observation.fueled.Gives x b) : a = b := by
  have h : some (Except.ok a : Except Fault α) = some (.ok b) := ha.symm.trans hb
  cases h
  rfl

namespace Program

/-- Follows a reference without guards. -/
def unguarded (p : Program) : (fuel : ℕ) → Follow Fueled
  | 0, _, _, _ => .mk none
  | fuel + 1, reference, c, v => match p.target? reference with
    | some rule => rule.check (p.unguarded fuel) c v
    | none => throw (.danglingReference reference)

variable (p : Program)

/-- A rule has a result when references are followed without guards, `fuel` of them inside each
other. -/
def Gives (fuel : ℕ) (rule : Rule) (c : Context) (v : Json) (r : Result) : Prop :=
  Observation.fueled.Gives (rule.check (p.unguarded fuel) c v) r

/-- A reference has a result, likewise. -/
def Follows (fuel : ℕ) (reference : String) (c : Context) (v : Json) (r : Result) : Prop :=
  Observation.fueled.Gives (p.unguarded fuel reference c v) r

/-- **A rule has a result when references are followed without guards.** -/
def Means (rule : Rule) (c : Context) (v : Json) (r : Result) : Prop :=
  ∃ fuel, p.Gives fuel rule c v r

variable {p} {fuel : ℕ} {rule : Rule} {reference : String} {c : Context} {v : Json}
  {r r' : Result}

theorem gives_iff : p.Gives fuel rule c v r ↔ (rule.plan c v).Yields
    (fun reference x => p.Follows fuel reference c v x)
    (fun t x => p.Gives fuel t.rule t.context t.value x) r :=
  Rule.gives_check .fueled

theorem not_follows_zero : ¬p.Follows 0 reference c v r := nofun

theorem follows_succ : p.Follows (fuel + 1) reference c v r ↔
    ∃ target, p.target? reference = some target ∧ p.Gives fuel target c v r := by
  unfold Follows
  rw [unguarded]
  cases p.target? reference with
  | none => exact ⟨nofun, nofun⟩
  | some target => simp [Gives]

/-! ## More fuel -/

/-- A rule gives the same with other fuel if the references in it do. -/
theorem Gives.mono_of_follows {fuel' : ℕ}
    (hf : ∀ reference c v r, p.Follows fuel reference c v r → p.Follows fuel' reference c v r)
    (h : p.Gives fuel rule c v r) : p.Gives fuel' rule c v r := by
  induction rule using Rule.children_induction generalizing c v r with
  | step rule ih =>
    refine gives_iff.2 ((gives_iff.1 h).mono ?_ ?_)
    · intro reference _ x hx
      exact hf reference c v x hx
    · intro t ht x hx
      obtain ⟨hchild, -⟩ := Rule.tasks_spec ht
      exact ih t.rule hchild hx

theorem Follows.succ (h : p.Follows fuel reference c v r) :
    p.Follows (fuel + 1) reference c v r := by
  induction fuel generalizing reference c v r with
  | zero => exact absurd h not_follows_zero
  | succ fuel ih =>
    obtain ⟨target, ht, h⟩ := follows_succ.1 h
    have hg := h.mono_of_follows fun _ _ _ _ => ih
    exact follows_succ.2 ⟨target, ht, hg⟩

/-- More fuel gives the same. -/
theorem Follows.mono {fuel' : ℕ} (h : p.Follows fuel reference c v r) (hle : fuel ≤ fuel') :
    p.Follows fuel' reference c v r := by
  induction hle with
  | refl => exact h
  | step _ ih => exact ih.succ

theorem Gives.mono {fuel' : ℕ} (h : p.Gives fuel rule c v r) (hle : fuel ≤ fuel') :
    p.Gives fuel' rule c v r :=
  h.mono_of_follows fun _ _ _ _ h => h.mono hle

/-- There is at most one result without guards. -/
theorem Means.unique (h : p.Means rule c v r) (h' : p.Means rule c v r') : r = r' := by
  obtain ⟨fuel, h⟩ := h
  obtain ⟨fuel', h'⟩ := h'
  have h := h.mono (Nat.le_max_left fuel fuel')
  have h' := h'.mono (Nat.le_max_right fuel fuel')
  exact Observation.fueled_unique h h'

theorem Follows.unique {fuel' : ℕ} (h : p.Follows fuel reference c v r)
    (h' : p.Follows fuel' reference c v r') : r = r' := by
  have h := h.mono (Nat.le_max_left fuel fuel')
  have h' := h'.mono (Nat.le_max_right fuel fuel')
  exact Observation.fueled_unique h h'

end Program

/-! ## Frames -/

/-- A place without the references that are being followed. -/
def Context.bare (c : Context) : Context := { c with active := [] }

/-- Places without the references that are being followed.  Errors there are the same. -/
def unframed : Translation where
  place := Context.bare
  error := id
  place_push _ _ := rfl
  error_combinator c v violation rs := by
    rw [Result.mapErrors_id, List.map_id]
    rfl

namespace Program

variable {p : Program} {fuel : ℕ} {rule : Rule} {reference : String} {c : Context} {v : Json}
  {r : Result}

/-- **Without guards, the references that are being followed have no part in a result.** -/
theorem check_bare {follow : Follow Fueled}
    (hf : ∀ reference c v, follow reference c.bare v = follow reference c v) (rule : Rule)
    (c : Context) (v : Json) : rule.check follow c.bare v = rule.check follow c v := by
  have hid : ∀ x : Fueled Result, unframed.result <$> x = x := by
    intro x
    rw [show unframed.result = id from Result.mapErrors_id, id_map]
  have hfollow : ∀ reference c v,
      follow reference (unframed.place c) v = unframed.result <$> follow reference c v := by
    intro reference c v
    rw [hid]
    exact hf reference c v
  exact (rule.check_translate hfollow c v).trans (hid _)

theorem unguarded_bare : p.unguarded fuel reference c.bare v = p.unguarded fuel reference c v := by
  induction fuel generalizing reference c v with
  | zero => rfl
  | succ fuel ih =>
    rw [unguarded, unguarded]
    cases p.target? reference with
    | none => rfl
    | some target => exact check_bare (fun _ _ _ => ih) target c v

theorem follows_bare : p.Follows fuel reference c.bare v r ↔ p.Follows fuel reference c v r := by
  rw [Follows, unguarded_bare, Follows]

theorem gives_bare : p.Gives fuel rule c.bare v r ↔ p.Gives fuel rule c v r := by
  rw [Gives, check_bare fun _ _ _ => unguarded_bare, Gives]

/-- What a rule has without guards at a place does not depend on what is being followed there. -/
theorem gives_bare_iff : p.Gives fuel rule c.bare v r ↔ (rule.plan c v).Yields
      (fun reference x => p.Follows fuel reference c.bare v x)
      (fun t x => p.Gives fuel t.rule t.context.bare t.value x) r := by
  simp only [gives_bare, follows_bare]
  exact gives_iff

end Program

/-! ## Errors -/

/-- All violations behind an error satisfy a condition, those of its causes included. -/
inductive ValidationError.Everywhere (P : Violation → Prop) : ValidationError → Prop
  | mk {path : String} {value : Json} {violation : Violation} {causes : List ValidationError} :
      P violation → (∀ e ∈ causes, Everywhere P e) →
      Everywhere P (.mk path value violation causes)

/-- Nothing behind an error is about following references. -/
def ValidationError.Guardless (e : ValidationError) : Prop := e.Everywhere (·.isGuard = false)

theorem inherited_guardless : Inherited fun _ _ e => e.Guardless where
  own hv hc := .mk hv hc
  part _ h := h

namespace Program

variable {p : Program} {fuel : ℕ} {rule : Rule} {reference : String} {c : Context} {v : Json}
  {r : Result}

theorem Gives.guardless_of_follows
    (hf : ∀ reference c v r, p.Follows fuel reference c v r → ∀ e ∈ r.errors, e.Guardless)
    (h : p.Gives fuel rule c v r) : ∀ e ∈ r.errors, e.Guardless := by
  induction rule using Rule.children_induction generalizing c v r with
  | step rule ih =>
    refine inherited_guardless.of_yields (gives_iff.1 h) ?_ ?_
    · intro reference x _ hx
      exact hf reference c v x hx
    · intro t ht x hx
      obtain ⟨hchild, -⟩ := Rule.tasks_spec ht
      exact ih t.rule hchild hx

theorem Follows.guardless (h : p.Follows fuel reference c v r) :
    ∀ e ∈ r.errors, e.Guardless := by
  induction fuel generalizing reference c v r with
  | zero => exact absurd h not_follows_zero
  | succ fuel ih =>
    obtain ⟨target, -, h⟩ := follows_succ.1 h
    exact h.guardless_of_follows fun _ _ _ _ => ih

/-- **No error of an evaluation without guards is about following references.** -/
theorem Means.guardless (h : p.Means rule c v r) : ∀ e ∈ r.errors, e.Guardless := by
  obtain ⟨fuel, h⟩ := h
  exact h.guardless_of_follows fun _ _ _ _ => Follows.guardless

end Program

end JsonSchema
