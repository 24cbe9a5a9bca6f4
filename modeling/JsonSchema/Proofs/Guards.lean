/-
  The guards on references do not change what a schema means.

  * `Program.quiet_enter`: following a reference goes without a stop if neither
    guard refuses it and its target goes without one.
  * `Program.Quiet.gives`: a run without a stop does what would be done
    without guards.
  * `Program.quiet_of_gives`: what has a result without guards runs without a
    stop.  A reference that comes back to itself would need itself with less
    fuel than the least that it can do with.
  * `Program.isCycle_of_mem_log`: with room for all frames, all stops are cycles.
  * `guards_keep_meaning`: both directions, for a schema that was built.
-/
import JsonSchema.Proofs.Frames
import JsonSchema.Proofs.Totality
import JsonSchema.Proofs.Trace
import JsonSchema.Proofs.Unguarded
import Mathlib.Data.Nat.Find

namespace JsonSchema

namespace Program

variable {p : Program} {limit remaining height fuel : ℕ} {rule : Rule} {reference : String}
  {c : Context} {v : Json} {r : Result}

/-! ## Quiet runs -/

/-- A rule has a result that comes without a stop. -/
def Quiet (p : Program) (limit remaining : ℕ) (rule : Rule) (c : Context) (v : Json)
    (r : Result) : Prop :=
  Observation.quiet.Gives (rule.check (p.enterTraced limit remaining) c v) r

theorem quiet_iff : p.Quiet limit remaining rule c v r ↔ (rule.plan c v).Yields
    (fun reference x => Observation.quiet.Gives (p.enterTraced limit remaining reference c v) x)
    (fun t x => p.Quiet limit remaining t.rule t.context t.value x) r :=
  Rule.gives_check .quiet

theorem not_quiet_zero :
    ¬Observation.quiet.Gives (p.enterTraced limit 0 reference c v) r := by
  by_cases hf : c.isFollowing reference = true
  · rw [enterTraced_following hf]
    rintro ⟨-, hlog⟩
    cases hlog
  · rw [enterTraced_zero hf]
    rintro ⟨-, hlog⟩
    cases hlog

/-- A reference is followed without a stop if it is not being followed and its target is
evaluated without one. -/
theorem quiet_enter : Observation.quiet.Gives (p.enterTraced limit (remaining + 1) reference c v) r ↔
    ¬c.isFollowing reference = true ∧ ∃ target, p.target? reference = some target ∧
      p.Quiet limit remaining target (c.follow reference) v r := by
  by_cases hf : c.isFollowing reference = true
  · rw [enterTraced_following hf]
    constructor
    · rintro ⟨-, hlog⟩
      cases hlog
    · rintro ⟨hn, -⟩
      exact absurd hf hn
  · rw [enterTraced_succ hf]
    cases p.target? reference with
    | none =>
      constructor
      · rintro ⟨houtcome, -⟩
        cases houtcome
      · rintro ⟨-, target, ht, -⟩
        cases ht
    | some target => simp [hf, Quiet]

/-- A rule does what it would do without guards if the references in it do. -/
theorem Quiet.gives_of_follows (h : p.Quiet limit remaining rule c v r)
    (hf : ∀ reference c v r,
      Observation.quiet.Gives (p.enterTraced limit remaining reference c v) r →
        p.Follows remaining reference c.bare v r) :
    p.Gives remaining rule c.bare v r := by
  induction rule using Rule.children_induction generalizing c v r with
  | step rule ih =>
    refine gives_bare_iff.2 ((quiet_iff.1 h).mono ?_ ?_)
    · intro reference _ x hx
      exact hf reference c v x hx
    · intro t ht x hx
      obtain ⟨hchild, -⟩ := Rule.tasks_spec ht
      exact ih t.rule hchild hx

/-- Every reference that is followed without a stop takes one unit of fuel. -/
theorem follows_of_quiet
    (h : Observation.quiet.Gives (p.enterTraced limit remaining reference c v) r) :
    p.Follows remaining reference c.bare v r := by
  induction remaining generalizing reference c v r with
  | zero => exact absurd h not_quiet_zero
  | succ remaining ih =>
    obtain ⟨-, target, ht, h⟩ := quiet_enter.1 h
    have hg := h.gives_of_follows fun _ _ _ _ => ih
    exact follows_succ.2 ⟨target, ht, hg⟩

/-- **A run without a stop does what would be done without guards.** -/
theorem Quiet.gives (h : p.Quiet limit remaining rule c v r) :
    p.Gives remaining rule c.bare v r :=
  h.gives_of_follows fun _ _ _ _ => follows_of_quiet

/-! ## Frames that cannot come back -/

/-- The references that are being followed from a place have no result there, with as little
fuel. -/
def Pending (p : Program) (fuel : ℕ) (c : Context) (v : Json) : Prop :=
  ∀ f ∈ c.active, f.path = c.path → ∀ r, ¬p.Follows fuel f.reference c.bare v r

theorem Pending.mono {fuel' : ℕ} (h : p.Pending fuel c v) (hle : fuel' ≤ fuel) :
    p.Pending fuel' c v := by
  intro f hf hp r hr
  exact h f hf hp r (hr.mono hle)

/-- Nothing is being followed from a place further down. -/
theorem Pending.push (hc : c.Framed p height v) (part : String) (w : Json) :
    p.Pending fuel (c.push part) w := by
  intro f hf hp
  have hle := (hc.above f hf).length_le
  rw [hp, Context.push, List.length_append, List.length_singleton] at hle
  omega

theorem Pending.near (h : p.Pending fuel c v) (hc : c.Framed p height v) {t : Task}
    (ht : t.Near c v) : p.Pending fuel t.context t.value := by
  obtain ⟨hc', hv⟩ | ⟨part, -, hc'⟩ := ht
  · rwa [hc', hv]
  · rw [hc']
    exact .push hc part _

/-- A reference with a result is not being followed from the place. -/
theorem Pending.not_following (h : p.Pending fuel c v)
    (hr : p.Follows fuel reference c.bare v r) : ¬c.isFollowing reference = true := by
  intro hf
  have hframe : c.frame reference ∈ c.active := Context.isFollowing_iff.1 hf
  exact h _ hframe rfl r hr

/-- With less fuel than it can do with, a reference may be followed. -/
theorem Pending.follow (h : p.Pending fuel c v)
    (hr : ∀ r, ¬p.Follows fuel reference c.bare v r) :
    p.Pending fuel (c.follow reference) v := by
  intro f hf hp
  rcases List.mem_append.1 hf with hf | hf
  · exact h f hf hp
  · rw [List.mem_singleton.1 hf]
    exact hr

/-- What a reference has a result with: the least fuel that it can do with is one more than its
target needs. -/
theorem exists_least (h : p.Follows fuel reference c v r) :
    ∃ least < fuel, ∃ target, p.target? reference = some target ∧ p.Gives least target c v r ∧
      ∀ r', ¬p.Follows least reference c v r' := by
  classical
  have hex : ∃ fuel r, p.Follows fuel reference c v r := ⟨fuel, r, h⟩
  obtain ⟨r', hr'⟩ := Nat.find_spec hex
  have hle : Nat.find hex ≤ fuel := Nat.find_min' hex ⟨r, h⟩
  cases hn : Nat.find hex with
  | zero => exact absurd (hn ▸ hr') not_follows_zero
  | succ least =>
    rw [hn] at hr' hle
    obtain rfl := hr'.unique h
    obtain ⟨target, ht, hg⟩ := follows_succ.1 hr'
    refine ⟨least, hle, target, ht, hg, ?_⟩
    intro r'' hr''
    have hlt : least < Nat.find hex := by omega
    exact Nat.find_min hex hlt ⟨r'', hr''⟩

/-- **What has a result without guards runs without a stop.** -/
theorem quiet_of_gives (hp : p.Closed) (hl : p.resolvable.length * (height + 1) ≤ limit)
    (hs : p.Supports rule) (hc : c.Framed p height v) (hr : c.active.length + remaining = limit)
    (hn : p.Pending fuel c v) (h : p.Gives fuel rule c.bare v r) :
    p.Quiet limit remaining rule c v r := by
  -- references take fuel, and all other steps go to a child of the rule
  induction fuel using Nat.strong_induction_on generalizing rule remaining c v r with
  | _ fuel ihf =>
    induction rule using Rule.children_induction generalizing c v r with
    | step rule ih =>
      refine quiet_iff.2 ((gives_bare_iff.1 h).mono ?_ ?_)
      · intro reference hplan x hx
        have hm := Rule.mentions_iff.2 (Or.inl (Rule.eq_reference_of_plan hplan))
        obtain ⟨hres, -⟩ := hs reference hm
        have hf := hn.not_following hx
        -- from here on the target runs with less fuel than its reference can do with
        obtain ⟨least, hlt, target, ht, hg, hleast⟩ := exists_least hx
        have hroom := hc.active_lt hf hres
        obtain ⟨remaining, rfl⟩ : ∃ k, remaining = k + 1 :=
          Nat.exists_eq_succ_of_ne_zero (by omega)
        refine quiet_enter.2 ⟨hf, target, ht, ?_⟩
        refine ihf least hlt (hp.target ht) (hc.follow hf hres) ?_ ?_ hg
        · rw [Context.follow, List.length_append, List.length_singleton]
          omega
        · exact (hn.mono hlt.le).follow hleast
      · intro t ht x hx
        obtain ⟨hchild, hnear⟩ := Rule.tasks_spec ht
        refine ih t.rule hchild (hs.child hchild) (hc.near hnear) ?_ (hn.near hc hnear) hx
        rwa [hnear.active_eq]

/-! ## Stops -/

/-- **With room for all frames, all stops are cycles.** -/
theorem isCycle_of_mem_log (hp : p.Closed) (hl : p.resolvable.length * (height + 1) ≤ limit)
    (hs : p.Supports rule) (hc : c.Framed p height v) (hr : c.active.length + remaining = limit)
    {s : Stop} (h : s ∈ (rule.check (p.enterTraced limit remaining) c v).log) :
    s.isCycle = true := by
  induction remaining using Nat.strong_induction_on generalizing rule c v with
  | _ remaining ihr =>
    induction rule using Rule.children_induction generalizing c v with
    | step rule ih =>
      rcases Rule.mem_log_check h with ⟨reference, rfl, hlog⟩ | ⟨t, ht, hlog⟩
      · obtain ⟨hres, target, ht⟩ := hs reference (Rule.mentions_reference.2 rfl)
        by_cases hf : c.isFollowing reference = true
        · rw [enterTraced_following hf] at hlog
          rw [List.mem_singleton.1 hlog]
          rfl
        · have hroom := hc.active_lt hf hres
          obtain ⟨remaining, rfl⟩ : ∃ k, remaining = k + 1 :=
            Nat.exists_eq_succ_of_ne_zero (by omega)
          rw [enterTraced_succ hf, ht] at hlog
          refine ihr remaining (Nat.lt_succ_self _) (hp.target ht) (hc.follow hf hres) ?_ hlog
          rw [Context.follow, List.length_append, List.length_singleton]
          omega
      · obtain ⟨hchild, hnear⟩ := Rule.tasks_spec ht
        refine ih t.rule hchild (hs.child hchild) (hc.near hnear) ?_ hlog
        rwa [hnear.active_eq]

end Program

/-- **The guards do not change what a schema means**, if there is room for all frames.  Where a
value has a result without guards, that is the result, no guard refuses anything, and no error is
about following references.  Where it has none, the evaluation comes back to a reference at the
same place. -/
theorem guards_keep_meaning {D : Members} {options : Options} {s : Schema}
    (h : (Schema.build (.object D) options).schema = .ok s) {v : Json}
    (hl : s.program.resolvable.length * (v.depth + 1) ≤ s.depth) :
    (s.trace v).outcome = .ok (s.validate v) ∧
    (∀ r, s.program.Means s.program.root (.start s.verbose) v r →
      s.validate v = r ∧ (s.trace v).log = [] ∧ ∀ e ∈ r.errors, e.Guardless) ∧
    ((¬∃ r, s.program.Means s.program.root (.start s.verbose) v r) →
      ∃ stop ∈ (s.trace v).log, stop.isCycle = true) := by
  have hp := closed_of_build h
  have hc := Context.Framed.start s.program s.verbose v
  have ho : (s.trace v).outcome = .ok (s.validate v) := by
    rw [s.outcome_trace, validate?_eq h v]
  refine ⟨ho, ?_, ?_⟩
  · rintro r ⟨fuel, hg⟩
    have hq : s.program.Quiet s.depth s.depth s.program.root (.start s.verbose) v r :=
      Program.quiet_of_gives hp hl hp.root hc (Nat.zero_add _) (fun f hf => nomatch hf) hg
    refine ⟨?_, hq.2, Program.Means.guardless ⟨fuel, hg⟩⟩
    exact Except.ok.inj (ho.symm.trans hq.1)
  · -- without a cycle there would be no stop at all, and so a result without guards
    intro hn
    by_contra hcycle
    have hlog : (s.trace v).log = [] := by
      rw [List.eq_nil_iff_forall_not_mem]
      intro stop hs
      refine hcycle ⟨stop, hs, ?_⟩
      exact Program.isCycle_of_mem_log hp hl hp.root hc (Nat.zero_add _) hs
    have hq : s.program.Quiet s.depth s.depth s.program.root (.start s.verbose) v
        (s.validate v) := ⟨ho, hlog⟩
    exact hn ⟨s.validate v, s.depth, hq.gives⟩

theorem guards_keep_meaning_listValue :
    listSchema.program.resolvable.length * (listValue.depth + 1) ≤ listSchema.depth ∧
      ∃ r, listSchema.program.Means listSchema.program.root (.start false) listValue r ∧
        listSchema.validate listValue = r ∧ (listSchema.trace listValue).log = [] := by
  have hl : listSchema.program.resolvable.length * (listValue.depth + 1) ≤ listSchema.depth := by
    rw [listSchema_program]
    decide
  obtain ⟨r, hr⟩ : ∃ r, listSchema.program.Means listSchema.program.root (.start false)
      listValue r := by
    rw [listSchema_program]
    exact ⟨_, 4, rfl⟩
  obtain ⟨hv, hlog, -⟩ := (guards_keep_meaning build_listSchema hl).2.1 r hr
  exact ⟨hl, r, hr, hv, hlog⟩

end JsonSchema
