/-
  Verdicts and errors agree.

  * `Result.WellFormed`: a result is valid if and only if it has no errors.
  * `Result.merge_append_eq_merge`, `Result.errors_merge`: merging may be done
    piece by piece, and keeps all errors of well-formed results.
  * `ValidationError.Accounted`: an error stands for itself, or for a
    combinator whose branches gave it its causes.
  * `Program.Evaluates.sound`: what the nodes of a program give is well-formed,
    and at a verbose place its errors are accounted for.
  * `results_wellFormed`: all of it, for the rules that a document compiles to.
-/
import JsonSchema.Proofs.Compilation
import JsonSchema.Proofs.Errors
import JsonSchema.Proofs.Refinement
import JsonSchema.Proofs.Totality

namespace JsonSchema

/-! ## Results -/

/-- Valid if and only if there are no errors. -/
def Result.WellFormed (r : Result) : Prop := r.valid = true ↔ r.errors = []

namespace Result

variable {rs : List Result}

theorem wellFormed_success : success.WellFormed := by simp [WellFormed, success]

theorem wellFormed_failure {errors : List ValidationError} (h : errors ≠ []) :
    (failure errors).WellFormed := by
  simp [WellFormed, failure, h]

theorem WellFormed.errors_ne_nil {r : Result} (h : r.WellFormed) (hr : r.valid = false) :
    r.errors ≠ [] := by
  intro he
  rw [h.2 he] at hr
  cases hr

theorem merge_valid_iff : (merge rs).valid = true ↔ ∀ r ∈ rs, r.valid = true := by
  simp [merge]

/-- **Merging loses no error of well-formed results.** -/
theorem errors_merge (h : ∀ r ∈ rs, r.WellFormed) : (merge rs).errors = rs.flatMap (·.errors) := by
  induction rs with
  | nil => rfl
  | cons r rs ih =>
    have hrs := ih fun x hx => h x (List.mem_cons_of_mem _ hx)
    have hr := h r List.mem_cons_self
    simp only [merge, List.flatMap_cons] at hrs ⊢
    cases hvalid : r.valid with
    | true => rw [List.filter_cons_of_neg (by simp [hvalid]), hrs, hr.1 hvalid, List.nil_append]
    | false => rw [List.filter_cons_of_pos (by simp [hvalid]), List.flatMap_cons, hrs]

theorem WellFormed.merge (h : ∀ r ∈ rs, r.WellFormed) : (Result.merge rs).WellFormed := by
  rw [WellFormed, merge_valid_iff, errors_merge h, List.flatMap_eq_nil_iff]
  exact forall₂_congr fun r hr => h r hr

/-- Merging may be done piece by piece. -/
theorem merge_append_eq_merge (xs ys : List Result) :
    merge (xs ++ ys) = merge [merge xs, merge ys] := by
  calc merge (xs ++ ys) = (merge xs).join (merge ys) := merge_append xs ys
    _ = (merge [merge xs]).join (merge [merge ys]) := by rw [merge_merge, merge_merge]
    _ = merge ([merge xs] ++ [merge ys]) := (merge_append _ _).symm

end Result

theorem Context.wellFormed_check (c : Context) (v : Json) (violations : List Violation) :
    (c.check v violations).WellFormed := by
  cases violations <;> simp [Context.check, Result.WellFormed]

/-- Branches that fail have causes to show. -/
theorem Context.causes_eq_nil_iff {c : Context} (hc : c.verbose = true) {failed : List Result}
    (h : ∀ r ∈ failed, r.WellFormed) (hfailed : ∀ r ∈ failed, r.valid = false) :
    c.causes failed = [] ↔ failed = [] := by
  rw [Context.causes, if_pos hc, List.flatMap_eq_nil_iff]
  constructor
  · intro hnil
    refine List.eq_nil_iff_forall_not_mem.2 fun r hr => ?_
    exact (h r hr).errors_ne_nil (hfailed r hr) (hnil r hr)
  · rintro rfl r ⟨⟩

/-! ## Errors -/

/-- The evaluation of a rule of a program ends with a result. -/
def Program.Evaluates (p : Program) (limit : ℕ) (rule : Rule) (c : Context) (v : Json)
    (r : Result) : Prop :=
  p.evaluate limit rule c v = (.ok r : Except Fault Result)

/-- An error is accounted for: it is no combinator's and has no causes; or it is what a node of the
program gives, which has causes unless there is no branch that could have failed, and these are
accounted for in turn. -/
inductive ValidationError.Accounted (p : Program) (limit : ℕ) : ValidationError → Prop
  | own {e : ValidationError} : e.violation.isCombinator = false → e.causes = [] →
      Accounted p limit e
  | anyOf {branches : List Rule} {c : Context} {v : Json} {e : ValidationError} :
      p.Node (.anyOf branches) → p.Evaluates limit (.anyOf branches) c v (.failure [e]) →
      e.violation = .anyOf → (e.causes = [] ↔ branches = []) →
      (∀ cause ∈ e.causes, Accounted p limit cause) → Accounted p limit e
  | oneOf {branches : List Rule} {c : Context} {v : Json} {e : ValidationError} {passing : ℕ} :
      p.Node (.oneOf branches) → p.Evaluates limit (.oneOf branches) c v (.failure [e]) →
      e.violation = .oneOf passing →
      (e.causes = [] ↔ ∀ branch ∈ branches, ∃ x, p.Evaluates limit branch c v x ∧
        x.valid = true) →
      (∀ cause ∈ e.causes, Accounted p limit cause) → Accounted p limit e

namespace Program

variable {p : Program} {limit : ℕ} {rule : Rule} {branches : List Rule} {reference : String}
  {c : Context} {v : Json} {r : Result}

/-- A result is well-formed, and at a verbose place its errors are accounted for. -/
structure Sound (p : Program) (limit : ℕ) (c : Context) (v : Json) (r : Result) : Prop where
  wellFormed : r.WellFormed
  accounted : c.verbose = true → ∀ e ∈ r.errors, e.Accounted p limit

theorem Sound.check {violations : List Violation}
    (h : ∀ violation ∈ violations, violation.isCombinator = false) :
    p.Sound limit c v (c.check v violations) where
  wellFormed := c.wellFormed_check v violations
  accounted _ e he := by
    obtain ⟨violation, hv, rfl⟩ := List.mem_map.1 he
    exact .own (h violation hv) rfl

theorem Sound.fail {violation : Violation} (h : violation.isCombinator = false) :
    p.Sound limit c v (c.fail v violation) :=
  .check fun _ hv => List.mem_singleton.1 hv ▸ h

/-- Soundness is kept by what rules do. -/
theorem compositional_sound (p : Program) (limit : ℕ) : Compositional (p.Sound limit) where
  check h := .check fun violation hv => (Violation.isOwn_iff.1 (h violation hv)).1
  merge h := by
    refine ⟨.merge fun r hr => (h r hr).wellFormed, fun hc e he => ?_⟩
    obtain ⟨r, hr, he⟩ := List.mem_flatMap.1 he
    exact (h r (List.mem_filter.1 hr).1).accounted hc e he
  part _ h := ⟨h.wellFormed, h.accounted⟩

theorem Sound.causes {failed : List Result} (h : ∀ r ∈ failed, p.Sound limit c v r)
    (hc : c.verbose = true) : ∀ cause ∈ c.causes failed, cause.Accounted p limit := by
  intro cause hcause
  rw [Context.causes, if_pos hc] at hcause
  obtain ⟨r, hr, hcause⟩ := List.mem_flatMap.1 hcause
  exact (h r hr).accounted hc cause hcause

/-! ## Evaluation -/

/-- Evaluating a rule of a program is carrying out its plan. -/
theorem Evaluates.yields (h : p.Evaluates limit rule c v r) : (rule.plan c v).Yields
    (fun reference x => p.enter limit (limit - c.active.length) reference c v =
      (.ok x : Except Fault Result))
    (fun t => p.Evaluates limit t.rule t.context t.value) r := by
  refine ((Rule.gives_check .plain).1 h).mono (fun _ _ _ hx => hx) ?_
  intro t ht x hx
  rw [Evaluates, evaluate, (Rule.tasks_spec ht).2.active_eq]
  exact hx

/-- The results of tasks at the same place are those of their rules. -/
theorem evaluates_of_tasksAt {results : List Result}
    (h : List.Forall₂ (fun t => p.Evaluates limit t.rule t.context t.value) (tasksAt c v branches)
      results) :
    List.Forall₂ (fun branch => p.Evaluates limit branch c v) branches results :=
  List.forall₂_map_left_iff.1 h

/-- The error of a choice has causes if there are branches. -/
theorem Evaluates.sound_anyOf (hnode : p.Node (.anyOf branches))
    (h : p.Evaluates limit (.anyOf branches) c v r)
    (hbranches : ∀ branch ∈ branches, ∀ x, p.Evaluates limit branch c v x →
      p.Sound limit c v x) :
    p.Sound limit c v r := by
  rcases MeetsFirst.cases_failed h.yields with rfl | ⟨failed, hf, hfailed, rfl⟩
  · exact (p.compositional_sound limit).success
  have hf := evaluates_of_tasksAt hf
  have hsound : ∀ x ∈ failed, p.Sound limit c v x := by
    intro x hx
    obtain ⟨branch, hb, hx⟩ := exists_of_mem_forall₂ hf hx
    exact hbranches branch hb x hx
  refine ⟨Result.wellFormed_failure (List.cons_ne_nil _ _), fun hc e he => ?_⟩
  obtain rfl := List.mem_singleton.1 he
  refine .anyOf hnode h rfl ?_ (Sound.causes hsound hc)
  calc c.causes failed = [] ↔ failed = [] :=
        Context.causes_eq_nil_iff hc (fun x hx => (hsound x hx).wellFormed) hfailed
    _ ↔ branches = [] := by
        rw [← List.length_eq_zero_iff, ← hf.length_eq, List.length_eq_zero_iff]

/-- All results are valid if and only if all branches are met. -/
theorem all_valid_iff {results : List Result}
    (h : List.Forall₂ (fun branch => p.Evaluates limit branch c v) branches results) :
    (∀ x ∈ results, x.valid = true) ↔
      ∀ branch ∈ branches, ∃ x, p.Evaluates limit branch c v x ∧ x.valid = true := by
  constructor
  · intro hvalid branch hb
    obtain ⟨x, hx, hbranch⟩ := exists_of_mem_forall₂ h.flip hb
    exact ⟨x, hbranch, hvalid x hx⟩
  · intro hmet x hx
    obtain ⟨branch, hb, hbranch⟩ := exists_of_mem_forall₂ h hx
    obtain ⟨x', hx', hvalid⟩ := hmet branch hb
    cases hbranch.symm.trans hx'
    exact hvalid

/-- The error of an exclusive choice has no causes if and only if all branches are met. -/
theorem Evaluates.sound_oneOf (hnode : p.Node (.oneOf branches))
    (h : p.Evaluates limit (.oneOf branches) c v r)
    (hbranches : ∀ branch ∈ branches, ∀ x, p.Evaluates limit branch c v x →
      p.Sound limit c v x) :
    p.Sound limit c v r := by
  obtain ⟨results, hr, hexact⟩ := h.yields
  have hr := evaluates_of_tasksAt hr
  have hsound : ∀ x ∈ results, p.Sound limit c v x := by
    intro x hx
    obtain ⟨branch, hb, hx⟩ := exists_of_mem_forall₂ hr hx
    exact hbranches branch hb x hx
  unfold exactlyOne at hexact
  dsimp only at hexact
  split_ifs at hexact with hpassing
  · rw [← hexact]
    exact (p.compositional_sound limit).success
  subst hexact
  have hfailed : ∀ x ∈ results.filter (!·.valid), p.Sound limit c v x :=
    fun x hx => hsound x (List.mem_filter.1 hx).1
  refine ⟨Result.wellFormed_failure (List.cons_ne_nil _ _), fun hc e he => ?_⟩
  obtain rfl := List.mem_singleton.1 he
  refine .oneOf hnode h rfl ?_ (Sound.causes hfailed hc)
  calc c.causes (results.filter (!·.valid)) = [] ↔ results.filter (!·.valid) = [] :=
        Context.causes_eq_nil_iff hc (fun x hx => (hfailed x hx).wellFormed) (by simp)
    _ ↔ ∀ x ∈ results, x.valid = true := by simp
    _ ↔ _ := all_valid_iff hr

/-- Rules give sound results if references do. -/
theorem Evaluates.sound_of_references
    (hf : ∀ reference c' v' x, c'.active = c.active →
      p.enter limit (limit - c'.active.length) reference c' v' = (.ok x : Except Fault Result) →
      p.Sound limit c' v' x)
    (hnode : p.Node rule) (h : p.Evaluates limit rule c v r) : p.Sound limit c v r := by
  induction rule using Rule.children_induction generalizing c v r with
  | step rule ih =>
    have htasks : ∀ t ∈ (rule.plan c v).tasks, ∀ x,
        p.Evaluates limit t.rule t.context t.value x → p.Sound limit t.context t.value x := by
      intro t ht x hx
      obtain ⟨hchild, hnear⟩ := Rule.tasks_spec ht
      refine ih t.rule hchild ?_ (hnode.child hchild) hx
      rw [hnear.active_eq]
      exact hf
    refine (p.compositional_sound limit).of_yields h.yields ?_ htasks ?_
    · intro reference x _ hx
      exact hf reference c v x rfl hx
    · rintro branches (rfl | rfl)
      · refine h.sound_anyOf hnode fun branch hb x hx => ?_
        exact ih branch hb hf (hnode.child hb) hx
      · refine h.sound_oneOf hnode fun branch hb x hx => ?_
        exact ih branch hb hf (hnode.child hb) hx

/-- Following a reference gives a sound result. -/
theorem enter_sound {remaining : ℕ} (hr : remaining = limit - c.active.length)
    (h : p.enter limit remaining reference c v = (.ok r : Except Fault Result)) :
    p.Sound limit c v r := by
  induction remaining generalizing reference c v r with
  | zero =>
    by_cases hf : c.isFollowing reference = true
    · rw [enter_following hf] at h
      cases h
      exact .fail rfl
    · rw [enter_zero hf] at h
      cases h
      exact .fail rfl
  | succ remaining ih =>
    by_cases hf : c.isFollowing reference = true
    · rw [enter_following hf] at h
      cases h
      exact .fail rfl
    · cases ht : p.target? reference with
      | none =>
        rw [enter_dangling hf ht] at h
        cases h
      | some target =>
        rw [enter_succ hf ht] at h
        -- one reference more is followed, and one less may be
        have hremaining : remaining = limit - (c.follow reference).active.length := by
          rw [Context.follow, List.length_append, List.length_singleton]
          omega
        have heval : p.Evaluates limit target (c.follow reference) v r := by
          rw [Evaluates, evaluate, ← hremaining]
          exact h
        have hs := heval.sound_of_references (fun reference' c' v' x hc hx => by
          rw [hc, ← hremaining] at hx
          exact ih (by rw [hc, hremaining]) hx) (.target ht)
        exact ⟨hs.wellFormed, hs.accounted⟩

/-- **What the nodes of a program give is sound.** -/
theorem Evaluates.sound (h : p.Evaluates limit rule c v r) (hnode : p.Node rule) :
    p.Sound limit c v r :=
  h.sound_of_references (fun _ _ _ _ _ => enter_sound rfl) hnode

end Program

/-- **Results are well-formed, and merging them loses nothing.**  For a program that a document
compiles to, all nodes give every value at every place a result, which is valid if and only if it
has no errors; at a verbose place all its errors are accounted for.  Results of which this is so can
be merged piece by piece; the errors are those of all of them in order. -/
theorem results_wellFormed {s : Session} {D : Members} {p : Program}
    (h : (s.compile D).result = .ok p) :
    (∀ rule, p.Node rule → ∀ limit c v, ∃ r, p.Evaluates limit rule c v r ∧
      (r.valid = true ↔ r.errors = []) ∧
      (c.verbose = true → ∀ e ∈ r.errors, e.Accounted p limit)) ∧
    ∀ xs ys : List Result, (∀ r ∈ xs ++ ys, r.valid = true ↔ r.errors = []) →
      Result.merge (xs ++ ys) = .merge [.merge xs, .merge ys] ∧
      (Result.merge (xs ++ ys)).errors = (xs ++ ys).flatMap (·.errors) ∧
      ((Result.merge (xs ++ ys)).valid = true ↔ ∀ r ∈ xs ++ ys, r.valid = true) := by
  obtain ⟨hf, rfl⟩ := Session.compile_eq_ok_iff.1 h
  have hclosed : (D.program s.registry).Closed := (D.table_complete s.registry hf).program_closed
  constructor
  · intro rule hnode limit c v
    obtain ⟨r, hr⟩ : ∃ r, (D.program s.registry).Evaluates limit rule c v r :=
      Program.evaluate_total hclosed (hclosed.supports hnode) c v
    have hsound := hr.sound hnode
    exact ⟨r, hr, hsound.wellFormed, hsound.accounted⟩
  · intro xs ys hwf
    exact ⟨Result.merge_append_eq_merge xs ys, Result.errors_merge hwf, Result.merge_valid_iff⟩

theorem results_wellFormed_listDocument :
    ((Session.start .builtIn).compile listDocument).result = .ok listSchema.program ∧
      ∃ r, listSchema.program.Evaluates 64 listSchema.program.root (.start true) listValue r ∧
        r.errors ≠ [] ∧ (∀ e ∈ r.errors, e.Accounted listSchema.program 64) ∧
        (Result.merge ([r] ++ [r])).errors = r.errors ++ r.errors := by
  obtain ⟨hnodes, hmerge⟩ := results_wellFormed compile_listDocument
  obtain ⟨r, hr, hwf, haccounted⟩ := hnodes _ .root 64 (.start true) listValue
  refine ⟨compile_listDocument, r, hr, ?_, haccounted rfl, ?_⟩
  · have hinvalid : ∃ x, listSchema.program.Evaluates 64 listSchema.program.root (.start true)
        listValue x ∧ x.valid = false := by
      rw [listSchema_program]
      exact ⟨_, rfl, rfl⟩
    obtain ⟨x, hx, hvalid⟩ := hinvalid
    cases hr.symm.trans hx
    exact Result.WellFormed.errors_ne_nil hwf hvalid
  · have herrors := (hmerge [r] [r] (by simpa using hwf)).2.1
    simpa using herrors

end JsonSchema
