/-
  Evaluation never fails.

  * `Rule.check_total`: a rule has a result if the references in it have.
  * `Program.enter_total`: following a reference of a closed program has a
    result, however many more may be followed.
  * `validation_total`: validation by a schema that was built.

  This is about the faults that an evaluator can have by itself.  The stack on
  which the calls are made is taken as unbounded, and a search for a regular
  expression as one that always ends with an answer.
-/
import JsonSchema.Proofs.Observation
import JsonSchema.Proofs.Table

namespace JsonSchema

/-- A rule has a result if the references in it have. -/
theorem Rule.check_total {follow : Follow (Except Fault)} {rule : Rule}
    (hf : ∀ r, rule.Mentions r → ∀ c v, ∃ x, follow r c v = .ok x) (c : Context) (v : Json) :
    ∃ x, rule.check follow c v = .ok x := by
  induction rule using Rule.children_induction generalizing c v with
  | step rule ih =>
    obtain ⟨x, hx⟩ : ∃ x, (rule.plan c v).Yields
        (fun reference x => follow reference c v = .ok x) (fun t x => t.run follow = .ok x) x := by
      apply Plan.exists_yields
      · intro reference hp
        have hm := Rule.mentions_iff.2 (Or.inl (Rule.eq_reference_of_plan hp))
        exact hf reference hm c v
      · intro t ht
        obtain ⟨hchild, -⟩ := Rule.tasks_spec ht
        refine ih t.rule hchild ?_ t.context t.value
        intro r hm
        exact hf r (Rule.mentions_of_child hchild hm)
    exact ⟨x, (Rule.gives_check .plain).2 hx⟩

namespace Program

variable {p : Program} {limit : ℕ}

/-- Following a reference has a result: a cycle and the depth limit are results as well. -/
theorem enter_total (hp : p.Closed) (remaining : ℕ) {reference : String} {target : Rule}
    (ht : p.target? reference = some target) (c : Context) (v : Json) :
    ∃ x, p.enter limit remaining reference c v = (.ok x : Except Fault Result) := by
  induction remaining generalizing reference target c v with
  | zero =>
    by_cases hf : c.isFollowing reference = true
    · exact ⟨_, enter_following hf⟩
    · exact ⟨_, enter_zero hf⟩
  | succ remaining ih =>
    by_cases hf : c.isFollowing reference = true
    · exact ⟨_, enter_following hf⟩
    · rw [enter_succ hf ht]
      refine Rule.check_total ?_ _ _
      intro r hr c v
      obtain ⟨-, target', ht'⟩ := hp.target ht r hr
      exact ih ht' c v

/-- Every rule that a closed program supports has a result at every place. -/
theorem evaluate_total (hp : p.Closed) {rule : Rule} (hr : p.Supports rule) (c : Context)
    (v : Json) : ∃ x, p.evaluate limit rule c v = (.ok x : Except Fault Result) := by
  refine Rule.check_total ?_ c v
  intro r hm c v
  obtain ⟨-, target, ht⟩ := hr r hm
  exact enter_total hp _ ht c v

end Program

/-- The program of a schema that was built is closed. -/
theorem closed_of_build {D : Members} {options : Options} {s : Schema}
    (h : (Schema.build (.object D) options).schema = .ok s) : s.program.Closed := by
  obtain ⟨registry, -, -, hf, rfl⟩ := build_eq_ok_iff.1 h
  exact (D.table_complete registry hf).program_closed

/-- What a schema says of a value is the result of its evaluation, which never fails. -/
theorem validate?_eq {D : Members} {options : Options} {s : Schema}
    (h : (Schema.build (.object D) options).schema = .ok s) (v : Json) :
    s.validate? v = .ok (s.validate v) := by
  have hp := closed_of_build h
  obtain ⟨x, hx⟩ : ∃ x, s.validate? v = .ok x := Program.evaluate_total hp hp.root _ _
  simp only [Schema.validate, hx]

/-- **Validation never fails.** -/
theorem validation_total {D : Members} {options : Options} {s : Schema}
    (h : (Schema.build (.object D) options).schema = .ok s) (v : Json) :
    ∃ r, s.validate? v = .ok r :=
  ⟨_, validate?_eq h v⟩

theorem validation_total_listValue :
    (Schema.build (.object listDocument) .default).schema = .ok listSchema ∧
      ∃ r, listSchema.validate? listValue = .ok r :=
  ⟨build_listSchema, validation_total build_listSchema listValue⟩

end JsonSchema
