/-
  Any two depth limits with room for all frames are the same.

  * `Rule.check_congr`: a rule does the same under two ways of following
    references that agree wherever the rule may come to follow one.
  * `Program.enterTraced_congr`: two numbers of references that may still be
    followed agree if both leave room for all frames.
  * `depth_limit_irrelevant`: evaluations under two such limits go through the
    same stops, none of which is about the limit, and have the same result.
-/
import JsonSchema.Proofs.Guards

namespace JsonSchema

/-! ## Two ways of following references -/

/-- A rule does the same under two ways of following references that agree wherever the rule may
come to follow one.  `Stands` is what is known of these places. -/
theorem Rule.check_congr {m : Type → Type} [Monad m] [LawfulMonad m] [MonadExceptOf Fault m]
    {follow follow' : Follow m} (Stands : Context → Json → Prop)
    (near : ∀ {c v}, Stands c v → ∀ {t}, Task.Near c v t → Stands t.context t.value) {rule : Rule}
    (hf : ∀ r, rule.Mentions r → ∀ c v, Stands c v → follow r c v = follow' r c v)
    {c : Context} {v : Json} (h : Stands c v) :
    rule.check follow c v = rule.check follow' c v := by
  induction rule using Rule.children_induction generalizing c v with
  | step rule ih =>
    have hrun : ∀ t ∈ (rule.plan c v).tasks, t.run follow = t.run follow' := by
      intro t ht
      obtain ⟨hchild, hnear⟩ := Rule.tasks_spec ht
      refine ih t.rule hchild ?_ (near h hnear)
      intro r hm
      exact hf r (Rule.mentions_of_child hchild hm)
    rw [Rule.check_eq, Rule.check_eq]
    cases hp : rule.plan c v with
    | done result => rfl
    | follow reference =>
      have hm := Rule.mentions_iff.2 (Or.inl (Rule.eq_reference_of_plan hp))
      exact hf reference hm c v h
    | all tasks conclude =>
      rw [hp] at hrun
      exact congrArg (conclude <$> ·) (mapM_congr_mem hrun)
    | any tasks conclude =>
      rw [hp] at hrun
      exact congrArg (firstMet conclude · []) (List.map_congr_left hrun)

/-! ## Two limits -/

/-- A framed place at which a given number of references is being followed. -/
def Context.FramedBy (p : Program) (height count : ℕ) (c : Context) (v : Json) : Prop :=
  c.Framed p height v ∧ c.active.length = count

theorem Context.FramedBy.near {p : Program} {height count : ℕ} {c : Context} {v : Json}
    (h : c.FramedBy p height count v) {t : Task} (ht : t.Near c v) :
    t.context.FramedBy p height count t.value := by
  obtain ⟨hframed, hactive⟩ := h
  refine ⟨hframed.near ht, ?_⟩
  rwa [ht.active_eq]

namespace Program

variable {p : Program} {limit limit' remaining remaining' height : ℕ} {reference : String}
  {target : Rule} {c : Context} {v : Json}

/-- Following a reference goes through the same under any two limits with room for all frames. -/
theorem enterTraced_congr (hp : p.Closed) (hl : p.resolvable.length * (height + 1) ≤ limit)
    (hl' : p.resolvable.length * (height + 1) ≤ limit') (hres : reference ∈ p.resolvable)
    (ht : p.target? reference = some target) (hc : c.Framed p height v)
    (hr : c.active.length + remaining = limit) (hr' : c.active.length + remaining' = limit') :
    p.enterTraced limit remaining reference c v =
      p.enterTraced limit' remaining' reference c v := by
  induction remaining generalizing remaining' reference target c v with
  | zero =>
    -- a reference that is refused for want of room would be a frame too many
    by_cases hf : c.isFollowing reference = true
    · rw [enterTraced_following hf, enterTraced_following hf]
    · have hroom := hc.active_lt hf hres
      omega
  | succ remaining ih =>
    by_cases hf : c.isFollowing reference = true
    · rw [enterTraced_following hf, enterTraced_following hf]
    · have hroom := hc.active_lt hf hres
      obtain ⟨remaining', rfl⟩ : ∃ k, remaining' = k + 1 :=
        Nat.exists_eq_succ_of_ne_zero (by omega)
      rw [enterTraced_succ hf, enterTraced_succ hf, ht]
      have hlength : (c.follow reference).active.length = c.active.length + 1 := by
        rw [Context.follow, List.length_append, List.length_singleton]
      refine Rule.check_congr (Context.FramedBy p height (c.active.length + 1))
        Context.FramedBy.near ?_ ⟨hc.follow hf hres, hlength⟩
      rintro r hm c' v' ⟨hframed, hactive⟩
      obtain ⟨hres', target', ht'⟩ := hp.target ht r hm
      refine ih hres' ht' hframed ?_ ?_
      · omega
      · omega

end Program

/-- The schema with another depth limit. -/
def Schema.withDepth (s : Schema) (depth : ℕ) : Schema := { s with depth := depth }

/-- The depth limit has no part in compiling. -/
theorem build_withDepth {D : Members} {options : Options} {s : Schema}
    (h : (Schema.build (.object D) options).schema = .ok s) {d : ℤ} (hd : 1 ≤ d) :
    (Schema.build (.object D) { options with maxReferenceDepth := d }).schema =
      .ok (s.withDepth d.toNat) := by
  obtain ⟨registry, hr, -, hf, rfl⟩ := build_eq_ok_iff.1 h
  exact build_eq_ok_iff.2 ⟨registry, hr, hd, hf, rfl⟩

/-- The document itself is one of the references that lead to a schema. -/
theorem resolvable_length_pos {D : Members} {options : Options} {s : Schema}
    (h : (Schema.build (.object D) options).schema = .ok s) : 0 < s.program.resolvable.length := by
  obtain ⟨registry, -, -, -, rfl⟩ := build_eq_ok_iff.1 h
  have hroot : rootReference ∈ (D.program registry).resolvable :=
    References.mem_resolvable List.mem_cons_self
  exact List.length_pos_of_mem hroot

/-- Two evaluations with room for all frames go through the same. -/
theorem Schema.trace_withDepth {s : Schema} (hp : s.program.Closed) {v : Json} {d d' : ℕ}
    (hl : s.program.resolvable.length * (v.depth + 1) ≤ d)
    (hl' : s.program.resolvable.length * (v.depth + 1) ≤ d') :
    (s.withDepth d).trace v = (s.withDepth d').trace v := by
  have hc := Context.Framed.start s.program s.verbose v
  refine Rule.check_congr (Context.FramedBy s.program v.depth 0) Context.FramedBy.near ?_ ⟨hc, rfl⟩
  rintro r hm c' v' ⟨hframed, hactive⟩
  obtain ⟨hres, target, ht⟩ := hp.root r hm
  refine Program.enterTraced_congr hp hl hl' hres ht hframed ?_ ?_
  · rw [hactive, Nat.zero_add]
  · rw [hactive, Nat.zero_add]

/-- **The depth limit does not matter once there is room for all frames.**  A schema can be built
with every such limit.  Under any two of them an evaluation meets the same stops, at whatever
depth and in whatever branch, none of which is about the limit, and it has the same result. -/
theorem depth_limit_irrelevant {D : Members} {options : Options} {s : Schema}
    (h : (Schema.build (.object D) options).schema = .ok s) {v : Json} {d d' : ℤ}
    (hd : (s.program.resolvable.length * (v.depth + 1) : ℕ) ≤ d)
    (hd' : (s.program.resolvable.length * (v.depth + 1) : ℕ) ≤ d') :
    ∃ t t', (Schema.build (.object D) { options with maxReferenceDepth := d }).schema = .ok t ∧
      (Schema.build (.object D) { options with maxReferenceDepth := d' }).schema = .ok t' ∧
      t.validate v = t'.validate v ∧ t.trace v = t'.trace v ∧
      (t.trace v).outcome = .ok (t.validate v) ∧
      ∀ stop ∈ (t.trace v).log, stop.isCycle = true := by
  have hpos : 0 < s.program.resolvable.length * (v.depth + 1) :=
    Nat.mul_pos (resolvable_length_pos h) (Nat.succ_pos _)
  have hb := build_withDepth h (d := d) (by omega)
  have hb' := build_withDepth h (d := d') (by omega)
  have hp := closed_of_build h
  have hl : s.program.resolvable.length * (v.depth + 1) ≤ d.toNat := by omega
  have hl' : s.program.resolvable.length * (v.depth + 1) ≤ d'.toNat := by omega
  have htrace := Schema.trace_withDepth hp hl hl'
  have houtcome : ((s.withDepth d.toNat).trace v).outcome =
      .ok ((s.withDepth d.toNat).validate v) := by
    rw [Schema.outcome_trace, validate?_eq hb v]
  have houtcome' : ((s.withDepth d'.toNat).trace v).outcome =
      .ok ((s.withDepth d'.toNat).validate v) := by
    rw [Schema.outcome_trace, validate?_eq hb' v]
  refine ⟨_, _, hb, hb', ?_, htrace, houtcome, ?_⟩
  · rw [htrace] at houtcome
    exact Except.ok.inj (houtcome.symm.trans houtcome')
  · intro stop hs
    have hc := Context.Framed.start s.program s.verbose v
    exact Program.isCycle_of_mem_log hp hl hp.root hc (Nat.zero_add _) hs

theorem depth_limit_irrelevant_listValue :
    ((listSchema.program.resolvable.length * (listValue.depth + 1) : ℕ) : ℤ) ≤ 3 ∧
      ∃ t t', (Schema.build (.object listDocument)
          { Options.default with maxReferenceDepth := 3 }).schema = .ok t ∧
        (Schema.build (.object listDocument)
          { Options.default with maxReferenceDepth := 64 }).schema = .ok t' ∧
        t.validate listValue = t'.validate listValue ∧
        ∀ stop ∈ (t.trace listValue).log, stop.isCycle = true := by
  have hl : listSchema.program.resolvable.length * (listValue.depth + 1) ≤ 3 := by
    rw [listSchema_program]
    decide
  have hd : ((listSchema.program.resolvable.length * (listValue.depth + 1) : ℕ) : ℤ) ≤ 3 := by omega
  obtain ⟨t, t', ht, ht', hv, -, -, hstops⟩ :=
    depth_limit_irrelevant build_listSchema hd (hd.trans (by decide : (3 : ℤ) ≤ 64))
  exact ⟨hd, t, t', ht, ht', hv, hstops⟩

end JsonSchema
