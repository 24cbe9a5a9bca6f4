/-
  A lower depth limit accepts no more, as long as nothing is negated.

  * `Program.NegationFree`: there is no `not` and no `oneOf` in a program.
  * `Result.Implies`: where one result is valid, so is another.
  * `Plan.Monotone`, `Rule.plan_monotone`: a rule that negates nothing cannot be
    lost by what its tasks gain.
  * `Program.enter_implies`: a reference that is followed with success under one
    limit is so under a higher one.  At the same place the same references are
    being followed, so cycles are the same.
  * `lower_limit_accepts_no_more`: the limit fails closed.
-/
import JsonSchema.Proofs.DepthLimit

namespace JsonSchema

/-! ## Negation -/

/-- A value may fail to meet the rule because it meets another one. -/
def Rule.isNegative : Rule → Bool
  | .not _ | .oneOf _ => true
  | _ => false

/-- There is no `not` and no `oneOf` anywhere in a program. -/
def Program.NegationFree (p : Program) : Prop :=
  ∀ rule, p.Node rule → rule.isNegative = false

/-- A program negates nothing if its rules are among some that hold all that is inside of them and
of which none is negative. -/
theorem Program.negationFree_of_children {p : Program} (nodes : List Rule) (hroot : p.root ∈ nodes)
    (htarget : ∀ e ∈ p.references, e.2 ∈ nodes)
    (hnodes : ∀ rule ∈ nodes, rule.isNegative = false ∧ ∀ r ∈ rule.children, r ∈ nodes) :
    p.NegationFree := by
  -- a reference need not be among them, but there is nothing inside of it
  have hmem : ∀ rule, p.Node rule → rule ∈ nodes ∨ ∃ r, rule = .reference r := by
    intro rule hrule
    induction hrule with
    | root => exact Or.inl hroot
    | target ht => exact Or.inl (htarget _ (mem_of_lookup ht))
    | @reference r => exact Or.inr ⟨r, rfl⟩
    | child _ hr ih =>
      obtain hmem | ⟨r, rfl⟩ := ih
      · exact Or.inl ((hnodes _ hmem).2 _ hr)
      · cases hr
  intro rule hrule
  obtain hmem | ⟨r, rfl⟩ := hmem rule hrule
  · exact (hnodes rule hmem).1
  · rfl

/-! ## Results that gain -/

/-- Where one result is valid, so is the other. -/
def Result.Implies (r r' : Result) : Prop := r.valid = true → r'.valid = true

namespace Result

theorem Implies.refl (r : Result) : r.Implies r := id

theorem Implies.same (rs : List Result) : List.Forall₂ Implies rs rs :=
  List.forall₂_same.2 fun r _ => .refl r

theorem merge_implies {rs rs' : List Result} (h : List.Forall₂ Implies rs rs') :
    (merge rs).Implies (merge rs') := by
  unfold Implies merge
  induction h with
  | nil => exact id
  | cons hr _ ih =>
    simp only [List.all_cons, Bool.and_eq_true]
    exact And.imp hr ih

theorem onlyResult_implies {rs rs' : List Result} (h : List.Forall₂ Implies rs rs') :
    (onlyResult rs).Implies (onlyResult rs') := by
  cases h with
  | nil => exact .refl _
  | cons hr _ => exact hr

end Result

/-! ## Plans that gain -/

/-- What follows from the results of tasks cannot be lost when they gain. -/
def Gains (conclude : List Result → Result) : Prop :=
  ∀ rs rs', List.Forall₂ Result.Implies rs rs' → (conclude rs).Implies (conclude rs')

/-- The result of a plan cannot be lost when those of its tasks gain. -/
inductive Plan.Monotone : Plan → Prop
  | done (r : Result) : Monotone (.done r)
  | follow (reference : String) : Monotone (.follow reference)
  | all {tasks : List Task} {conclude : List Result → Result} : Gains conclude →
      Monotone (.all tasks conclude)
  | any {tasks : List Task} {conclude : List Result → Result} : Gains conclude →
      Monotone (.any tasks conclude)

theorem PropertyRules.gains_conclude (properties : PropertyRules) (c : Context)
    (members : Members) : Gains (properties.conclude c members) := by
  intro rs rs' h
  cases properties with
  | unchecked => exact .refl _
  | checked declared patterned beyond =>
    simp only [conclude]
    cases malformed? patterned with
    | some p => exact .refl _
    | none => exact Result.merge_implies (List.rel_append h (Result.Implies.same _))

/-- **The plan of a rule that negates nothing is monotone.** -/
theorem Rule.plan_monotone {rule : Rule} (h : rule.isNegative = false) (c : Context) (v : Json) :
    (rule.plan c v).Monotone := by
  cases rule with
  | not rule | oneOf branches => cases h
  | combined rules | allOf branches => exact .all fun rs rs' => Result.merge_implies
  | anyOf branches => exact .any fun rs rs' _ => .refl _
  | text limits => cases v <;> exact .done _
  | number limits =>
    simp only [plan]
    cases v.number? <;> exact .done _
  | array limits items =>
    cases v with
    | array values =>
      refine .all fun rs rs' hrs => Result.merge_implies ?_
      exact .cons (.refl _) (List.rel_append hrs (Result.Implies.same _))
    | _ => exact .done _
  | object limits properties =>
    cases v with
    | object members =>
      refine .all fun rs rs' hrs => Result.merge_implies ?_
      exact .cons (.refl _) (.cons (properties.gains_conclude c members rs rs' hrs) .nil)
    | _ => exact .done _
  | dependentRule key rule =>
    cases v with
    | object members =>
      simp only [plan]
      split_ifs
      · exact .all fun rs rs' => Result.onlyResult_implies
      · exact .done _
    | _ => exact .done _
  | dependentKeys key names =>
    cases v with
    | object members =>
      simp only [plan]
      split_ifs <;> exact .done _
    | _ => exact .done _
  | reference r => exact .follow r
  | _ => exact .done _

section
variable {F F' : String → Result → Prop} {Q Q' : Task → Result → Prop} {r r' : Result}

/-- Success at the first task that is met is not lost when the tasks gain: one of them is met no
later. -/
theorem MeetsFirst.implies {tasks : List Task} {conclude conclude' : List Result → Result}
    (h : MeetsFirst Q tasks conclude r) (h' : MeetsFirst Q' tasks conclude' r')
    (hQ : ∀ t ∈ tasks, ∀ x x', Q t x → Q' t x' → x.Implies x')
    (hc : ∀ rs rs', List.Forall₂ Result.Implies rs rs' → (conclude rs).Implies (conclude' rs')) :
    r.Implies r' := by
  induction tasks generalizing conclude conclude' with
  | nil =>
    obtain rfl : conclude [] = r := h
    obtain rfl : conclude' [] = r' := h'
    exact hc [] [] .nil
  | cons t tasks ih =>
    obtain ⟨x, hx, h⟩ := h
    obtain ⟨x', hx', h'⟩ := h'
    have himplies : x.Implies x' := hQ t List.mem_cons_self x x' hx hx'
    by_cases hv' : x'.valid = true
    · rw [if_pos hv'] at h'
      rw [← h']
      exact fun _ => rfl
    · have hv : ¬x.valid = true := fun hv => hv' (himplies hv)
      rw [if_neg hv] at h
      rw [if_neg hv'] at h'
      refine ih h h' (fun t' ht' => hQ t' (List.mem_cons_of_mem _ ht')) ?_
      intro rs rs' hrs
      exact hc _ _ (.cons himplies hrs)

/-- **The result of a monotone plan is not lost when its references and tasks gain.** -/
theorem Plan.Yields.implies {plan : Plan} (hm : plan.Monotone) (h : plan.Yields F Q r)
    (h' : plan.Yields F' Q' r')
    (hF : ∀ reference, plan = .follow reference → ∀ x x', F reference x → F' reference x' →
      x.Implies x')
    (hQ : ∀ t ∈ plan.tasks, ∀ x x', Q t x → Q' t x' → x.Implies x') : r.Implies r' := by
  cases hm with
  | done result =>
    obtain rfl : result = r := h
    obtain rfl : result = r' := h'
    exact .refl _
  | follow reference => exact hF reference rfl r r' h h'
  | @all tasks conclude hc =>
    obtain ⟨rs, hrs, rfl⟩ := h
    obtain ⟨rs', hrs', rfl⟩ := h'
    refine hc rs rs' (List.forall₂_iff_get.2 ⟨hrs.length_eq.symm.trans hrs'.length_eq, ?_⟩)
    intro i hi hi'
    have hit : i < tasks.length := by rwa [hrs.length_eq]
    exact hQ _ (List.getElem_mem hit) _ _ (hrs.get hit hi) (hrs'.get hit hi')
  | any hc => exact MeetsFirst.implies h h' hQ hc

end

/-! ## Evaluations -/

namespace Program

variable {p : Program} {limit limit' remaining remaining' : ℕ} {rule : Rule} {reference : String}
  {c : Context} {v : Json} {x x' : Result}

/-- What a rule of a program without negation accepts under one way of following references it
accepts under another one by which no success is lost. -/
theorem check_implies {follow follow' : Follow (Except Fault)}
    (hf : ∀ reference c v x x', follow reference c v = .ok x → follow' reference c v = .ok x' →
      x.Implies x') (hp : p.NegationFree) (hrule : p.Node rule)
    (h : rule.check follow c v = .ok x) (h' : rule.check follow' c v = .ok x') :
    x.Implies x' := by
  induction rule using Rule.children_induction generalizing c v x x' with
  | step rule ih =>
    refine Plan.Yields.implies (rule.plan_monotone (hp rule hrule) c v)
      ((Rule.gives_check .plain).1 h) ((Rule.gives_check .plain).1 h') ?_ ?_
    · intro reference _ x x' hx hx'
      exact hf reference c v x x' hx hx'
    · intro t ht x x' hx hx'
      obtain ⟨hchild, -⟩ := Rule.tasks_spec ht
      exact ih t.rule hchild (hrule.child hchild) hx hx'

/-- **What is followed with success is so if more references may be followed.** -/
theorem enter_implies (hp : p.NegationFree) (hle : remaining ≤ remaining')
    (h : p.enter limit remaining reference c v = (.ok x : Except Fault Result))
    (h' : p.enter limit' remaining' reference c v = (.ok x' : Except Fault Result)) :
    x.Implies x' := by
  induction remaining generalizing remaining' reference c v x x' with
  | zero =>
    -- either guard refuses the reference under the lower limit
    by_cases hf : c.isFollowing reference = true
    · rw [enter_following hf] at h
      cases h
      exact fun hv => nomatch hv
    · rw [enter_zero hf] at h
      cases h
      exact fun hv => nomatch hv
  | succ remaining ih =>
    by_cases hf : c.isFollowing reference = true
    · rw [enter_following hf] at h
      cases h
      exact fun hv => nomatch hv
    · obtain ⟨remaining', rfl⟩ : ∃ k, remaining' = k + 1 :=
        Nat.exists_eq_succ_of_ne_zero (by omega)
      cases ht : p.target? reference with
      | none =>
        rw [enter_dangling hf ht] at h
        cases h
      | some target =>
        rw [enter_succ hf ht] at h h'
        refine check_implies ?_ hp (.target ht) h h'
        intro r c v x x' hx hx'
        exact ih (Nat.le_of_succ_le_succ hle) hx hx'

theorem evaluate_implies (hp : p.NegationFree) (hrule : p.Node rule) (hle : limit ≤ limit')
    (h : p.evaluate limit rule c v = (.ok x : Except Fault Result))
    (h' : p.evaluate limit' rule c v = (.ok x' : Except Fault Result)) : x.Implies x' := by
  refine check_implies ?_ hp hrule h h'
  intro r c' v' y y' hy hy'
  exact enter_implies hp (Nat.sub_le_sub_right hle _) hy hy'

end Program

/-- **A lower depth limit accepts no more**, if nothing is negated anywhere in the program of a
document: with each of two limits a schema can be built, and what the one with the lower limit
accepts is accepted by the one with the higher limit. -/
theorem lower_limit_accepts_no_more {D : Members} {options : Options} {s : Schema}
    (h : (Schema.build (.object D) options).schema = .ok s) (hn : s.program.NegationFree)
    {d d' : ℤ} (hd : 1 ≤ d) (hdd' : d ≤ d') (v : Json) :
    ∃ t t', (Schema.build (.object D) { options with maxReferenceDepth := d }).schema = .ok t ∧
      (Schema.build (.object D) { options with maxReferenceDepth := d' }).schema = .ok t' ∧
      ((t.validate v).valid = true → (t'.validate v).valid = true) := by
  have hb := build_withDepth h hd
  have hb' := build_withDepth h (hd.trans hdd')
  have hle : d.toNat ≤ d'.toNat := Int.toNat_le_toNat hdd'
  exact ⟨_, _, hb, hb',
    Program.evaluate_implies hn .root hle (validate?_eq hb v) (validate?_eq hb' v)⟩

/-- A list of three texts. -/
def threeTexts : Json :=
  .object [("text", .string "a"), ("next/~", .object [("text", .string "b"),
    ("next/~", .object [("text", .string "c"), ("next/~", .null)])])]

theorem negationFree_listSchema : listSchema.program.NegationFree := by
  let words : Rule := .combined [.type "string"]
  let branches : List Rule := [.combined [.type "null"], .combined [.reference rootReference],
    .combined [.invalid (.remoteReference "list.json")]]
  let lists : Rule := .object ⟨none, none, none⟩
    (.checked [("text", words), ("next/~", .combined [.anyOf branches])] [] .allowed)
  have hprogram : listSchema.program = ⟨.combined [lists], [(rootReference, .combined [lists]),
      ("list.json", .invalid (.remoteReference "list.json"))]⟩ := by
    rw [listSchema_program]
    rfl
  rw [hprogram]
  refine Program.negationFree_of_children ([.combined [lists], lists, words, .type "string",
    .combined [.anyOf branches], .anyOf branches, .type "null", .reference rootReference,
    .invalid (.remoteReference "list.json")] ++ branches) ?_ ?_ ?_
  · simp
  · simp
  · simp [lists, words, branches, Rule.children, Rule.isNegative, PropertyRules.rules,
      Additional.rules]

/-- With a limit of 1 the third text would be out of reach. -/
theorem lower_limit_accepts_no_more_threeTexts :
    listSchema.program.NegationFree ∧
      ((listSchema.withDepth 1).validate threeTexts).valid = false ∧
      ∃ t t', (Schema.build (.object listDocument)
          { Options.default with maxReferenceDepth := 2 }).schema = .ok t ∧
        (Schema.build (.object listDocument)
          { Options.default with maxReferenceDepth := 64 }).schema = .ok t' ∧
        (t.validate threeTexts).valid = true ∧ (t'.validate threeTexts).valid = true := by
  have hlow : ((listSchema.withDepth 1).validate threeTexts).valid = false := by
    simp only [Schema.withDepth, Schema.validate, Schema.validate?, listSchema_program]
    decide +kernel
  have hvalid : ((listSchema.withDepth 2).validate threeTexts).valid = true := by
    simp only [Schema.withDepth, Schema.validate, Schema.validate?, listSchema_program]
    decide +kernel
  obtain ⟨t, t', ht, ht', himplies⟩ := lower_limit_accepts_no_more build_listSchema
    negationFree_listSchema (by decide : (1 : ℤ) ≤ 2) (by decide : (2 : ℤ) ≤ 64) threeTexts
  obtain rfl : t = listSchema.withDepth 2 :=
    Except.ok.inj (ht.symm.trans (build_withDepth build_listSchema (by decide)))
  exact ⟨negationFree_listSchema, hlow, _, t', ht, ht', hvalid, himplies hvalid⟩

end JsonSchema
