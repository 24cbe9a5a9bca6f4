/-
  What the references of a compiled document mean.

  * `Rule.Within`: a rule occurs anywhere in another.
  * `survey_defectless`, `survey_idle`: a survey that ends well leaves targets in
    which nothing new is met.
  * `Members.compileRules_found`: compiling a target once more gives the rules
    that it was compiled to.
  * `Members.Denotes`: what a reference means, by the place that it names in the
    document.
  * `references_mean_their_place`: the program of a document is closed, and each
    of its references has its meaning.
-/
import JsonSchema.Proofs.Compilation

namespace JsonSchema

/-! ## Rules anywhere in a rule -/

namespace Rule

/-- A rule is another, or inside it at any depth. -/
def Within : Rule → Rule → Prop := Relation.ReflTransGen fun r rule => r ∈ rule.children

/-- **To mention a reference is to hold it somewhere.** -/
theorem mentions_iff_within {rule : Rule} {r : String} :
    rule.Mentions r ↔ (Rule.reference r).Within rule := by
  induction rule using Rule.children_induction with
  | step rule ih =>
    rw [Rule.mentions_iff]
    constructor
    · rintro (rfl | ⟨child, hc, hm⟩)
      · exact .refl
      · exact .tail ((ih child hc).1 hm) hc
    · intro h
      rcases h.cases_tail with rfl | ⟨child, hw, hc⟩
      · exact Or.inl rfl
      · exact Or.inr ⟨child, hc, (ih child hc).2 hw⟩

end Rule

/-! ## Surveys that meet nothing new -/

section
variable {document : Option Members} {registry : Registry} {pending : List String}
  {steps : List Step}

/-- A survey that ends well has met no defect, neither in its steps nor in those of a target. -/
theorem survey_defectless (hf : (survey document registry pending steps).failure = none) :
    (∀ d, .defect d ∉ steps) ∧ ∀ {s : String} {T : Members},
      (s, .found T) ∈ (survey document registry pending steps).references →
        ∀ d, .defect d ∉ T.steps registry := by
  fun_induction survey document registry pending steps with
  | case1 => exact ⟨by simp, by simp [Survey.empty]⟩
  | case2 pending e rest ih =>
    obtain ⟨hrest, htargets⟩ := ih hf
    exact ⟨by simpa using hrest, htargets⟩
  | case3 => cases hf
  | case4 => cases hf
  | case5 pending r rest hr res hres ih =>
    obtain ⟨hsteps, htargets⟩ := ih hf
    refine ⟨?_, ?_⟩
    · intro d hd
      rcases List.mem_cons.1 hd with hd | hd
      · cases hd
      · exact hsteps d (List.mem_append_right _ hd)
    · intro s T hT d hd
      rcases List.mem_cons.1 hT with hT | hT
      · cases hT
        exact hsteps d (List.mem_append_left _ hd)
      · exact htargets hT d hd
  | case6 pending r rest hr ih =>
    obtain ⟨hrest, htargets⟩ := ih hf
    exact ⟨by simpa using hrest, htargets⟩

/-- A survey adds nothing to the table where there is no defect and no pending reference. -/
theorem survey_idle (hd : ∀ d, .defect d ∉ steps) (hr : ∀ r, .reference r ∈ steps → r ∉ pending) :
    (survey document registry pending steps).references = [] ∧
      (survey document registry pending steps).failure = none := by
  fun_induction survey document registry pending steps with
  | case1 => exact ⟨rfl, rfl⟩
  | case2 pending e rest ih =>
    refine ih ?_ ?_
    · intro d h
      exact hd d (List.mem_cons_of_mem _ h)
    · intro r h
      exact hr r (List.mem_cons_of_mem _ h)
  | case3 pending d rest => exact absurd List.mem_cons_self (hd d)
  | case4 pending r rest hp => exact absurd hp (hr r List.mem_cons_self)
  | case5 pending r rest hp => exact absurd hp (hr r List.mem_cons_self)
  | case6 pending r rest hp ih =>
    refine ih ?_ ?_
    · intro d h
      exact hd d (List.mem_cons_of_mem _ h)
    · intro r h
      exact hr r (List.mem_cons_of_mem _ h)

end

/-! ## Compiling a target once more -/

namespace Members

variable {D T : Members} {registry : Registry} {r : String}

/-- There is no defect in the document or in a target. -/
theorem defect_notMem_steps (hf : (D.surveyed registry).failure = none)
    (hT : (r, .found T) ∈ D.table registry) (d : Regex.Defect) : .defect d ∉ T.steps registry := by
  obtain ⟨hsteps, htargets⟩ := survey_defectless hf
  rcases List.mem_cons.1 hT with hT | hT
  · cases hT
    exact hsteps d
  · exact htargets hT d

/-- **The rules of a target are those that it is compiled to**, by the session that has compiled
the document. -/
theorem compileRules_found {s : Session} (hf : (D.surveyed s.registry).failure = none)
    (hT : (r, .found T) ∈ D.table s.registry) :
    ((s.compile D).session.compileRules T).result =
      .ok (T.rules (D.environment s.registry)) := by
  have hc := D.table_complete s.registry hf
  -- all that the target mentions has been met
  have hmet : ∀ r, .reference r ∈ T.steps s.registry →
      r ∉ (s.compile D).session.pending T := by
    intro r hr hp
    obtain ⟨res, hres⟩ := (hc.closed hT (T.mem_steps_iff.1 hr)).lookup
    have hnone : List.lookup r (D.table s.registry) = none :=
      Option.isNone_iff_eq_none.1 (List.mem_filter.1 hp).2
    rw [hres] at hnone
    cases hnone
  obtain ⟨hreferences, hfailure⟩ : ((s.compile D).session.survey T).references = [] ∧
      ((s.compile D).session.survey T).failure = none :=
    survey_idle (defect_notMem_steps hf hT) hmet
  have hadd : (s.compile D).session.add ((s.compile D).session.survey T) =
      (s.compile D).session := by
    rw [Session.add, hreferences, List.append_nil]
  rw [Session.compileRules, Session.conclude, hfailure, hadd]
  rfl

/-! ## Meaning -/

/-- What a reference means: nothing, if it leads out of the document or nowhere inside it, and
otherwise what a session compiles the object at its place to. -/
inductive Denotes (D : Members) (s : Session) (r : String) : Rule → Prop
  | remote : Pointer.fragmentParts? r = none → Denotes D s r (.invalid (.remoteReference r))
  | notFound {segments : List String} {segment : String} :
      Pointer.fragmentParts? r = some segments → D.walk segments = .ok (.notFound segment) →
      Denotes D s r (.invalid (.referenceNotFound r segment))
  | found {segments : List String} {T : Members} {rules : List Rule} :
      Pointer.fragmentParts? r = some segments → D.walk segments = .ok (.found T) →
      (s.compileRules T).result = .ok rules → Denotes D s r (.combined rules)

/-- A walk does not leave the document. -/
theorem walk_ne_remote (segments : List String) : D.walk segments ≠ .ok .remote := by
  intro h
  fun_induction Members.walk D segments with
  | case2 _ _ _ _ _ ih | case6 _ _ _ _ _ _ _ _ _ _ _ ih => exact ih h
  | _ => cases h

/-- To be resolved is to be a reference to elsewhere, or to be walked along. -/
theorem resolve_eq_ok_iff {res : Resolution} : resolve (some D) r = .ok res ↔
    (Pointer.fragmentParts? r = none ∧ res = .remote) ∨
      ∃ segments, Pointer.fragmentParts? r = some segments ∧ D.walk segments = .ok res := by
  cases h : Pointer.fragmentParts? r <;> simp [resolve, h, eq_comm]

/-- **What stands in the program for a reference is its meaning.** -/
theorem denotes_rule {s : Session} (hf : (D.surveyed s.registry).failure = none)
    {res : Resolution} (h : (r, res) ∈ D.table s.registry) :
    D.Denotes (s.compile D).session r (res.rule (D.environment s.registry) r) := by
  have hres := (D.table_complete s.registry hf).sound h
  rcases resolve_eq_ok_iff.1 hres with ⟨hparts, rfl⟩ | ⟨segments, hparts, hwalk⟩
  · exact .remote hparts
  · cases res with
    | remote => exact absurd hwalk (walk_ne_remote segments)
    | notFound segment => exact .notFound hparts hwalk
    | found T => exact .found hparts hwalk (compileRules_found hf h)

/-- A reference means no rule that can be met exactly if it leads elsewhere or nowhere. -/
theorem Denotes.isInvalid_iff {s : Session} {rule : Rule} (h : D.Denotes s r rule) :
    rule.isInvalid = true ↔ Pointer.fragmentParts? r = none ∨ ∃ segments segment,
      Pointer.fragmentParts? r = some segments ∧ D.walk segments = .ok (.notFound segment) := by
  cases h with
  | remote hparts => simp [Rule.isInvalid, hparts]
  | notFound hparts hwalk => simp [Rule.isInvalid, hparts, hwalk]
  | found hparts hwalk _ => simp [Rule.isInvalid, hparts, hwalk]

/-- An entry of a program is the only one for its reference. -/
theorem target?_of_mem {rule : Rule} (h : (r, rule) ∈ (D.program registry).references) :
    (D.program registry).target? r = some rule := by
  refine lookup_of_mem ?_ h
  rw [map_references_program]
  exact D.nodup_table registry

/-- The entry of a reference that can be followed has the rules of a schema object. -/
theorem combined_of_mem_resolvable (h : r ∈ (D.program registry).resolvable) :
    ∃ rules, (r, .combined rules) ∈ (D.program registry).references := by
  obtain ⟨⟨r', rule⟩, he, rfl⟩ := List.mem_map.1 h
  obtain ⟨he, hvalid⟩ := List.mem_filter.1 he
  obtain ⟨⟨r', res⟩, -, heq⟩ := List.mem_map.1 he
  cases heq
  cases res with
  | found T => exact ⟨T.rules (D.environment registry), he⟩
  | _ => cases hvalid

end Members

/-- **The program of a document is closed, and its references mean their places.**  Every
reference that is held anywhere in the program has an entry, with the rules of a schema object; the
reference to the document stands for the root; every entry is what its reference means in the
document, and the only one for it; and it cannot be met exactly if the reference leads out of the
document or nowhere inside it. -/
theorem references_mean_their_place {s : Session} {D : Members} {p : Program}
    (h : (s.compile D).result = .ok p) :
    (∀ rule, (rule = p.root ∨ ∃ r, (r, rule) ∈ p.references) →
      ∀ r, (Rule.reference r).Within rule →
        ∃ rules, (r, .combined rules) ∈ p.references ∧ p.target? r = some (.combined rules)) ∧
    p.target? rootReference = some p.root ∧
    (∀ r rule, (r, rule) ∈ p.references →
      p.target? r = some rule ∧ D.Denotes (s.compile D).session r rule ∧
      (rule.isInvalid = true ↔ Pointer.fragmentParts? r = none ∨ ∃ segments segment,
        Pointer.fragmentParts? r = some segments ∧
          D.walk segments = .ok (.notFound segment))) := by
  obtain ⟨hf, rfl⟩ := Session.compile_eq_ok_iff.1 h
  have hc := D.table_complete s.registry hf
  have hp : (D.program s.registry).Closed := hc.program_closed
  refine ⟨?_, ?_, ?_⟩
  · intro rule hrule r hw
    have hsupports : (D.program s.registry).Supports rule := by
      rcases hrule with rfl | ⟨t, he⟩
      · exact hp.root
      · exact hp.target (Members.target?_of_mem he)
    obtain ⟨hr, -⟩ := hsupports r (Rule.mentions_iff_within.2 hw)
    obtain ⟨rules, he⟩ := Members.combined_of_mem_resolvable hr
    exact ⟨rules, he, Members.target?_of_mem he⟩
  · rw [Members.program_eq, References.target?_program]
    rfl
  · intro r rule he
    refine ⟨Members.target?_of_mem he, ?_⟩
    obtain ⟨⟨r', res⟩, hres, heq⟩ := List.mem_map.1 he
    cases heq
    have hd := Members.denotes_rule hf hres
    exact ⟨hd, hd.isInvalid_iff⟩

theorem references_mean_their_place_listDocument :
    ((Session.start .builtIn).compile listDocument).result = .ok listSchema.program ∧
      listSchema.program.target? rootReference = some listSchema.program.root ∧
      (Rule.reference rootReference).Within listSchema.program.root ∧
      (∃ rules, listSchema.program.target? rootReference = some (.combined rules)) ∧
      listDocument.Denotes ((Session.start .builtIn).compile listDocument).session "list.json"
        (.invalid (.remoteReference "list.json")) := by
  obtain ⟨hclosed, hroot, hmeaning⟩ :=
    references_mean_their_place compile_listDocument
  have hwithin : (Rule.reference rootReference).Within listSchema.program.root := by
    rw [← Rule.mentions_iff_within, listSchema_program]
    exact List.mem_cons_self
  have hremote : ("list.json", .invalid (.remoteReference "list.json")) ∈
      listSchema.program.references := by
    rw [listSchema_program]
    exact List.mem_cons_of_mem _ List.mem_cons_self
  obtain ⟨rules, -, hrules⟩ := hclosed _ (Or.inl rfl) _ hwithin
  exact ⟨compile_listDocument, hroot, hwithin, ⟨rules, hrules⟩, (hmeaning _ _ hremote).2.1⟩

end JsonSchema
