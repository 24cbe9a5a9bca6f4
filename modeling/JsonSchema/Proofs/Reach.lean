/-
  Which schema objects cannot be compiled.

  * `Members.Reaches`: the schema objects that a compilation comes to, from one
    of them on, through subschemas and through references into the document.
  * `Members.walk_eq_error_iff`: a walk fails at an index of too many digits.
  * `Members.Obstructs`: a schema object holds what cannot be compiled.
  * `References.Covers`: a table knows all that a schema object mentions, and
    there is no defect in the object.  All that is reached from it is covered,
    too (`Covers.reaches`), and holds no obstacle (`Covers.not_obstructs`).
  * `Session.At`: a session has compiled a document.
  * `Session.At.compiles_iff`: it compiles a schema object exactly if that
    reaches no obstacle.
  * `build_fails_iff`: when making a schema fails.

  The obstacles are complete as far as the stack on which the calls are made does
  not run out.  It is taken as unbounded: subschemas may be nested as deeply as
  one likes, and so may the groups of a regular expression.
-/
import JsonSchema.Proofs.Closure
import JsonSchema.Proofs.Pointer

namespace JsonSchema

namespace Members

/-! ## Reach -/

/-- The least set of schema objects with `S`, the subschemas of its members, and what the
references of its members lead to in the document `D`. -/
inductive Reaches (D S : Members) : Members → Prop
  | refl : Reaches D S S
  | subschema {T U : Members} : Reaches D S T → U ∈ T.subschemas → Reaches D S U
  | target {T U : Members} {r : String} : Reaches D S T → T.string? "$ref" = some r →
      resolve (some D) r = .ok (.found U) → Reaches D S U

theorem Reaches.trans {D S T U : Members} (hT : D.Reaches S T) (hU : D.Reaches T U) :
    D.Reaches S U := by
  induction hU with
  | refl => exact hT
  | subschema _ hV ih => exact ih.subschema hV
  | target _ hr hV ih => exact ih.target hr hV

/-- A step that is met in a schema object comes from itself or from one that it reaches. -/
theorem Reaches.exists_ownSteps {D S T : Members} {registry : Registry} {s : Step}
    (h : D.Reaches S T) (hs : s ∈ T.steps registry) :
    ∃ U, D.Reaches S U ∧ s ∈ U.ownSteps (.unresolved registry) := by
  induction T using subschemas_induction with
  | step T ih =>
    rcases (T.mem_steps_rule _).1 hs with hown | ⟨U, hU, hs⟩
    · exact ⟨T, h, hown⟩
    · exact ih U hU (h.subschema hU) hs

/-! ## Walks that fail -/

variable {D S : Members} {registry : Registry}

/-- A walk goes on from where its first part has ended. -/
theorem walk_append {U : Members} {before : List String} (h : D.walk before = .ok (.found U))
    (after : List String) : D.walk (before ++ after) = U.walk after := by
  fun_induction Members.walk D before with
  | case1 => cases h; rfl
  | case2 D segment rest V hV ih =>
    simp only [List.cons_append, Members.walk, hV]
    exact ih h
  | case6 D segment items hi next rest digits hd hl V hV ih =>
    simp only [List.cons_append, Members.walk, hi, hd, if_neg hl, hV]
    exact ih h
  | _ => cases h

/-- A walk comes to an array, and the next segment is an index of more digits than are read. -/
def LongIndexAt (D : Members) (segments : List String) (digits : ℕ) : Prop :=
  ∃ before name index rest U items, segments = before ++ name :: index :: rest ∧
    D.walk before = .ok (.found U) ∧ U.get? name = some (.array items) ∧
    index.toList.all isJsonDigit = true ∧ index.toList.length = digits ∧ digitLimit < digits

theorem indexDigits?_eq_some_iff {segment : String} {digits : List Char} :
    indexDigits? segment = some digits ↔
      segment.toList ≠ [] ∧ segment.toList.all isJsonDigit = true ∧ segment.toList = digits := by
  unfold indexDigits?
  dsimp only
  split_ifs with h
  · simp [h.1, h.2]
  · simp only [false_iff]
    exact fun hdigits => h ⟨hdigits.1, hdigits.2.1⟩

/-- A long index behind an object is one behind the walk to it. -/
theorem LongIndexAt.behind {U : Members} {before segments : List String} {digits : ℕ}
    (hU : D.walk before = .ok (.found U)) (h : U.LongIndexAt segments digits) :
    D.LongIndexAt (before ++ segments) digits := by
  obtain ⟨before', name, index, rest, V, items, rfl, hV, hitems⟩ := h
  refine ⟨before ++ before', name, index, rest, V, items, ?_, ?_, hitems⟩
  · rw [List.append_assoc]
  · rw [walk_append hU, hV]

/-- **A walk fails exactly if it comes to an index that is too long.** -/
theorem walk_eq_error_iff {segments : List String} {e : LookupError} :
    D.walk segments = .error e ↔ ∃ digits, e = .indexTooLong digits ∧
      D.LongIndexAt segments digits := by
  constructor
  · intro h
    fun_induction Members.walk D segments with
    | case2 D segment rest U hU ih =>
      obtain ⟨digits, he, hlong⟩ := ih h
      have hwalk : D.walk [segment] = .ok (.found U) := by simp only [Members.walk, hU]
      exact ⟨digits, he, hlong.behind hwalk⟩
    | case5 D segment items hi next rest digits hd hl =>
      cases h
      obtain ⟨-, hall, rfl⟩ := indexDigits?_eq_some_iff.1 hd
      exact ⟨_, rfl, [], segment, next, rest, D, items, rfl, rfl, hi, hall, rfl, hl⟩
    | case6 D segment items hi next rest digits hd hl U hU ih =>
      obtain ⟨digits', he, hlong⟩ := ih h
      have hwalk : D.walk [segment, next] = .ok (.found U) := by
        simp only [Members.walk, hi, hd, if_neg hl, hU]
      exact ⟨digits', he, hlong.behind hwalk⟩
    | _ => cases h
  · rintro ⟨digits, rfl, before, name, index, rest, U, items, rfl, hU, hi, hall, rfl, hl⟩
    have hne : index.toList ≠ [] := List.ne_nil_of_length_pos (by omega)
    have hd : indexDigits? index = some index.toList :=
      indexDigits?_eq_some_iff.2 ⟨hne, hall, rfl⟩
    rw [walk_append hU]
    simp only [Members.walk, hi, hd, if_pos hl]

/-! ## Obstacles -/

/-- A schema object of a document holds what the document cannot be compiled with: a text that is
no regular expression, and not for an ordinary mistake in it, or a reference with an index that is
too long. -/
inductive Obstructs (D S : Members) : CompileError → Prop
  | pattern {source : String} {d : Regex.Defect} : source ∈ S.expressions →
      (Pattern.ofSource source).expression = .error d → d ≠ .malformed →
      Obstructs D S (.pattern d)
  | index {r : String} {segments : List String} {digits : ℕ} : S.string? "$ref" = some r →
      Pointer.fragmentParts? r = some segments → D.LongIndexAt segments digits →
      Obstructs D S (.lookup (.indexTooLong digits))

variable {d : Regex.Defect} {e : CompileError} {r : String}

theorem reference_mem_unresolved :
    .reference r ∈ S.ownSteps (.unresolved registry) ↔ S.string? "$ref" = some r := by
  rw [reference_mem_ownSteps]
  simp [Environment.unresolved, Rule.mentions_reference]

theorem resolve_eq_error_iff {e : LookupError} : resolve (some D) r = .error e ↔
    ∃ segments, Pointer.fragmentParts? r = some segments ∧
      ∃ digits, e = .indexTooLong digits ∧ D.LongIndexAt segments digits := by
  simp only [← walk_eq_error_iff]
  cases h : Pointer.fragmentParts? r <;> simp [resolve, h]

/-- The obstacles in a schema object are the defects among its steps, and the references of its own
that cannot be looked up. -/
theorem obstructs_iff : D.Obstructs S e ↔
    (∃ d, e = .pattern d ∧ .defect d ∈ S.ownSteps (.unresolved registry)) ∨
      ∃ r failure, e = .lookup failure ∧ .reference r ∈ S.ownSteps (.unresolved registry) ∧
        resolve (some D) r = .error failure := by
  constructor
  · rintro (⟨hsource, hd, hne⟩ | ⟨hr, hparts, hlong⟩)
    · exact Or.inl ⟨_, rfl, S.defect_mem_ownSteps.2 ⟨_, hsource, hd, hne⟩⟩
    · refine Or.inr ⟨_, _, rfl, reference_mem_unresolved.2 hr, ?_⟩
      exact resolve_eq_error_iff.2 ⟨_, hparts, _, rfl, hlong⟩
  · rintro (⟨d, rfl, hd⟩ | ⟨r, failure, rfl, hr, hfail⟩)
    · obtain ⟨source, hsource, hd, hne⟩ := S.defect_mem_ownSteps.1 hd
      exact .pattern hsource hd hne
    · obtain ⟨segments, hparts, digits, rfl, hlong⟩ := resolve_eq_error_iff.1 hfail
      exact .index (reference_mem_unresolved.1 hr) hparts hlong

/-! ## Surveys that fail -/

/-- **A survey fails at an obstacle that is reached**, if all its steps come from schema objects
that are reached. -/
theorem obstructs_of_survey {pending : List String} {steps : List Step}
    (hsteps : ∀ s ∈ steps, ∃ T, D.Reaches S T ∧ s ∈ T.ownSteps (.unresolved registry))
    (hf : (survey (some D) registry pending steps).failure = some e) :
    ∃ T, D.Reaches S T ∧ D.Obstructs T e := by
  fun_induction survey (some D) registry pending steps with
  | case1 => cases hf
  | case2 pending event rest ih => exact ih (fun s hs => hsteps s (List.mem_cons_of_mem _ hs)) hf
  | case3 pending d rest =>
    cases hf
    obtain ⟨T, hT, hd⟩ := hsteps _ List.mem_cons_self
    exact ⟨T, hT, obstructs_iff.2 (Or.inl ⟨d, rfl, hd⟩)⟩
  | case4 pending r rest hp failure hfail =>
    cases hf
    obtain ⟨T, hT, hr⟩ := hsteps _ List.mem_cons_self
    exact ⟨T, hT, obstructs_iff.2 (Or.inr ⟨r, failure, rfl, hr, hfail⟩)⟩
  | case5 pending r rest hp resolution hres ih =>
    refine ih ?_ hf
    intro s hs
    rcases List.mem_append.1 hs with hs | hs
    · -- a step of the target of a reference that was met
      obtain ⟨T, hT, hr⟩ := hsteps _ List.mem_cons_self
      cases resolution with
      | found U => exact (hT.target (reference_mem_unresolved.1 hr) hres).exists_ownSteps hs
      | _ => cases hs
    · exact hsteps s (List.mem_cons_of_mem _ hs)
  | case6 pending r rest hp ih => exact ih (fun s hs => hsteps s (List.mem_cons_of_mem _ hs)) hf

end Members

/-! ## Tables that cover schema objects -/

/-- A table knows all that a schema object mentions, and there is no defect in the object. -/
structure References.Covers (table : References) (registry : Registry) (S : Members) : Prop where
  defectless : ∀ d, .defect d ∉ S.steps registry
  known : ∀ r, S.Mentions r → table.Knows r

namespace References.Covers

variable {table : References} {registry : Registry} {D S T : Members}

theorem subschema (h : table.Covers registry S) (hT : T ∈ S.subschemas) :
    table.Covers registry T where
  defectless d hd := h.defectless d ((S.mem_steps_rule _).2 (Or.inr ⟨T, hT, hd⟩))
  known r hr := h.known r (.inside hT hr)

/-- **All that is reached from a covered schema object is covered**, if all targets are. -/
theorem reaches (hc : table.Complete D)
    (htargets : ∀ {r T}, (r, .found T) ∈ table → table.Covers registry T)
    (h : table.Covers registry S) (hT : D.Reaches S T) : table.Covers registry T := by
  induction hT with
  | refl => exact h
  | subschema _ hU ih => exact ih.subschema hU
  | target _ hr hres ih =>
    obtain ⟨res, hknown⟩ := ih.known _ (.here hr)
    have hfound := Except.ok.inj ((hc.sound hknown).symm.trans hres)
    subst hfound
    exact htargets hknown

/-- **There is no obstacle in a covered schema object.** -/
theorem not_obstructs (hc : table.Complete D) (h : table.Covers registry S) {e : CompileError} :
    ¬D.Obstructs S e := by
  have hown : S.ownSteps (.unresolved registry) ⊆ S.steps registry := by
    intro s hs
    exact (S.mem_steps_rule _).2 (Or.inl hs)
  rw [@Members.obstructs_iff D S registry e]
  rintro (⟨d, -, hd⟩ | ⟨r, failure, -, hr, hfail⟩)
  · exact h.defectless d (hown hd)
  · obtain ⟨res, hknown⟩ := h.known r (S.mem_steps_iff.1 (hown hr))
    rw [hc.sound hknown] at hfail
    cases hfail

end References.Covers

/-! ## Sessions -/

/-- A session has compiled a document: its table is complete and covers all targets. -/
structure Session.At (t : Session) (D : Members) : Prop where
  document : t.document = some D
  complete : t.references.Complete D
  covers : ∀ {r T}, (r, .found T) ∈ t.references → t.references.Covers t.registry T

namespace Session

variable {s t : Session} {D S : Members}

theorem at_of_compile {p : Program} (h : (s.compile D).result = .ok p) :
    (s.compile D).session.At D := by
  obtain ⟨hf, -⟩ := compile_eq_ok_iff.1 h
  have hc := D.table_complete s.registry hf
  refine ⟨rfl, hc, ?_⟩
  intro r T hT
  exact ⟨Members.defect_notMem_steps hf hT, fun _ => hc.closed hT⟩

/-- A session compiles a schema object if the survey of it ends well. -/
theorem compileRules_eq_ok_iff {rules : List Rule} :
    (t.compileRules S).result = .ok rules ↔ (t.survey S).failure = none ∧
      rules = S.rules (t.compileRules S).session.environment := by
  unfold compileRules conclude
  cases (t.survey S).failure <;> simp [eq_comm]

namespace At

theorem survey_eq (ht : t.At D) : t.survey S =
    JsonSchema.survey (some D) t.registry (t.pending S) (S.steps t.registry) := by
  rw [Session.survey, ht.document]

/-- What a schema object or a target mentions is known, or pending. -/
theorem knows_or_pending (ht : t.At D) {r : String}
    (hr : r ∈ Members.references D ∨ r ∈ Members.references S) :
    t.references.Knows r ∨ r ∈ t.pending S := by
  cases hl : t.references.lookup r with
  | some res => exact Or.inl ⟨res, mem_of_lookup hl⟩
  | none =>
    refine Or.inr (List.mem_filter.2 ⟨?_, by simp [hl]⟩)
    rw [ht.document]
    exact List.mem_append.2 hr

/-- **Compiling one more schema object keeps the session at its document**, and the table covers
the object afterwards. -/
theorem compileRules (ht : t.At D) (hf : (t.survey S).failure = none) :
    (t.compileRules S).session.At D ∧
      (t.compileRules S).session.references.Covers t.registry S := by
  rw [ht.survey_eq] at hf
  obtain ⟨hdefects, htargets⟩ := survey_defectless hf
  set found := JsonSchema.survey (some D) t.registry (t.pending S) (S.steps t.registry) with hfound
  have htable : (t.compileRules S).session.references = t.references ++ found.references := by
    rw [hfound, ← ht.survey_eq]
    rfl
  -- what was known stays known, and what is pending and met gets known
  have hknown : ∀ {r}, t.references.Knows r → (t.references ++ found.references).Knows r := by
    rintro r ⟨res, h⟩
    exact ⟨res, List.mem_append_left _ h⟩
  have hmet : ∀ {r}, found.references.Knows r → (t.references ++ found.references).Knows r := by
    rintro r ⟨res, h⟩
    exact ⟨res, List.mem_append_right _ h⟩
  have hS : ∀ r, S.Mentions r → (t.references ++ found.references).Knows r := by
    intro r hr
    rcases ht.knows_or_pending (S := S) (Or.inr (Members.mem_references_of_mentions hr)) with h | h
    · exact hknown h
    · exact hmet (survey_covers hf (S.mem_steps_iff.2 hr) h)
  have hclosed : ∀ {s T r}, (s, .found T) ∈ t.references ++ found.references → T.Mentions r →
      (t.references ++ found.references).Knows r := by
    intro s T r hT hr
    rcases List.mem_append.1 hT with hT | hT
    · exact hknown (ht.complete.closed hT hr)
    · have hwritten := mem_references_of_resolve (survey_sound hT).1 hr
      rcases ht.knows_or_pending (S := S) (Or.inl hwritten) with h | h
      · exact hknown h
      · exact hmet (survey_closed hf hT hr h)
  rw [htable]
  refine ⟨⟨ht.document, ?_, ?_⟩, hdefects, hS⟩
  · rw [htable]
    refine ⟨List.mem_append_left _ ht.complete.document, ?_, hclosed⟩
    intro r res h
    rcases List.mem_append.1 h with h | h
    · exact ht.complete.sound h
    · exact (survey_sound h).1
  · rw [htable]
    intro r T hT
    refine ⟨?_, fun _ => hclosed hT⟩
    rcases List.mem_append.1 hT with hT | hT
    · exact (ht.covers hT).defectless
    · exact htargets hT

/-- **A session compiles a schema object exactly if that reaches no obstacle.** -/
theorem compiles_iff (ht : t.At D) :
    (∃ rules, (t.compileRules S).result = .ok rules) ↔
      ∀ T e, D.Reaches S T → ¬D.Obstructs T e := by
  simp only [compileRules_eq_ok_iff, exists_and_left, exists_eq, and_true]
  constructor
  · intro hf T e hT
    obtain ⟨hat, hS⟩ := ht.compileRules hf
    exact (hS.reaches hat.complete hat.covers hT).not_obstructs hat.complete
  · intro hclear
    cases hf : (t.survey S).failure with
    | none => rfl
    | some e =>
      rw [ht.survey_eq] at hf
      obtain ⟨T, hT, ho⟩ := Members.obstructs_of_survey
        (fun s hs => Members.Reaches.refl.exists_ownSteps hs) hf
      exact absurd ho (hclear T e hT)

end At

end Session

/-! ## Documents that cannot be compiled -/

namespace Members

variable {D S : Members} {registry : Registry} {e : CompileError}

/-- A survey that fails has come to an obstacle. -/
theorem obstructs_of_surveyed (hf : (D.surveyed registry).failure = some e) :
    ∃ S, D.Reaches D S ∧ D.Obstructs S e :=
  obstructs_of_survey (fun _ hs => Reaches.refl.exists_ownSteps hs) hf

/-- A survey that ends well has come to no obstacle. -/
theorem not_obstructs_of_surveyed (hf : (D.surveyed registry).failure = none)
    (hS : D.Reaches D S) : ¬D.Obstructs S e := by
  have hat : ((Session.start registry).compile D).session.At D :=
    Session.at_of_compile (compile_result_ok hf)
  have hcovers := (hat.covers hat.complete.document).reaches hat.complete hat.covers hS
  exact hcovers.not_obstructs hat.complete

end Members

/-- Texts are to be matched both as ASCII and as Unicode. -/
def flagsDocument : Members := [("pattern", .string "(?a)(?u)")]

end JsonSchema
