/-
  Compiling, one step at a time.

  * `Act`, `Stage`: what a compiler does, and where it stands: what has been
    met so far, and the steps that are still to be taken.
  * `Stage.Takes`, `Stage.Halts`: what one step does.  A reference that has been
    met is passed over; any other one is resolved, and the steps of its target
    come next.  Nothing bounds the number of steps.
  * `Stage.Run`: step after step, with a log.
  * `survey_acc`, `survey_run`: compiling ends, and a survey tells how.
  * `Stage.Run.found`: what a run adds to the table is what it resolves, each
    reference once.
  * `compile_meets_once`: the compilation of a document.
-/
import JsonSchema.Proofs.Table

namespace JsonSchema

/-! ## Steps -/

/-- What a compiler does. -/
inductive Act where
  /-- a reference is looked up in the document -/
  | resolve (reference : String)
  /-- the schema object that a reference leads to is compiled -/
  | compile (reference : String) (target : Members)
  /-- something is reported -/
  | report (e : Event)

namespace Act

/-- The reference that is looked up. -/
def resolved? : Act → Option String
  | resolve reference => some reference
  | _ => none

/-- The target that is compiled, with its reference. -/
def compiled? : Act → Option (String × Members)
  | compile reference target => some (reference, target)
  | _ => none

/-- What is reported. -/
def reported? : Act → Option Event
  | report e => some e
  | _ => none

end Act

/-- The schema object that a reference leads to. -/
def Resolution.target? : Resolution → Option Members
  | .found target => some target
  | _ => none

/-- What is done about a reference that has not been met before. -/
def Resolution.acts (reference : String) (r : Resolution) : List Act :=
  [.resolve reference, .report (r.event reference)] ++ (r.target?.map (.compile reference)).toList

namespace Resolution

variable (r : String) (res : Resolution)

theorem resolved_acts : (res.acts r).filterMap Act.resolved? = [r] := by
  cases res <;> rfl

theorem compiled_acts :
    (res.acts r).filterMap Act.compiled? = (res.target?.map fun T => (r, T)).toList := by
  cases res <;> rfl

theorem reported_acts : (res.acts r).filterMap Act.reported? = [res.event r] := by
  cases res <;> rfl

end Resolution

/-- An event that tells what a reference turned out to be. -/
def Event.isReference : Event → Bool
  | .resolved _ | .remote _ | .notFound .. => true
  | _ => false

/-- Where a compiler stands. -/
structure Stage where
  /-- the references that have been met, in order -/
  met : References
  /-- the steps that are still to be taken -/
  todo : List Step

namespace Stage

section
variable (D : Members) (registry : Registry)

/-- The document is compiled, and nothing but the document itself has been met. -/
def start : Stage := ⟨[(rootReference, .found D)], D.steps registry⟩

/-- One step, and what is done in it. -/
inductive Takes : Stage → List Act → Stage → Prop
  | event {met : References} {e : Event} {rest : List Step} :
      Takes ⟨met, .event e :: rest⟩ [.report e] ⟨met, rest⟩
  | known {met : References} {r : String} {rest : List Step} :
      met.Knows r → Takes ⟨met, .reference r :: rest⟩ [] ⟨met, rest⟩
  | new {met : References} {r : String} {res : Resolution} {rest : List Step} :
      ¬met.Knows r → resolve (some D) r = .ok res →
      Takes ⟨met, .reference r :: rest⟩ (res.acts r)
        ⟨met ++ [(r, res)], res.steps registry ++ rest⟩

/-- No step is left, or the next one cannot be taken. -/
inductive Halts : Stage → Option CompileError → Prop
  | done {met : References} : Halts ⟨met, []⟩ none
  | defect {met : References} {d : Regex.Defect} {rest : List Step} :
      Halts ⟨met, .defect d :: rest⟩ (some (.pattern d))
  | lookup {met : References} {r : String} {e : LookupError} {rest : List Step} :
      ¬met.Knows r → resolve (some D) r = .error e →
      Halts ⟨met, .reference r :: rest⟩ (some (.lookup e))

/-- Step after step. -/
inductive Run : Stage → List Act → Stage → Prop
  | refl (s : Stage) : Run s [] s
  | step {s t u : Stage} {acts more : List Act} :
      Takes D registry s acts t → Run t more u → Run s (acts ++ more) u

/-- One stage comes right after another. -/
def After (t s : Stage) : Prop := ∃ acts, Takes D registry s acts t

end

variable {D : Members} {registry : Registry}

/-! ## Compiling ends -/

/-- The references that are pending at a stage: they have not been met, and no others can come
up. -/
structure Awaits (D : Members) (s : Stage) (pending : List String) : Prop where
  unmet : ∀ r ∈ pending, ¬s.met.Knows r
  todo : ∀ r, .reference r ∈ s.todo → r ∈ pending ∨ s.met.Knows r
  written : ∀ r ∈ Members.references D, r ∈ pending ∨ s.met.Knows r

namespace Awaits

variable {met : References} {rest : List Step} {pending : List String} {r : String}

theorem tail {step : Step} (h : Awaits D ⟨met, step :: rest⟩ pending) :
    Awaits D ⟨met, rest⟩ pending where
  unmet := h.unmet
  todo r hr := h.todo r (List.mem_cons_of_mem _ hr)
  written := h.written

theorem knows (h : Awaits D ⟨met, .reference r :: rest⟩ pending) (hr : r ∉ pending) :
    met.Knows r := by
  rcases h.todo r List.mem_cons_self with hp | hk
  · exact absurd hp hr
  · exact hk

end Awaits

end Stage

theorem References.knows_append {table : References} {e : String × Resolution} {r : String} :
    References.Knows (table ++ [e]) r ↔ table.Knows r ∨ r = e.1 := by
  obtain ⟨s, res⟩ := e
  simp [References.Knows, exists_or]

namespace Stage

variable {D : Members} {registry : Registry}

/-- Resolving a reference takes it off those that are pending. -/
theorem Awaits.new {met : References} {rest : List Step} {pending : List String} {r : String}
    {res : Resolution} (h : Awaits D ⟨met, .reference r :: rest⟩ pending)
    (hres : resolve (some D) r = .ok res) :
    Awaits D ⟨met ++ [(r, res)], res.steps registry ++ rest⟩ (without r pending) := by
  -- whatever was pending or known still is
  have keep : ∀ s, s ∈ pending ∨ met.Knows s →
      s ∈ without r pending ∨ References.Knows (met ++ [(r, res)]) s := by
    rintro s (hs | hs)
    · by_cases he : s = r
      · exact Or.inr (References.knows_append.2 (Or.inr he))
      · exact Or.inl (mem_without.2 ⟨hs, he⟩)
    · exact Or.inr (References.knows_append.2 (Or.inl hs))
  refine ⟨?_, ?_, ?_⟩
  · intro s hs hk
    obtain ⟨hp, hne⟩ := mem_without.1 hs
    rcases References.knows_append.1 hk with hk | rfl
    · exact h.unmet s hp hk
    · exact hne rfl
  · intro s hs
    rcases List.mem_append.1 hs with hs | hs
    · cases res with
      | found T =>
        have hm : T.Mentions s := T.mem_steps_iff.1 hs
        exact keep s (h.written s (mem_references_of_resolve hres hm))
      | _ => cases hs
    · exact keep s (h.todo s (List.mem_cons_of_mem _ hs))
  · intro s hs
    exact keep s (h.written s hs)

/-- At the start all written references are pending but for the one to the document itself. -/
theorem Awaits.start (D : Members) (registry : Registry) :
    Awaits D (.start D registry) (((Session.start registry).takeUp D).pending D) := by
  have written : ∀ r ∈ Members.references D,
      r ∈ ((Session.start registry).takeUp D).pending D ∨
        References.Knows [(rootReference, .found D)] r := by
    intro r hr
    by_cases he : r = rootReference
    · exact Or.inr ⟨.found D, by rw [he]; exact List.mem_cons_self⟩
    · exact Or.inl (D.mem_pending registry hr he)
  refine ⟨?_, ?_, written⟩
  · rintro r hp ⟨res, hk⟩
    cases List.mem_singleton.1 hk
    simp [Session.pending, Session.takeUp] at hp
  · intro r hr
    exact written r (Members.mem_references_of_mentions (D.mem_steps_iff.1 hr))

end Stage

section
variable {D : Members} {registry : Registry} {pending : List String} {steps : List Step}
  {met : References}

/-- **Compiling ends**, in whatever way a step may be taken. -/
theorem survey_acc (h : Stage.Awaits D ⟨met, steps⟩ pending) :
    Acc (Stage.After D registry) ⟨met, steps⟩ := by
  -- along the recursion of a survey, which takes a reference off the pending ones or a step off
  -- those that are left
  fun_induction survey (some D) registry pending steps generalizing met with
  | case1 =>
    refine ⟨_, ?_⟩
    rintro t ⟨acts, ht⟩
    cases ht
  | case2 pending e rest ih =>
    refine ⟨_, ?_⟩
    rintro t ⟨acts, ht⟩
    cases ht
    exact ih h.tail
  | case3 =>
    refine ⟨_, ?_⟩
    rintro t ⟨acts, ht⟩
    cases ht
  | case4 pending r rest hr e he =>
    refine ⟨_, ?_⟩
    rintro t ⟨acts, ht⟩
    cases ht with
    | known hk => exact absurd hk (h.unmet r hr)
    | new hk hres =>
      rw [he] at hres
      cases hres
  | case5 pending r rest hr res hres ih =>
    refine ⟨_, ?_⟩
    rintro t ⟨acts, ht⟩
    cases ht with
    | known hk => exact absurd hk (h.unmet r hr)
    | new hk hres' =>
      rw [hres] at hres'
      cases hres'
      exact ih (h.new hres)
  | case6 pending r rest hr ih =>
    refine ⟨_, ?_⟩
    rintro t ⟨acts, ht⟩
    cases ht with
    | known hk => exact ih h.tail
    | new hk hres => exact absurd (h.knows hr) hk

/-- **A survey tells how compiling ends**, what has been met by then, and what is reported. -/
theorem survey_run (h : Stage.Awaits D ⟨met, steps⟩ pending) :
    ∃ acts todo, Stage.Run D registry ⟨met, steps⟩ acts
        ⟨met ++ (survey (some D) registry pending steps).references, todo⟩ ∧
      Stage.Halts D ⟨met ++ (survey (some D) registry pending steps).references, todo⟩
        (survey (some D) registry pending steps).failure ∧
      acts.filterMap Act.reported? = (survey (some D) registry pending steps).events := by
  fun_induction survey (some D) registry pending steps generalizing met with
  | case1 =>
    refine ⟨[], [], ?_, ?_, rfl⟩
    · simpa [Survey.empty] using Stage.Run.refl _
    · exact .done
  | case2 pending e rest ih =>
    obtain ⟨acts, todo, hrun, hhalt, hreports⟩ := ih h.tail
    refine ⟨_, todo, .step .event hrun, hhalt, ?_⟩
    exact congrArg (e :: ·) hreports
  | case3 pending d rest =>
    refine ⟨[], .defect d :: rest, ?_, .defect, rfl⟩
    simpa [Survey.failed] using Stage.Run.refl _
  | case4 pending r rest hr e he =>
    refine ⟨[], .reference r :: rest, ?_, ?_, rfl⟩
    · simpa [Survey.failed] using Stage.Run.refl _
    · simpa [Survey.failed] using Stage.Halts.lookup (h.unmet r hr) he
  | case5 pending r rest hr res hres ih =>
    obtain ⟨acts, todo, hrun, hhalt, hreports⟩ := ih (h.new hres)
    simp only [Survey.enter, Survey.report, List.append_assoc,
      List.singleton_append] at hrun hhalt ⊢
    refine ⟨_, todo, .step (.new (h.unmet r hr) hres) hrun, hhalt, ?_⟩
    rw [List.filterMap_append, Resolution.reported_acts, hreports]
    rfl
  | case6 pending r rest hr ih =>
    obtain ⟨acts, todo, hrun, hhalt, hreports⟩ := ih h.tail
    exact ⟨_, todo, .step (.known (h.knows hr)) hrun, hhalt, hreports⟩

end

/-! ## What a run finds -/

/-- A document writes a reference: it is the `$ref` of the document or of some object inside. -/
def Members.Writes (D : Members) (r : String) : Prop :=
  ∃ S : Members, (S = D ∨ S.Inside D) ∧ S.string? "$ref" = some r

theorem Members.Mentions.writes {S : Members} {r : String} (h : S.Mentions r) : S.Writes r := by
  induction h with
  | here hr => exact ⟨_, Or.inl rfl, hr⟩
  | inside hT _ ih =>
    obtain ⟨U, hU, hr⟩ := ih
    have hTS := Members.inside_of_mem_subschemas hT
    rcases hU with rfl | hU
    · exact ⟨_, Or.inr hTS, hr⟩
    · exact ⟨_, Or.inr (hU.trans hTS), hr⟩

/-- What a target writes is written in the document. -/
theorem writes_of_resolve {D T : Members} {s r : String}
    (h : resolve (some D) s = .ok (.found T)) (hr : T.Writes r) : D.Writes r := by
  obtain ⟨S, hS, hr⟩ := hr
  rcases eq_or_inside_of_resolve h with rfl | hT
  · exact ⟨S, hS, hr⟩
  · rcases hS with rfl | hS
    · exact ⟨_, Or.inr hT, hr⟩
    · exact ⟨S, Or.inr (hS.trans hT), hr⟩

/-- Patterns do not report on references. -/
theorem Pattern.isReference_of_mem_steps {report : String → Event}
    (hr : ∀ source, (report source).isReference = false) {p : Pattern} {e : Event}
    (h : .event e ∈ p.steps report) : e.isReference = false := by
  unfold Pattern.steps at h
  split at h
  · cases h
  · cases List.mem_singleton.1 h
    exact hr p.source
  · cases List.mem_singleton.1 h

/-- The steps of a rule do not report on references, which is done when they are resolved. -/
theorem Rule.isReference_of_mem_steps {rule : Rule} {e : Event} (h : .event e ∈ rule.steps) :
    e.isReference = false := by
  induction rule using Rule.children_induction with
  | step rule ih =>
    rcases Rule.mem_steps.1 h with h | ⟨r, hr, h⟩
    · cases rule with
      | text limits =>
        cases hp : limits.pattern with
        | none => simp [ownSteps, hp] at h
        | some p =>
          rw [ownSteps, hp] at h
          exact Pattern.isReference_of_mem_steps (fun _ => rfl) h
      | object limits properties =>
        cases properties with
        | unchecked => cases h
        | checked declared patterned beyond =>
          obtain ⟨⟨p, r⟩, -, h⟩ := List.mem_flatMap.1 h
          exact Pattern.isReference_of_mem_steps (fun _ => rfl) h
      | reference r => cases List.mem_singleton.1 h
      | invalid problem =>
        cases problem with
        | invalidType type =>
          cases List.mem_singleton.1 h
          rfl
        | formatUnsupported format =>
          cases List.mem_singleton.1 h
          rfl
        | _ => cases h
      | _ => cases h
    · exact ih r hr h

/-- What is done tells what is found: each reference is resolved, its target, if it has one, is
compiled, and what it turned out to be is reported. -/
structure Tells (acts : List Act) (found : References) : Prop where
  resolved : acts.filterMap Act.resolved? = found.map (·.1)
  compiled : acts.filterMap Act.compiled? =
    found.filterMap fun (r, res) => res.target?.map fun T => (r, T)
  reported : (acts.filterMap Act.reported?).filter (·.isReference) =
    found.map fun (r, res) => res.event r

namespace Tells

theorem nil : Tells [] [] := ⟨rfl, rfl, rfl⟩

theorem append {acts more : List Act} {found others : References} (h : Tells acts found)
    (h' : Tells more others) : Tells (acts ++ more) (found ++ others) where
  resolved := by rw [List.filterMap_append, List.map_append, h.resolved, h'.resolved]
  compiled := by rw [List.filterMap_append, List.filterMap_append, h.compiled, h'.compiled]
  reported := by
    rw [List.filterMap_append, List.filter_append, List.map_append, h.reported, h'.reported]

theorem event {e : Event} (he : e.isReference = false) : Tells [.report e] [] := by
  refine ⟨rfl, rfl, ?_⟩
  simp [Act.reported?, he]

theorem new (r : String) (res : Resolution) : Tells (res.acts r) [(r, res)] := by
  refine ⟨res.resolved_acts r, ?_, ?_⟩
  · rw [Resolution.compiled_acts]
    cases res <;> rfl
  · rw [Resolution.reported_acts]
    cases res <;> rfl

end Tells

namespace Stage

variable {D : Members} {registry : Registry} {s t : Stage} {acts : List Act}

/-- What is known of a stage: no reference has been met twice, and what is left to take are
references that the document writes, and events that are not about references. -/
structure Orderly (D : Members) (s : Stage) : Prop where
  once : (s.met.map (·.1)).Nodup
  written : ∀ r, .reference r ∈ s.todo → D.Writes r
  quiet : ∀ e, .event e ∈ s.todo → e.isReference = false

/-- What the steps of a schema object of the document are. -/
theorem Orderly.steps (registry : Registry) {T : Members} (hT : ∀ r, T.Writes r → D.Writes r) :
    (∀ r, .reference r ∈ T.steps registry → D.Writes r) ∧
      ∀ e, .event e ∈ T.steps registry → e.isReference = false := by
  constructor
  · intro r hr
    exact hT r (T.mem_steps_iff.1 hr).writes
  · intro e he
    obtain ⟨rule, -, he⟩ := mem_stepsOfAll.1 he
    exact rule.isReference_of_mem_steps he

theorem Orderly.start (D : Members) (registry : Registry) : Orderly D (.start D registry) := by
  obtain ⟨hr, he⟩ := Orderly.steps registry fun r (h : D.Writes r) => h
  exact ⟨List.nodup_singleton _, hr, he⟩

/-- **What one step does**: it finds at most one reference, which has not been met before. -/
theorem Takes.tells (h : Takes D registry s acts t) (hs : Orderly D s) :
    Orderly D t ∧ ∃ found, t.met = s.met ++ found ∧ Tells acts found ∧
      ∀ e ∈ found, D.Writes e.1 := by
  have tail : ∀ {met step rest}, Orderly D ⟨met, step :: rest⟩ → Orderly D ⟨met, rest⟩ := by
    intro met step rest ho
    refine ⟨ho.once, ?_, ?_⟩
    · intro r hr
      exact ho.written r (List.mem_cons_of_mem _ hr)
    · intro e he
      exact ho.quiet e (List.mem_cons_of_mem _ he)
  cases h with
  | event =>
    refine ⟨tail hs, [], (List.append_nil _).symm, ?_, List.forall_mem_nil _⟩
    exact .event (hs.quiet _ List.mem_cons_self)
  | known hk => exact ⟨tail hs, [], (List.append_nil _).symm, .nil, List.forall_mem_nil _⟩
  | @new met r res rest hk hres =>
    obtain ⟨honce, hwritten, hquiet⟩ := tail hs
    have hsteps : (∀ r, .reference r ∈ res.steps registry → D.Writes r) ∧
        ∀ e, .event e ∈ res.steps registry → e.isReference = false := by
      cases res with
      | found T => exact Orderly.steps registry fun r hr => writes_of_resolve hres hr
      | _ => exact ⟨nofun, nofun⟩
    refine ⟨⟨?_, ?_, ?_⟩, [(r, res)], rfl, .new r res, ?_⟩
    · rw [List.map_append]
      refine List.nodup_append'.2 ⟨honce, List.nodup_singleton _, ?_⟩
      rw [List.disjoint_right]
      intro r' hr' hmem
      obtain ⟨⟨r'', res'⟩, hm, rfl⟩ := List.mem_map.1 hmem
      cases List.mem_singleton.1 hr'
      exact hk ⟨res', hm⟩
    · intro r' hr'
      rcases List.mem_append.1 hr' with hr' | hr'
      · exact hsteps.1 r' hr'
      · exact hwritten r' hr'
    · intro e he
      rcases List.mem_append.1 he with he | he
      · exact hsteps.2 e he
      · exact hquiet e he
    · intro e he
      rw [List.mem_singleton.1 he]
      exact hs.written r List.mem_cons_self

/-- **What a run does**: it finds each reference once. -/
theorem Run.tells (h : Run D registry s acts t) (hs : Orderly D s) :
    Orderly D t ∧ ∃ found, t.met = s.met ++ found ∧ Tells acts found ∧
      ∀ e ∈ found, D.Writes e.1 := by
  induction h with
  | refl s => exact ⟨hs, [], (List.append_nil _).symm, .nil, List.forall_mem_nil _⟩
  | step ht _ ih =>
    obtain ⟨ho, found, hmet, htells, hw⟩ := ht.tells hs
    obtain ⟨ho', others, hmet', htells', hw'⟩ := ih ho
    refine ⟨ho', found ++ others, ?_, htells.append htells', ?_⟩
    · rw [hmet', hmet, List.append_assoc]
    · intro e he
      rcases List.mem_append.1 he with he | he
      · exact hw e he
      · exact hw' e he

end Stage

/-! ## Documents -/

/-- Why there is no result. -/
def Compiled.failure? {α : Type} (c : Compiled α) : Option CompileError :=
  match c.result with
  | .ok _ => none
  | .error e => some e

theorem Session.compile_failure? (s : Session) (D : Members) :
    (s.compile D).failure? = (D.surveyed s.registry).failure := by
  cases h : (D.surveyed s.registry).failure with
  | none =>
    have hr : (s.compile D).result = .ok (D.program s.registry) := Members.compile_result_ok h
    rw [Compiled.failure?, hr]
  | some e =>
    have hr : (s.compile D).result = .error e := Members.compile_result_error h
    rw [Compiled.failure?, hr]

/-- A session whose earlier work does not matter compiles a document to its program. -/
theorem Session.compile_eq_ok_iff {s : Session} {D : Members} {p : Program} :
    (s.compile D).result = .ok p ↔
      (D.surveyed s.registry).failure = none ∧ p = D.program s.registry := by
  cases h : (D.surveyed s.registry).failure with
  | none =>
    have hr : (s.compile D).result = .ok (D.program s.registry) := Members.compile_result_ok h
    rw [hr, Except.ok.injEq, eq_comm]
    simp
  | some e =>
    have hr : (s.compile D).result = .error e := Members.compile_result_error h
    simp [hr]

theorem compile_listDocument :
    ((Session.start .builtIn).compile listDocument).result = .ok listSchema.program :=
  Session.compile_eq_ok_iff.2 ⟨by rw [Session.start, surveyed_listDocument], rfl⟩

/-- The references of a program are those of the table. -/
theorem Members.map_references_program (D : Members) (registry : Registry) :
    (D.program registry).references.map (·.1) = (D.table registry).map (·.1) := by
  simp [program, Function.comp_def]

/-- No reference has two entries in the table. -/
theorem Members.nodup_table (D : Members) (registry : Registry) :
    ((D.table registry).map (·.1)).Nodup := by
  obtain ⟨acts, todo, hrun, -⟩ := survey_run (Stage.Awaits.start D registry)
  exact (hrun.tells (.start D registry)).1.once

/-- **Compiling a document ends, and meets each reference once.**  No sequence of steps goes on
for ever, and the one that is taken ends with what the compilation leaves.  If there is a program,
its references are different from each other and, but for the one to the document itself, written
in the document; they are resolved in this order, each target is compiled once, and what each one
turned out to be is reported once, in the same order. -/
theorem compile_meets_once (s : Session) (D : Members) :
    Acc (Stage.After D s.registry) (.start D s.registry) ∧
    ∃ acts todo,
      Stage.Run D s.registry (.start D s.registry) acts
        ⟨(s.compile D).session.references, todo⟩ ∧
      Stage.Halts D ⟨(s.compile D).session.references, todo⟩ (s.compile D).failure? ∧
      (s.compile D).events = .compiling (D.get? "title") :: acts.filterMap Act.reported? ∧
      ∀ p, (s.compile D).result = .ok p → ∃ found : References,
        p.references.map (·.1) = rootReference :: found.map (·.1) ∧
        (p.references.map (·.1)).Nodup ∧
        (∀ e ∈ found, D.Writes e.1) ∧
        acts.filterMap Act.resolved? = found.map (·.1) ∧
        acts.filterMap Act.compiled? =
          found.filterMap (fun (r, res) => res.target?.map fun T => (r, T)) ∧
        (s.compile D).events.filter (·.isReference) = found.map fun (r, res) => res.event r := by
  have hawaits := Stage.Awaits.start D s.registry
  obtain ⟨acts, todo, hrun, hhalt, hreports⟩ := survey_run hawaits
  have htable : (s.compile D).session.references = D.table s.registry := rfl
  have hevents : (s.compile D).events =
      .compiling (D.get? "title") :: acts.filterMap Act.reported? := by
    rw [hreports]
    rfl
  refine ⟨survey_acc hawaits, acts, todo, hrun, ?_, hevents, ?_⟩
  · rw [s.compile_failure? D]
    exact hhalt
  · intro p hp
    obtain ⟨-, rfl⟩ := Session.compile_eq_ok_iff.1 hp
    obtain ⟨-, found, hmet, htells, hwritten⟩ := hrun.tells (.start D s.registry)
    have hfound : D.table s.registry = (rootReference, .found D) :: found := hmet
    refine ⟨found, ?_, ?_, hwritten, htells.resolved, htells.compiled, ?_⟩
    · rw [Members.map_references_program, hfound]
      rfl
    · rw [Members.map_references_program]
      exact D.nodup_table s.registry
    · rw [hevents]
      exact htells.reported

theorem compile_meets_once_listDocument :
    ((Session.start .builtIn).compile listDocument).result = .ok listSchema.program ∧
      ∃ found : References,
        listSchema.program.references.map (·.1) = rootReference :: found.map (·.1) ∧
        found.map (·.1) = ["list.json"] ∧
        ((Session.start .builtIn).compile listDocument).events.filter (·.isReference) =
          found.map fun (r, res) => res.event r := by
  obtain ⟨-, acts, todo, -, -, -, h⟩ := compile_meets_once (Session.start .builtIn) listDocument
  obtain ⟨found, hkeys, -, -, -, -, hevents⟩ := h _ compile_listDocument
  refine ⟨compile_listDocument, found, hkeys, ?_, hevents⟩
  rw [listSchema_program] at hkeys
  exact (List.cons.inj hkeys).2.symm

end JsonSchema
