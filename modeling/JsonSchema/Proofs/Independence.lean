/-
  Groups of keywords do not depend on each other.

  * `Members.Narrows`: a schema object has no more keywords than another one, and
    they hold the same.  It reaches no more, and holds no other obstacles.
  * `Session.verdict`: what a schema object that is compiled by a session says of
    a value.
  * `keywords_independent`: it says what its restrictions to the groups of
    keywords say.
-/
import JsonSchema.Proofs.KeywordGroups
import JsonSchema.Proofs.Reach

namespace JsonSchema

/-! ## Compiling what is narrower -/

namespace Members

/-- A schema object has no more keywords than another one, and they hold the same. -/
def Narrows (S' S : Members) : Prop := ∀ key v, S'.get? key = some v → S.get? key = some v

theorem narrows_restrict (S : Members) (keys : List String) : (S.restrict keys).Narrows S := by
  intro key v h
  rw [get?_restrict] at h
  split_ifs at h
  exact h

namespace Narrows

variable {S' S D T : Members} (h : S'.Narrows S) {key : String}

include h

theorem bind {α : Type} {f : Json → Option α} {a : α} (ha : (S'.get? key).bind f = some a) :
    (S.get? key).bind f = some a := by
  obtain ⟨v, hv, hf⟩ := Option.bind_eq_some_iff.1 ha
  rw [h key v hv]
  exact hf

theorem mem_schemas (hT : T ∈ (S'.schemas? key).getD []) : T ∈ (S.schemas? key).getD [] := by
  cases hs : S'.schemas? key with
  | none => simp [hs] at hT
  | some Ts =>
    rw [show S.schemas? key = some Ts from h.bind hs]
    simpa [hs] using hT

theorem mem_schema (hT : T ∈ (S'.schema? key).toList) : T ∈ (S.schema? key).toList := by
  rw [Option.mem_toList] at hT ⊢
  exact h.bind hT

theorem mem_named {e : String × Members} (he : e ∈ S'.named key) : e ∈ S.named key := by
  unfold named at he ⊢
  cases hs : S'.schema? key with
  | none => simp [hs] at he
  | some U =>
    rw [show S.schema? key = some U from h.bind hs]
    simpa [hs] using he

theorem mem_itemSchemas (hT : T ∈ S'.itemSchemas) : T ∈ S.itemSchemas := by
  unfold itemSchemas at hT ⊢
  cases hi : S'.schema? "items" with
  | some U =>
    rw [show S.schema? "items" = some U from h.bind hi]
    simpa [hi] using hT
  | none =>
    cases hs : S'.schemas? "items" with
    | none => simp [hi, hs] at hT
    | some Us =>
      -- an array is no object
      have hnone : S.schema? "items" = none := by
        obtain ⟨v, hv, hobjects⟩ := Option.bind_eq_some_iff.1 hs
        cases v with
        | array items => rw [schema?, h _ _ hv]; rfl
        | _ => cases hobjects
      rw [hnone, show S.schemas? "items" = some Us from h.bind hs]
      simp only [hi, hs, List.mem_append] at hT ⊢
      exact hT.imp_right h.mem_schema

theorem mem_propertySchemas (hT : T ∈ S'.propertySchemas) : T ∈ S.propertySchemas := by
  simp only [propertySchemas, List.mem_append, List.mem_map] at hT ⊢
  rcases hT with (⟨e, he, rfl⟩ | ⟨e, he, rfl⟩) | hT
  · exact Or.inl (Or.inl ⟨e, h.mem_named he, rfl⟩)
  · exact Or.inl (Or.inr ⟨e, h.mem_named he, rfl⟩)
  · exact Or.inr (h.mem_schema hT)

theorem mem_subschemas (hT : T ∈ S'.subschemas) : T ∈ S.subschemas := by
  simp only [subschemas, List.flatten_cons, List.flatten_nil, List.append_nil, List.mem_append]
    at hT ⊢
  rcases hT with hT | hT | hT | hT | hT | hT | hT
  · exact Or.inl (h.mem_schemas hT)
  · exact Or.inr (Or.inl (h.mem_schemas hT))
  · exact Or.inr (Or.inr (Or.inl (h.mem_schemas hT)))
  · exact Or.inr (Or.inr (Or.inr (Or.inl (h.mem_schema hT))))
  · exact Or.inr (Or.inr (Or.inr (Or.inr (Or.inl (h.mem_itemSchemas hT)))))
  · exact Or.inr (Or.inr (Or.inr (Or.inr (Or.inr (Or.inl (h.mem_propertySchemas hT))))))
  · obtain ⟨e, he, rfl⟩ := List.mem_map.1 hT
    exact Or.inr (Or.inr (Or.inr (Or.inr (Or.inr (Or.inr
      (List.mem_map.2 ⟨e, h.mem_named he, rfl⟩))))))

/-- What is reached from the narrower schema object is the object itself, or reached from the wider
one. -/
theorem reaches (hT : D.Reaches S' T) : T = S' ∨ D.Reaches S T := by
  induction hT with
  | refl => exact Or.inl rfl
  | subschema _ hU ih =>
    rcases ih with rfl | hreach
    · exact Or.inr (Reaches.refl.subschema (h.mem_subschemas hU))
    · exact Or.inr (hreach.subschema hU)
  | target _ hr hres ih =>
    rcases ih with rfl | hreach
    · exact Or.inr (Reaches.refl.target (h.bind hr) hres)
    · exact Or.inr (hreach.target hr hres)

/-- An obstacle in the narrower schema object is one in the wider one. -/
theorem obstructs {e : CompileError} (ho : D.Obstructs S' e) : D.Obstructs S e := by
  cases ho with
  | pattern hsource hd hne =>
    refine .pattern ?_ hd hne
    simp only [expressions, List.mem_append, Option.mem_toList, List.mem_map] at hsource ⊢
    rcases hsource with hsource | ⟨entry, he, rfl⟩
    · exact Or.inl (h.bind hsource)
    · exact Or.inr ⟨entry, h.mem_named he, rfl⟩
  | index hr hparts hlong => exact .index (h.bind hr) hparts hlong

end Narrows

end Members

/-- A session that compiles a schema object compiles a narrower one. -/
theorem Session.At.compiles_narrower {t : Session} {D S' S : Members} (ht : t.At D)
    (h : S'.Narrows S) (hS : ∃ rules, (t.compileRules S).result = .ok rules) :
    ∃ rules, (t.compileRules S').result = .ok rules := by
  rw [ht.compiles_iff] at hS ⊢
  intro T e hT ho
  rcases h.reaches hT with rfl | hreach
  · exact hS S e .refl (h.obstructs ho)
  · exact hS T e hreach ho

/-! ## Verdicts of sessions -/

/-- What a schema object that is compiled by a session at work on a document says of a value. -/
def Session.verdict (t : Session) (D : Members) (limit : ℕ) (S : Members) (c : Context) (v : Json) :
    Except (CompileError ⊕ Fault) Result :=
  match (t.compileRules S).result with
  | .error e => .error (.inl e)
  | .ok rules => (((t.compileRules S).session.program D).evaluate limit (.combined rules) c v :
      Except Fault Result).mapError .inr

namespace Session.At

variable {t : Session} {D S : Members}

variable (ht : t.At D) (hS : ∃ rules, (t.compileRules S).result = .ok rules) (limit : ℕ)
  (c : Context) (v : Json)

include ht hS

/-- A schema object that compiles says what its interpretation gives. -/
theorem verdict_eq : t.verdict D limit S c v =
    (S.interpret t.registry (D.pursue t.registry limit (limit - c.active.length)) c v :
      Except Fault Result).mapError .inr := by
  obtain ⟨rules, hrules⟩ := hS
  obtain ⟨hf, rfl⟩ := compileRules_eq_ok_iff.1 hrules
  obtain ⟨hat, hcovers⟩ := ht.compileRules hf
  unfold verdict
  rw [hrules]
  exact congrArg (Except.mapError Sum.inr)
    (Members.evaluate_eq_interpret hat.complete hcovers.known limit c v)

/-- The interpretation of a schema object that compiles never fails. -/
theorem interpret_total : ∃ r,
    (S.interpret t.registry (D.pursue t.registry limit (limit - c.active.length)) c v :
      Except Fault Result) = .ok r := by
  obtain ⟨rules, hrules⟩ := hS
  obtain ⟨hat, hcovers⟩ := ht.compileRules (compileRules_eq_ok_iff.1 hrules).1
  have hclosed : ((t.compileRules S).session.references.program D t.registry).Closed :=
    hat.complete.program_closed
  obtain ⟨r, hr⟩ := @Program.evaluate_total _ limit hclosed _
    (References.supports_rule hcovers.known) c v
  exact ⟨r, (Members.evaluate_eq_interpret hat.complete hcovers.known limit c v).symm.trans hr⟩

end Session.At

theorem mapM_mapError_ok {α β ε ε' : Type} {f : α → Except ε β} {g : ε → ε'} {l : List α}
    {results : List β} (h : l.mapM f = .ok results) :
    (l.mapM fun a => (f a).mapError g) = .ok results := by
  induction l generalizing results with
  | nil => simpa [pure, Except.pure] using h
  | cons a l ih =>
    rw [List.mapM_cons] at h ⊢
    cases ha : f a with
    | error e => simp [ha, bind, Except.bind] at h
    | ok b =>
      cases hl : l.mapM f with
      | error e => simp [ha, hl, bind, Except.bind] at h
      | ok bs =>
        rw [ih hl]
        simpa [ha, hl, bind, Except.bind, Except.mapError, pure, Except.pure] using h

/-- **Groups of keywords do not depend on each other.**  A session has compiled a document, and it
compiles a schema object.  Then it compiles the restrictions of the object to each group of
keywords, and, on every value, at every place and under every limit, what the object says is what
they say, merged in order: the same verdict for the same errors. -/
theorem keywords_independent {s : Session} {D S : Members} {p : Program} {rules : List Rule}
    (h : (s.compile D).result = .ok p)
    (hS : ((s.compile D).session.compileRules S).result = .ok rules) (limit : ℕ) (c : Context)
    (v : Json) :
    ∃ results,
      (keywordGroups.mapM fun group =>
        (s.compile D).session.verdict D limit (S.restrict group) c v) = .ok results ∧
      (s.compile D).session.verdict D limit S c v = .ok (.merge results) := by
  set t := (s.compile D).session
  have ht : t.At D := Session.at_of_compile h
  have hcompiles : ∀ group, ∃ rules, (t.compileRules (S.restrict group)).result = .ok rules :=
    fun group => ht.compiles_narrower (S.narrows_restrict group) ⟨rules, hS⟩
  obtain ⟨r, hr⟩ := ht.interpret_total ⟨rules, hS⟩ limit c v
  rw [ht.verdict_eq ⟨rules, hS⟩, hr]
  rw [Members.interpret_eq_restricted, Check.all_eq_map, List.mapM_map] at hr
  simp only [Function.comp_def] at hr
  cases hresults : keywordGroups.mapM fun group => ((S.restrict group).interpret t.registry
      (D.pursue t.registry limit (limit - c.active.length)) c v : Except Fault Result) with
  | error e =>
    rw [hresults] at hr
    cases hr
  | ok results =>
    rw [hresults] at hr
    refine ⟨results, ?_, congrArg (Except.mapError Sum.inr) hr.symm⟩
    rw [← mapM_mapError_ok (g := Sum.inr) hresults]
    exact mapM_congr_mem fun group _ => ht.verdict_eq (hcompiles group) limit c v

/-! ### A schema object of many groups -/

/-- A short text, or an object with a text in it that is a list. -/
def mixedSchema : Members :=
  [("maxLength", .int 5), ("required", .array [.string "text"]),
    ("type", .array [.string "string", .string "object"]), ("$ref", .string "#"),
    ("minLength", .int 3)]

/-- A schema object that meets nothing but the reference to the document is compiled. -/
theorem compileRules_of_steps {S : Members}
    (hsteps : S.steps .builtIn = [.reference rootReference]) :
    ((((Session.start .builtIn).compile listDocument).session.compileRules S).result) =
      .ok (S.rules
        (((Session.start .builtIn).compile listDocument).session.compileRules
          S).session.environment) := by
  have hat := Session.at_of_compile compile_listDocument
  refine Session.compileRules_eq_ok_iff.2 ⟨?_, rfl⟩
  rw [hat.survey_eq]
  change (survey _ _ _ (S.steps .builtIn)).failure = none
  have hknown : rootReference ∉
      ((Session.start .builtIn).compile listDocument).session.pending S := by
    intro hp
    have hnone := (List.mem_filter.1 hp).2
    cases hnone
  rw [hsteps, survey, if_neg hknown]
  simp only [survey]
  rfl

theorem keywords_independent_mixedSchema :
    ((Session.start .builtIn).compile listDocument).result = .ok listSchema.program ∧
      ∃ results,
        (keywordGroups.mapM fun group =>
          ((Session.start .builtIn).compile listDocument).session.verdict listDocument 64
            (mixedSchema.restrict group) (.start true) listValue) = .ok results ∧
        ((Session.start .builtIn).compile listDocument).session.verdict listDocument 64
          mixedSchema (.start true) listValue = .ok (.merge results) :=
  ⟨compile_listDocument,
    keywords_independent compile_listDocument (compileRules_of_steps rfl) 64 (.start true) listValue⟩

end JsonSchema
