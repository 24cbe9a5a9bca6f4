/-
  Which keys of an object are declared, and which are additional.

  * `Members.EntryFor`: an entry of `properties` or `patternProperties` is for a
    key, whatever the entry holds.
  * `Members.Declared`: some entry for the key is a schema.
  * `Check.onProperties_eq_ok`: where the results on properties come from.
  * `additional_keys_have_no_schema`: `additionalProperties` is asked about the
    keys that are not declared, and about no others.
  * `named_key_is_additional`: a key that `properties` names, with an entry that
    is no schema, is refused as an additional one.
-/
import JsonSchema.Proofs.IgnoredKeywords
import JsonSchema.Proofs.Uniqueness

namespace JsonSchema

/-! ## Entries for keys -/

namespace Members

/-- The entries of the object that a keyword holds. -/
def entries (S : Members) (keyword : String) : Members := (S.schema? keyword).getD []

/-- An entry of `properties` or `patternProperties` is for a key: it stands under the key itself, or
under a pattern that matches somewhere in it. -/
inductive EntryFor (S : Members) (key : String) (entry : Json) : Prop
  | byKey : (key, entry) ∈ S.entries "properties" → EntryFor S key entry
  | byPattern {source : String} : (source, entry) ∈ S.entries "patternProperties" →
      (Pattern.ofSource source).searches key = true → EntryFor S key entry

/-- Some entry for the key is a schema. -/
def Declared (S : Members) (key : String) : Prop := ∃ T : Members, S.EntryFor key (.object T)

variable {S T : Members} {key name : String}

theorem mem_named : (name, T) ∈ S.named key ↔ (name, .object T) ∈ S.entries key := by
  simp only [named, entries, List.mem_filterMap, Option.map_eq_some_iff]
  constructor
  · rintro ⟨⟨name', v⟩, hv, U, hU, he⟩
    cases he
    obtain rfl := eq_object_of_members? hU
    exact hv
  · intro h
    exact ⟨(name, .object T), h, T, rfl, rfl⟩

/-- The names and patterns of schemas tell what is declared. -/
theorem declared_iff : S.Declared key ↔
    (((S.named "properties").map (·.1)).contains key ||
      ((S.named "patternProperties").map fun e => Pattern.ofSource e.1).any (·.searches key)) =
        true := by
  simp only [Bool.or_eq_true, List.contains_iff_mem, List.mem_map, List.any_map, List.any_eq_true,
    Function.comp_apply]
  constructor
  · rintro ⟨T, h | ⟨h, hs⟩⟩
    · exact .inl ⟨(key, T), mem_named.2 h, rfl⟩
    · exact .inr ⟨(_, T), mem_named.2 h, hs⟩
  · rintro (⟨⟨_, T⟩, h, rfl⟩ | ⟨⟨source, T⟩, h, hs⟩)
    · exact ⟨T, .byKey (mem_named.1 h)⟩
    · exact ⟨T, .byPattern (mem_named.1 h) hs⟩

instance : Decidable (S.Declared key) := decidable_of_iff _ declared_iff.symm

/-- Where all entries for a key are schemas, it is declared if there is one. -/
theorem declared_iff_of_objects (h : ∀ entry, S.EntryFor key entry → ∃ T, entry = .object T) :
    S.Declared key ↔ ∃ entry, S.EntryFor key entry := by
  constructor
  · rintro ⟨T, hT⟩
    exact ⟨_, hT⟩
  · rintro ⟨entry, hentry⟩
    obtain ⟨T, rfl⟩ := h entry hentry
    exact ⟨T, hentry⟩

end Members

/-! ## Where results come from -/

namespace Check

variable {checks before after : List (Check (Except Fault))} {check : Check (Except Fault)}
  {declared : List (String × Check (Except Fault))}
  {patterned : List (Pattern × Check (Except Fault))} {beyond : Rest (Except Fault)} {c : Context}
  {v : Json} {members : Members} {r : Result} {results : List Result}

/-- One of several checks has its result among theirs. -/
theorem all_append_cons_eq_ok (h : all (before ++ check :: after) c v = .ok r) :
    ∃ first x last, check c v = .ok x ∧ r = .merge (first ++ x :: last) := by
  rw [all_eq_map, List.mapM_append, List.mapM_cons] at h
  obtain ⟨all, hall, rfl⟩ := Observation.plain.gives_map.1 h
  obtain ⟨first, -, hall⟩ := Observation.plain.gives_bind.1 hall
  obtain ⟨rest, hrest, hall⟩ := Observation.plain.gives_bind.1 hall
  obtain ⟨x, hx, hrest⟩ := Observation.plain.gives_bind.1 hrest
  obtain ⟨last, -, hrest⟩ := Observation.plain.gives_bind.1 hrest
  obtain rfl := Observation.plain.gives_pure.1 hrest
  obtain rfl := Observation.plain.gives_pure.1 hall
  exact ⟨first, x, last, hx, rfl⟩

theorem all_singleton_eq_ok (h : all [check] c v = .ok r) :
    ∃ x, check c v = .ok x ∧ r = .merge [x] := by
  rw [all_eq_map] at h
  obtain ⟨results, hresults, rfl⟩ := Observation.plain.gives_map.1 h
  obtain ⟨x, rest, hx, hrest, rfl⟩ :=
    List.forall₂_cons_left_iff.1 (Observation.plain.gives_mapM.1 hresults)
  obtain rfl := List.forall₂_nil_left_iff.1 hrest
  exact ⟨x, hx, rfl⟩

/-- A result of checks by key is that of a check for a member. -/
theorem of_mem_onKeys (h : onKeys declared c members = .ok results) {x : Result}
    (hx : x ∈ results) : ∃ key value check, (key, value) ∈ members ∧ (key, check) ∈ declared ∧
      check (c.push key) value = .ok x := by
  obtain ⟨run, hrun, hx⟩ := exists_of_mem_forall₂ (Observation.plain.gives_mapM.1 h) hx
  obtain ⟨⟨key, check⟩, hcheck, hrun⟩ := List.mem_filterMap.1 hrun
  obtain ⟨value, hv, rfl⟩ := Option.map_eq_some_iff.1 hrun
  exact ⟨key, value, check, Members.mem_of_get? hv, hcheck, hx⟩

/-- If all patterns are well formed, a result of checks by pattern is that of a check for a member
that the pattern matches. -/
theorem exists_onMatches (hwell : ∀ e ∈ patterned, e.1.isWellFormed = true)
    {outcome : Except String (List Result)} (h : onMatches c members patterned = .ok outcome) :
    ∃ results, outcome = .ok results ∧ ∀ x ∈ results, ∃ key value pattern check,
      (key, value) ∈ members ∧ (pattern, check) ∈ patterned ∧ pattern.searches key = true ∧
        check (c.push key) value = .ok x := by
  induction patterned generalizing outcome with
  | nil =>
    cases h
    exact ⟨[], rfl, by simp⟩
  | cons e patterned ih =>
    obtain ⟨pattern, check⟩ := e
    rw [List.forall_mem_cons] at hwell
    rw [onMatches, if_pos hwell.1] at h
    obtain ⟨here, hhere, h⟩ := Observation.plain.gives_bind.1 h
    obtain ⟨outcome, houtcome, h⟩ := Observation.plain.gives_bind.1 h
    obtain rfl := Observation.plain.gives_pure.1 h
    obtain ⟨results, rfl, hresults⟩ := ih hwell.2 houtcome
    refine ⟨here ++ results, rfl, fun x hx => ?_⟩
    rcases List.mem_append.1 hx with hx | hx
    · obtain ⟨⟨key, value⟩, hm, hx⟩ :=
        exists_of_mem_forall₂ (Observation.plain.gives_mapM.1 hhere) hx
      obtain ⟨hm, hs⟩ := List.mem_filter.1 hm
      exact ⟨key, value, pattern, check, hm, List.mem_cons_self, hs, hx⟩
    · obtain ⟨key, value, pattern, check, hm, he, hs, hx⟩ := hresults x hx
      exact ⟨key, value, pattern, check, hm, List.mem_cons_of_mem _ he, hs, hx⟩

/-- A malformed pattern stops the checks by pattern. -/
theorem exists_onMatches_malformed (hmalformed : ∃ e ∈ patterned, e.1.isWellFormed = false)
    {outcome : Except String (List Result)} (h : onMatches c members patterned = .ok outcome) :
    ∃ e ∈ patterned, e.1.isWellFormed = false ∧ outcome = .error e.1.source := by
  induction patterned generalizing outcome with
  | nil => simp at hmalformed
  | cons e patterned ih =>
    obtain ⟨pattern, check⟩ := e
    rw [onMatches] at h
    split_ifs at h with hp
    · have hrest : ∃ e ∈ patterned, e.1.isWellFormed = false := by
        simpa [hp] using hmalformed
      obtain ⟨here, -, h⟩ := Observation.plain.gives_bind.1 h
      obtain ⟨outcome, houtcome, h⟩ := Observation.plain.gives_bind.1 h
      obtain rfl := Observation.plain.gives_pure.1 h
      obtain ⟨e, he, hwell, rfl⟩ := ih hrest houtcome
      exact ⟨e, List.mem_cons_of_mem _ he, hwell, rfl⟩
    · cases h
      exact ⟨_, List.mem_cons_self, by simpa using hp, rfl⟩

/-- **The results on properties are those of checks for members, and behind them those on what no
check is for.** -/
theorem onProperties_eq_ok (hwell : ∀ e ∈ patterned, e.1.isWellFormed = true)
    (h : onProperties declared patterned beyond c members = .ok r) :
    ∃ first last, r = .merge (first ++ last) ∧
      (∀ x ∈ first, ∃ key value check, (key, value) ∈ members ∧
        ((key, check) ∈ declared ∨
          ∃ pattern, (pattern, check) ∈ patterned ∧ pattern.searches key = true) ∧
        check (c.push key) value = .ok x) ∧
      beyond.results c (others (declared.map (·.1)) (patterned.map (·.1)) members) = .ok last := by
  unfold onProperties at h
  obtain ⟨first, hfirst, h⟩ := Observation.plain.gives_bind.1 h
  obtain ⟨outcome, houtcome, h⟩ := Observation.plain.gives_bind.1 h
  obtain ⟨second, rfl, hsecond⟩ := exists_onMatches hwell houtcome
  obtain ⟨third, hthird, h⟩ := Observation.plain.gives_bind.1 h
  obtain rfl := Observation.plain.gives_pure.1 h
  refine ⟨first ++ second, third, rfl, fun x hx => ?_, hthird⟩
  rcases List.mem_append.1 hx with hx | hx
  · obtain ⟨key, value, check, hm, hcheck, hx⟩ := of_mem_onKeys hfirst hx
    exact ⟨key, value, check, hm, .inl hcheck, hx⟩
  · obtain ⟨key, value, pattern, check, hm, hcheck, hs, hx⟩ := hsecond x hx
    exact ⟨key, value, check, hm, .inr ⟨pattern, hcheck, hs⟩, hx⟩

/-- **A malformed pattern is all that is reported on properties.** -/
theorem onProperties_malformed (hmalformed : ∃ e ∈ patterned, e.1.isWellFormed = false)
    (h : onProperties declared patterned beyond c members = .ok r) :
    ∃ e ∈ patterned, e.1.isWellFormed = false ∧
      r = c.fail (.object members) (.invalidPattern e.1.source) := by
  unfold onProperties at h
  obtain ⟨first, -, h⟩ := Observation.plain.gives_bind.1 h
  obtain ⟨outcome, houtcome, h⟩ := Observation.plain.gives_bind.1 h
  obtain ⟨e, he, hwell, rfl⟩ := exists_onMatches_malformed hmalformed houtcome
  obtain rfl := Observation.plain.gives_pure.1 h
  exact ⟨e, he, hwell, rfl⟩

end Check

/-! ## Additional keys -/

/-- The keywords on properties. -/
def propertyKeywords : List String := ["properties", "patternProperties", "additionalProperties"]

namespace Members

variable {S : Members} {c : Context} {members : Members} {r : Result}

/-- What `additionalProperties` says of a member, given what schema objects say. -/
def onAdditional {ε : Type} (S : Members) (f : Members → Context → Json → Except ε Result)
    (c : Context) (member : String × Json) : Except ε Result :=
  match S.get? "additionalProperties" with
  | some (.object T) => f T (c.push member.1) member.2
  | some (.bool false) => .ok ((c.push member.1).fail member.2 (.additionalProperty member.1))
  | _ => .ok .success

/-- The members that are not declared. -/
def notDeclared (S members : Members) : Members :=
  members.filter fun member => !decide (S.Declared member.1)

theorem others_eq (S : Members) (f : Members → Check (Except Fault)) (members : Members) :
    Check.others (((S.named "properties").map fun (name, T) => (name, f T)).map (·.1))
        (((S.named "patternProperties").map fun (source, T) => (Pattern.ofSource source, f T)).map
          (·.1)) members =
      Extra.ofMembers (S.notDeclared members) := by
  simp only [Check.others, notDeclared, List.map_map, Function.comp_def]
  refine congrArg Extra.ofMembers (List.filter_congr fun member _ => ?_)
  rw [Bool.eq_iff_iff, Bool.not_eq_true', decide_eq_false_iff_not, declared_iff]
  simp

/-- Where nothing is asked of the rest, all of it succeeds. -/
theorem merge_append_success (first : List Result) (members : Members) :
    Result.merge (first ++ members.map fun _ => .success) = .merge first := by
  simp [Result.merge, Result.success]

/-- **What becomes of the rest is what `additionalProperties` asks**, up to results that do not
count. -/
theorem rest_results {f : Members → Check (Except Fault)} {last : List Result}
    (h : (S.rest "additionalProperties" ((S.schema? "additionalProperties").map f)).results c
      (Extra.ofMembers members) = .ok last) :
    ∃ results, members.mapM (S.onAdditional f c) = .ok results ∧
      ∀ first, Result.merge (first ++ results) = .merge (first ++ last) := by
  have hallowed : ∀ {g : String × Json → Except Fault Result}, (g = fun _ => .ok .success) →
      last = [] → ∃ results, members.mapM g = .ok results ∧
        ∀ first, Result.merge (first ++ results) = .merge (first ++ last) := by
    rintro g rfl rfl
    refine ⟨members.map fun _ => .success, List.mapM_pure, fun first => ?_⟩
    rw [merge_append_success, List.append_nil]
  unfold rest schema? at h
  unfold onAdditional
  cases hv : S.get? "additionalProperties" with
  | none =>
    rw [hv] at h
    cases h
    exact hallowed rfl rfl
  | some v =>
    rw [hv] at h
    cases v with
    | object T =>
      refine ⟨last, ?_, fun _ => rfl⟩
      change (Extra.ofMembers members).mapM (fun e => f T (c.push e.part) e.value) = .ok last at h
      rwa [Extra.ofMembers, List.mapM_map] at h
    | bool b =>
      cases b with
      | false =>
        cases h
        refine ⟨_, List.mapM_pure, fun first => ?_⟩
        simp [Extra.ofMembers, Function.comp_def]
      | true =>
        cases h
        exact hallowed rfl rfl
    | _ =>
      cases h
      exact hallowed rfl rfl

/-- The results on the properties of an object, given how schema objects are interpreted. -/
theorem properties_eq_ok {f : Members → Check (Except Fault)}
    (h : (KeywordGroup.properties f).check S c (.object members) = (.ok r : Except Fault Result)) :
    ((∀ e ∈ S.named "patternProperties", (Pattern.ofSource e.1).isWellFormed = true) →
      ∃ first last, Result.merge [r] = .merge (first ++ last) ∧
        (∀ x ∈ first, ∃ key value T, (key, value) ∈ members ∧ S.EntryFor key (.object T) ∧
          f T (c.push key) value = .ok x) ∧
        (S.notDeclared members).mapM (S.onAdditional f c) = .ok last) ∧
    ((∃ e ∈ S.named "patternProperties", (Pattern.ofSource e.1).isWellFormed = false) →
      ∃ e ∈ S.named "patternProperties", (Pattern.ofSource e.1).isWellFormed = false ∧
        Result.merge [r] = c.fail (.object members) (.invalidPattern e.1)) := by
  have hgroup : (KeywordGroup.properties f).check S = Check.object ⟨none, none, none⟩
      (Check.onProperties ((S.named "properties").map fun (name, T) => (name, f T))
        ((S.named "patternProperties").map fun (source, T) => (.ofSource source, f T))
        (S.rest "additionalProperties" ((S.schema? "additionalProperties").map f))) := by
    rw [← onProperties_eq]
    rfl
  rw [hgroup] at h
  obtain ⟨x, hx, h⟩ := Observation.plain.gives_bind.1 h
  obtain rfl := Observation.plain.gives_pure.1 h
  -- the limits are not set
  have hmerge : Result.merge [.merge [c.check (.object members)
      (PropertyLimits.violations ⟨none, none, none⟩ members), x]] = .merge [x] := by
    simp [PropertyLimits.violations, lengthViolations]
  rw [hmerge]
  refine ⟨fun hwell => ?_, fun hmalformed => ?_⟩
  · obtain ⟨first, last, rfl, hfirst, hlast⟩ :=
      Check.onProperties_eq_ok (List.forall_mem_map.2 hwell) hx
    rw [others_eq] at hlast
    obtain ⟨results, hresults, heq⟩ := rest_results hlast
    refine ⟨first, results, ?_, fun y hy => ?_, hresults⟩
    · rw [Result.merge_merge, heq]
    · obtain ⟨key, value, check, hm, hcheck, hy⟩ := hfirst y hy
      rcases hcheck with hcheck | ⟨pattern, hcheck, hs⟩
      · obtain ⟨⟨name, T⟩, hT, he⟩ := List.mem_map.1 hcheck
        cases he
        exact ⟨_, _, T, hm, .byKey (mem_named.1 hT), hy⟩
      · obtain ⟨⟨source, T⟩, hT, he⟩ := List.mem_map.1 hcheck
        cases he
        exact ⟨_, _, T, hm, .byPattern (mem_named.1 hT) hs, hy⟩
  · obtain ⟨e, he, hwell, rfl⟩ := Check.onProperties_malformed (by simpa using hmalformed) hx
    obtain ⟨e, hmem, rfl⟩ := List.mem_map.1 he
    exact ⟨e, hmem, hwell, rfl⟩

end Members

/-! ## Verdicts on properties -/

theorem Members.EntryFor.mem_subschemas {S T : Members} {key : String}
    (h : S.EntryFor key (.object T)) : T ∈ S.subschemas := by
  simp only [subschemas, List.flatten_cons, List.mem_append, propertySchemas, List.mem_map]
  rcases h with h | ⟨h, -⟩
  · exact .inr (.inr (.inr (.inr (.inr (.inl (.inl (.inl ⟨_, mem_named.2 h, rfl⟩)))))))
  · exact .inr (.inr (.inr (.inr (.inr (.inl (.inl (.inr ⟨_, mem_named.2 h, rfl⟩)))))))

theorem Members.mem_subschemas_additional {S T : Members}
    (h : S.get? "additionalProperties" = some (.object T)) : T ∈ S.subschemas := by
  have hT : S.schema? "additionalProperties" = some T := by rw [schema?, h]; rfl
  simp only [subschemas, List.flatten_cons, List.mem_append, propertySchemas, Option.mem_toList]
  exact .inr (.inr (.inr (.inr (.inr (.inl (.inr hT))))))

namespace Session.At

variable {t : Session} {D S T : Members} {limit : ℕ} {c c' : Context} {v : Json}
  {members : Members} {x : Result}

section
variable (ht : t.At D) (hS : ∃ rules, (t.compileRules S).result = .ok rules)

include ht hS

/-- A subschema of what compiles says what its interpretation gives. -/
theorem verdict_subschema (hT : T ∈ S.subschemas) (limit : ℕ) (c : Context) (v : Json) :
    t.verdict D limit T c v =
      (T.interpret t.registry (D.pursue t.registry limit (limit - c.active.length)) c v :
        Except Fault Result).mapError .inr := by
  refine ht.verdict_eq (ht.compiles_iff.2 fun U e hU => ?_) limit c v
  exact ht.compiles_iff.1 hS U e ((Members.Reaches.refl.subschema hT).trans hU)

/-- What `additionalProperties` says by interpretation is what it says when it is compiled. -/
theorem onAdditional_verdict (limit : ℕ) (c : Context) (member : String × Json) :
    S.onAdditional (t.verdict D limit) c member =
      (S.onAdditional (fun T => T.interpret t.registry
        (D.pursue t.registry limit (limit - c.active.length))) c member).mapError .inr := by
  unfold Members.onAdditional
  split
  · next T hT => exact ht.verdict_subschema hS (Members.mem_subschemas_additional hT) limit _ _
  · rfl
  · rfl

end

end Session.At

/-- **`additionalProperties` is asked about the keys that no schema is for, and about no others.**
A session has compiled a document, and it compiles a schema object.  At every place and under every
limit, what the schema object says of an object is merged from results of which one is what its
keywords on properties say alone.  If all patterns with a schema are well formed, that one is merged
from verdicts of schemas for the keys that are declared and, behind them, what
`additionalProperties` says of each member whose key is not declared, in the order of the object.
If one is malformed, nothing else is reported.  So if all entries for a key are schemas and the key
is not declared, then there is no entry for it. -/
theorem additional_keys_have_no_schema {s : Session} {D S : Members} {p : Program}
    {rules : List Rule} (h : (s.compile D).result = .ok p)
    (hS : ((s.compile D).session.compileRules S).result = .ok rules) (limit : ℕ) (c : Context)
    (members : Members) :
    (∃ before r after,
      (s.compile D).session.verdict D limit S c (.object members) =
        .ok (.merge (before ++ r :: after)) ∧
      (s.compile D).session.verdict D limit (S.restrict propertyKeywords) c (.object members) =
        .ok r ∧
      ((∀ source T, (source, .object T) ∈ S.entries "patternProperties" →
          (Pattern.ofSource source).isWellFormed = true) →
        ∃ first last, r = .merge (first ++ last) ∧
          (∀ x ∈ first, ∃ key value T, (key, value) ∈ members ∧ S.EntryFor key (.object T) ∧
            (s.compile D).session.verdict D limit T (c.push key) value = .ok x) ∧
          (members.filter fun member => !decide (S.Declared member.1)).mapM
            (S.onAdditional ((s.compile D).session.verdict D limit) c) = .ok last) ∧
      ((∃ source T, (source, .object T) ∈ S.entries "patternProperties" ∧
          (Pattern.ofSource source).isWellFormed = false) →
        ∃ source T, (source, .object T) ∈ S.entries "patternProperties" ∧
          (Pattern.ofSource source).isWellFormed = false ∧
          r = c.fail (.object members) (.invalidPattern source))) ∧
    ∀ key, (∀ entry, S.EntryFor key entry → ∃ T, entry = .object T) → ¬S.Declared key →
      ∀ entry, ¬S.EntryFor key entry := by
  refine ⟨?_, fun key hobjects hkey entry hentry =>
    hkey ((Members.declared_iff_of_objects hobjects).2 ⟨entry, hentry⟩)⟩
  set t := (s.compile D).session
  have ht : t.At D := Session.at_of_compile h
  obtain ⟨r, hr⟩ := ht.interpret_total ⟨rules, hS⟩ limit c (.object members)
  -- the keywords on properties are one of the groups
  obtain ⟨before, after, hsplit⟩ := List.append_of_mem
    (show propertyKeywords ∈ keywordGroups by decide)
  have hall := hr
  rw [Members.interpret_eq_restricted, hsplit, List.map_append, List.map_cons] at hall
  obtain ⟨first, x, last, hx, rfl⟩ := Check.all_append_cons_eq_ok hall
  have hgroup := ht.compiles_narrower (S.narrows_restrict propertyKeywords) ⟨rules, hS⟩
  refine ⟨first, x, last, ?_, ?_, ?_⟩
  · rw [ht.verdict_eq ⟨rules, hS⟩, hr]
    rfl
  · rw [ht.verdict_eq hgroup, hx]
    rfl
  -- and alone they say what that group does
  set f : Members → Check (Except Fault) := fun T => T.interpret t.registry
    (D.pursue t.registry limit (limit - c.active.length)) with hf
  have hgroups : KeywordGroup.properties f ∈ Members.groups t.registry
      (D.pursue t.registry limit (limit - c.active.length)) := by
    simp [Members.groups, KeywordGroup.inOrder, f]
  have hx' : Check.all [(KeywordGroup.properties f).check S] c (.object members) = .ok x :=
    (congrFun (congrFun (S.interpret_restrict _ _ hgroups) c) _).symm.trans hx
  obtain ⟨y, hy, rfl⟩ := Check.all_singleton_eq_ok hx'
  obtain ⟨hwell, hmalformed⟩ := Members.properties_eq_ok hy
  refine ⟨fun hpatterns => ?_, ?_⟩
  · obtain ⟨first, last, heq, hfirst, hlast⟩ :=
      hwell fun e he => hpatterns e.1 e.2 (Members.mem_named.1 he)
    refine ⟨first, last, heq, fun z hz => ?_, ?_⟩
    · obtain ⟨key, value, T, hm, hT, hz⟩ := hfirst z hz
      refine ⟨key, value, T, hm, hT, ?_⟩
      rw [ht.verdict_subschema ⟨rules, hS⟩ hT.mem_subschemas]
      exact congrArg (Except.mapError _) hz
    · rw [funext (ht.onAdditional_verdict ⟨rules, hS⟩ limit c)]
      exact mapM_mapError_ok hlast
  · rintro ⟨source, T, he, hmal⟩
    obtain ⟨⟨source, T⟩, he, hmal, heq⟩ := hmalformed ⟨(source, T), Members.mem_named.2 he, hmal⟩
    exact ⟨source, T, Members.mem_named.1 he, hmal, heq⟩

/-! ### Entries that are no schemas -/

/-- A schema object with an entry that is no schema under a name, and with one under a pattern. -/
def declaringSchema : Members :=
  [("properties", .object [("id", .object [("$ref", .string "#")]), ("b", .bool true)]),
    ("patternProperties", .object [("x", .object []), ("y", .null)]),
    ("additionalProperties", .bool false)]

/-- Two members with a schema among two for which there is only an entry that is none. -/
def declaredMembers : Members :=
  [("y", .null), ("xx", .int 1), ("id", .string "first"), ("b", .int 2)]

theorem notDeclared_declaredMembers :
    (declaredMembers.filter fun member => !decide (declaringSchema.Declared member.1)) =
      [("y", .null), ("b", .int 2)] := rfl

theorem additional_keys_have_no_schema_declaringSchema :
    ((Session.start .builtIn).compile listDocument).result = .ok listSchema.program ∧
      (∀ source T, (source, .object T) ∈ declaringSchema.entries "patternProperties" →
        (Pattern.ofSource source).isWellFormed = true) ∧
      ∃ before first after,
        ((Session.start .builtIn).compile listDocument).session.verdict listDocument 64
          declaringSchema (.start false) (.object declaredMembers) =
            .ok (.merge (before ++ .merge (first ++
              [.failure [.mk "/y" .null (.additionalProperty "y") []],
                .failure [.mk "/b" (.int 2) (.additionalProperty "b") []]]) :: after)) := by
  have hpatterns : ∀ source T, (source, Json.object T) ∈
      declaringSchema.entries "patternProperties" →
        (Pattern.ofSource source).isWellFormed = true := by
    intro source T h
    have h' : (source, Json.object T) ∈ [("x", Json.object []), ("y", .null)] := h
    simp only [List.mem_cons, Prod.mk.injEq, List.not_mem_nil, or_false, reduceCtorEq,
      and_false] at h'
    obtain ⟨rfl, -⟩ := h'
    decide +kernel
  obtain ⟨⟨before, r, after, hr, -, hwell, -⟩, -⟩ := additional_keys_have_no_schema
    compile_listDocument (compileRules_of_steps (S := declaringSchema) rfl) 64 (.start false)
    declaredMembers
  obtain ⟨first, last, rfl, -, hlast⟩ := hwell hpatterns
  rw [notDeclared_declaredMembers] at hlast
  obtain rfl := Except.ok.inj hlast
  exact ⟨compile_listDocument, hpatterns, before, first, after, hr⟩

/-- A document that names one key, with an entry that is no schema, and allows no others. -/
def namingDocument : Members :=
  [("properties", .object [("a", .bool true)]), ("additionalProperties", .bool false)]

theorem named_key_is_additional :
    namingDocument.EntryFor "a" (.bool true) ∧
      ∃ schema, (Schema.build (.object namingDocument) .default).schema = .ok schema ∧
        schema.validate? (.object [("a", .int 1)]) =
          .ok (.failure [.mk "/a" (.int 1) (.additionalProperty "a") []]) := by
  have hr : Registry.build Options.default.formats = .ok .builtIn := rfl
  have hsteps : namingDocument.steps .builtIn = [] := rfl
  exact ⟨.byKey List.mem_cons_self, _, build_of_steps_eq_nil hr (by decide) hsteps, rfl⟩

end JsonSchema
