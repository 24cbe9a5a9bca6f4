/-
  What a document compiles to.

  * `survey_sound`, `survey_covers`, `survey_closed`: a survey resolves the
    pending references that it meets, those of its steps and those of the
    targets that it finds.
  * `References.Complete`: a table knows all references that the document and
    the targets in the table mention, and says of each what it resolves to.
  * `Members.table`, `Members.compiled`: the table and the schema that come out.
  * `build_eq_ok_iff`: when a schema is built, and which one.
  * `Program.Closed`: following references never leaves the program.  This is so
    for the program of every complete table.
  * `Program.Node`: a rule is anywhere in a program.
-/
import JsonSchema.Proofs.Subschema

namespace JsonSchema

/-! ## Surveys -/

section
variable {document : Option Members} {registry : Registry} {pending : List String}
  {steps : List Step} {r : String} {res : Resolution}

theorem mem_without {r s : String} : s ∈ without r pending ↔ s ∈ pending ∧ s ≠ r := by
  simp [without]

/-- A table says what becomes of a reference. -/
def References.Knows (table : References) (r : String) : Prop := ∃ res, (r, res) ∈ table

theorem References.Knows.tail {table : References} (h : table.Knows r) (e : String × Resolution) :
    References.Knows (e :: table) r := by
  obtain ⟨res, h⟩ := h
  exact ⟨res, List.mem_cons_of_mem e h⟩

/-- What a survey enters into the table is what references resolve to. -/
theorem survey_sound (h : (r, res) ∈ (survey document registry pending steps).references) :
    resolve document r = .ok res ∧ r ∈ pending := by
  fun_induction survey document registry pending steps with
  | case1 => cases h
  | case2 pending e rest ih => exact ih h
  | case3 => cases h
  | case4 => cases h
  | case5 pending s rest hs resolution hr ih =>
    rcases List.mem_cons.1 h with h | h
    · cases h
      exact ⟨hr, hs⟩
    · obtain ⟨hres, hw⟩ := ih h
      exact ⟨hres, (mem_without.1 hw).1⟩
  | case6 pending s rest hs ih => exact ih h

/-- A survey that ends well has met all pending references of its steps. -/
theorem survey_covers (hf : (survey document registry pending steps).failure = none)
    (h : .reference r ∈ steps) (hp : r ∈ pending) :
    (survey document registry pending steps).references.Knows r := by
  fun_induction survey document registry pending steps with
  | case1 => cases h
  | case2 pending e rest ih =>
    rcases List.mem_cons.1 h with h | h
    · cases h
    · exact ih hf h hp
  | case3 => cases hf
  | case4 => cases hf
  | case5 pending s rest hs resolution hr ih =>
    by_cases he : r = s
    · subst he
      exact ⟨resolution, List.mem_cons_self⟩
    · rcases List.mem_cons.1 h with h | h
      · cases h
        exact absurd rfl he
      · have hw := mem_without.2 ⟨hp, he⟩
        exact (ih hf (List.mem_append_right _ h) hw).tail _
  | case6 pending s rest hs ih =>
    rcases List.mem_cons.1 h with h | h
    · cases h
      exact absurd hp hs
    · exact ih hf h hp

/-- A survey that ends well has met all pending references of the targets that it found. -/
theorem survey_closed (hf : (survey document registry pending steps).failure = none)
    {s : String} {T : Members}
    (hT : (s, .found T) ∈ (survey document registry pending steps).references)
    (h : T.Mentions r) (hp : r ∈ pending) :
    (survey document registry pending steps).references.Knows r := by
  fun_induction survey document registry pending steps with
  | case1 => cases hT
  | case2 pending e rest ih => exact ih hf hT hp
  | case3 => cases hf
  | case4 => cases hf
  | case5 pending t rest ht resolution hr ih =>
    by_cases he : r = t
    · subst he
      exact ⟨resolution, List.mem_cons_self⟩
    · have hw := mem_without.2 ⟨hp, he⟩
      rcases List.mem_cons.1 hT with hT | hT
      · -- the target just found: its steps are the next to be taken
        cases hT
        have hs : .reference r ∈ T.steps registry := T.mem_steps_iff.2 h
        exact (survey_covers hf (List.mem_append_left rest hs) hw).tail _
      · exact (ih hf hT hw).tail _
  | case6 pending t rest ht ih => exact ih hf hT hp

end

/-! ## Tables -/

/-- A table knows all that the targets in it mention, the document being one of them, and
resolves references as the document does. -/
structure References.Complete (table : References) (D : Members) : Prop where
  document : (rootReference, .found D) ∈ table
  sound : ∀ {r res}, (r, res) ∈ table → resolve (some D) r = .ok res
  closed : ∀ {s T r}, (s, .found T) ∈ table → T.Mentions r → table.Knows r

/-- What the survey of a document finds. -/
def Members.surveyed (D : Members) (registry : Registry) : Survey :=
  ((Session.start registry).takeUp D).survey D

/-- What the references of a document turn out to be. -/
def Members.table (D : Members) (registry : Registry) : References :=
  (rootReference, .found D) :: (D.surveyed registry).references

theorem resolve_rootReference (D : Members) : resolve (some D) rootReference = .ok (.found D) := rfl

/-- A target is the document or inside it. -/
theorem eq_or_inside_of_resolve {D T : Members} {r : String}
    (h : resolve (some D) r = .ok (.found T)) : T = D ∨ T.Inside D := by
  unfold resolve at h
  split at h
  · cases h
  · next heq =>
    cases heq
    exact Members.eq_or_inside_of_walk D h
  · next heq => cases heq
  · cases h

/-- What a target mentions is written in the document. -/
theorem mem_references_of_resolve {D T : Members} {s r : String}
    (h : resolve (some D) s = .ok (.found T)) (hr : T.Mentions r) : r ∈ Members.references D := by
  rcases eq_or_inside_of_resolve h with rfl | hT
  · exact Members.mem_references_of_mentions hr
  · exact hT.references_subset (Members.mem_references_of_mentions hr)

namespace Members

variable (D : Members) (registry : Registry)

/-- At the start of the survey all written references are pending but for the one to the
document itself. -/
theorem mem_pending {r : String} (h : r ∈ Members.references D) (hr : r ≠ rootReference) :
    r ∈ ((Session.start registry).takeUp D).pending D := by
  simp only [Session.pending, Session.takeUp, Option.map_some, Option.getD_some, List.mem_filter,
    List.mem_append, or_self]
  exact ⟨h, by simp [List.lookup_cons, beq_false_of_ne hr]⟩

/-- **The table of a document that compiles is complete.** -/
theorem table_complete (hf : (D.surveyed registry).failure = none) :
    (D.table registry).Complete D where
  document := List.mem_cons_self
  sound {r res} h := by
    rcases List.mem_cons.1 h with h | h
    · cases h
      exact resolve_rootReference D
    · exact (survey_sound h).1
  closed {s T r} hs hr := by
    by_cases he : r = rootReference
    · subst he
      exact ⟨.found D, List.mem_cons_self⟩
    rcases List.mem_cons.1 hs with hs | hs
    · cases hs
      have hp := mem_pending D registry (mem_references_of_mentions hr) he
      exact (survey_covers hf ((D.mem_steps_iff).2 hr) hp).tail _
    · have hp := mem_pending D registry (mem_references_of_resolve (survey_sound hs).1 hr) he
      exact (survey_closed hf hs hr hp).tail _

end Members

/-! ## Schemas -/

namespace Members

variable (D : Members) (registry : Registry)

/-- How schema objects are read once the document has been surveyed. -/
def environment : Environment := ⟨registry, (D.table registry).mention⟩

/-- The program of a document. -/
def program : Program where
  root := D.rule (D.environment registry)
  references := (D.table registry).map fun (r, res) => (r, res.rule (D.environment registry) r)

/-- The schema of a document. -/
def compiled (options : Options) : Schema :=
  ⟨D, registry, options.verbose, options.maxReferenceDepth.toNat, D.program registry⟩

variable {D registry}

theorem compile_result_error {e : CompileError} (h : (D.surveyed registry).failure = some e) :
    ((Session.start registry).compile D).result = .error e := by
  rw [surveyed] at h
  simp only [Session.compile, Session.conclude, h]

theorem compile_result_ok (h : (D.surveyed registry).failure = none) :
    ((Session.start registry).compile D).result = .ok (D.program registry) := by
  rw [surveyed] at h
  simp only [Session.compile, Session.conclude, h]
  rfl

end Members

open Members in
/-- **A schema is built if the formats have checks, the depth is positive, and the survey ends
well.** -/
theorem build_eq_ok_iff {D : Members} {options : Options} {s : Schema} :
    (Schema.build (.object D) options).schema = .ok s ↔
      ∃ registry, Registry.build options.formats = .ok registry ∧
        1 ≤ options.maxReferenceDepth ∧ (D.surveyed registry).failure = none ∧
        s = D.compiled registry options := by
  cases hr : Registry.build options.formats with
  | error e => simp [Schema.build, hr]
  | ok registry =>
    simp only [Except.ok.injEq, exists_eq_left']
    by_cases hd : options.maxReferenceDepth < 1
    · simp [Schema.build, hr, hd]
    · cases hf : (D.surveyed registry).failure with
      | some e =>
        have hc := compile_result_error hf
        simp [Schema.build, hr, hd, hc]
      | none =>
        have hc := compile_result_ok hf
        have hpos : 1 ≤ options.maxReferenceDepth := by omega
        simp only [Schema.build, hr, hd, if_false, hc, Except.ok.injEq, hpos, true_and]
        exact eq_comm

/-! ### A document that refers to itself -/

/-- Lists of texts, the rest of which may also follow a schema that is elsewhere.  The key of the
rest has to be escaped in a pointer. -/
def listDocument : Members :=
  [("properties", .object [
      ("text", .object [("type", .string "string")]),
      ("next/~", .object [("anyOf", .array [.object [("type", .string "null")],
        .object [("$ref", .string "#")], .object [("$ref", .string "list.json")]])])])]

/-- A list that holds a number in the second place. -/
def listValue : Json :=
  .object [("text", .string "first"), ("next/~", .object [("text", .int 2), ("next/~", .null)])]

theorem surveyed_listDocument : listDocument.surveyed .builtIn =
    ⟨[("list.json", .remote)], [.remote "list.json"], none⟩ := by
  have hsteps : Members.steps listDocument .builtIn =
      [.reference rootReference, .reference "list.json"] := rfl
  have hpending : ((Session.start .builtIn).takeUp listDocument).pending listDocument =
      ["list.json", "list.json"] := rfl
  have hresolve : resolve (some listDocument) "list.json" = .ok .remote := rfl
  change survey (some listDocument) .builtIn
    (((Session.start .builtIn).takeUp listDocument).pending listDocument)
    (Members.steps listDocument .builtIn) = _
  rw [hsteps, hpending, survey, if_neg (by decide), survey, if_pos (by decide), hresolve]
  simp only [Resolution.steps, List.append_nil, survey]
  rfl

/-- The schema of lists. -/
def listSchema : Schema := listDocument.compiled .builtIn .default

theorem build_listSchema :
    (Schema.build (.object listDocument) .default).schema = .ok listSchema :=
  build_eq_ok_iff.2 ⟨.builtIn, rfl, by decide, by rw [surveyed_listDocument], rfl⟩

/-- The program of lists, with its table spelled out. -/
theorem listSchema_program : listSchema.program =
    let table : References := [(rootReference, .found listDocument), ("list.json", .remote)]
    let env : Environment := ⟨.builtIn, table.mention⟩
    ⟨listDocument.rule env, [(rootReference, listDocument.rule env),
      ("list.json", .invalid (.remoteReference "list.json"))]⟩ := by
  simp only [listSchema, Members.compiled, Members.program, Members.environment, Members.table,
    surveyed_listDocument]
  rfl

/-! ## Closed programs -/

/-- No value meets the rule, as it stands for a problem. -/
def Rule.isInvalid : Rule → Bool
  | .invalid _ => true
  | _ => false

namespace Program

/-- The references that lead to a schema. -/
def resolvable (p : Program) : List String :=
  (p.references.filter fun (_, rule) => !rule.isInvalid).map (·.1)

/-- A rule from which references can be followed. -/
def Supports (p : Program) (rule : Rule) : Prop :=
  ∀ r, rule.Mentions r → r ∈ p.resolvable ∧ ∃ target, p.target? r = some target

theorem Supports.child {p : Program} {rule r : Rule} (h : p.Supports rule)
    (hr : r ∈ rule.children) : p.Supports r := by
  intro reference hm
  exact h reference (Rule.mentions_of_child hr hm)

/-- Following references never leaves the program. -/
structure Closed (p : Program) : Prop where
  root : p.Supports p.root
  target : ∀ {r rule}, p.target? r = some rule → p.Supports rule

/-- The rules anywhere in a program: its root, what its references stand for, its references that
lead to a schema, and all that is inside of these. -/
inductive Node (p : Program) : Rule → Prop
  | root : Node p p.root
  | target {r : String} {rule : Rule} : p.target? r = some rule → Node p rule
  | reference {r : String} {rule : Rule} : p.target? r = some rule → rule.isInvalid = false →
      Node p (.reference r)
  | child {rule r : Rule} : Node p rule → r ∈ rule.children → Node p r

/-- **References can be followed from anywhere in a closed program.** -/
theorem Closed.supports {p : Program} (hp : p.Closed) {rule : Rule} (h : p.Node rule) :
    p.Supports rule := by
  induction h with
  | root => exact hp.root
  | target ht => exact hp.target ht
  | @reference r rule ht hvalid =>
    intro r' hm
    obtain rfl := Rule.mentions_reference.1 hm
    have hentry : (r, rule) ∈ p.references.filter fun (_, rule) => !rule.isInvalid := by
      simp [mem_of_lookup ht, hvalid]
    exact ⟨List.mem_map.2 ⟨_, hentry, rfl⟩, rule, ht⟩
  | child _ hc ih => exact ih.child hc

end Program

theorem lookup_map {α β : Type} (f : String → α → β) (l : List (String × α)) (r : String) :
    (l.map fun (s, a) => (s, f s a)).lookup r = (l.lookup r).map (f r) := by
  induction l with
  | nil => rfl
  | cons entry l ih =>
    obtain ⟨s, a⟩ := entry
    simp only [List.map_cons, List.lookup_cons, ih]
    cases h : r == s with
    | true => rw [eq_of_beq h]; rfl
    | false => rfl

/-- What is said of a known reference is found when the reference is looked up. -/
theorem References.Knows.lookup {table : References} {r : String} (h : table.Knows r) :
    ∃ res, List.lookup r table = some res := by
  obtain ⟨res, h⟩ := h
  cases hn : List.lookup r table with
  | some res' => exact ⟨res', rfl⟩
  | none => simpa using List.lookup_eq_none_iff.1 hn _ h

/-- A reference in a rule stands for a target, or for one that is unknown. -/
theorem References.mentions_mention {table : References} {r s : String} :
    (table.mention s).Mentions r ↔
      s = r ∧ ∀ res, List.lookup s table = some res → ∃ T, res = .found T := by
  unfold References.mention
  cases h : List.lookup s table with
  | none => simp [Rule.mentions_reference]
  | some res => cases res <;> simp [Rule.mentions_reference, Rule.not_mentions_invalid]

/-- What the rule of a schema object mentions, the object mentions, and unless it is unknown it has a
target. -/
theorem References.mentions_rule {table : References} {registry : Registry} {T : Members}
    {r : String} (h : (T.rule ⟨registry, table.mention⟩).Mentions r) :
    T.Mentions r ∧ ∀ res, List.lookup r table = some res → ∃ U, res = .found U := by
  obtain ⟨s, hs, hm⟩ := (T.mentions_rule_iff _).1 h
  obtain ⟨rfl, hfound⟩ := mentions_mention.1 hm
  exact ⟨hs, hfound⟩

/-! ### Programs of tables -/

/-- The program of a document, given what its references turned out to be. -/
def References.program (table : References) (D : Members) (registry : Registry) : Program where
  root := D.rule ⟨registry, table.mention⟩
  references := table.map fun (r, res) => (r, res.rule ⟨registry, table.mention⟩ r)

theorem Members.program_eq (D : Members) (registry : Registry) :
    D.program registry = (D.table registry).program D registry := rfl

namespace References

variable {table : References} {D : Members} {registry : Registry}

theorem target?_program (r : String) : (table.program D registry).target? r =
    (table.lookup r).map fun res => res.rule ⟨registry, table.mention⟩ r :=
  lookup_map (fun s (res : Resolution) => res.rule ⟨registry, table.mention⟩ s) _ r

theorem mem_resolvable {r : String} {T : Members} (h : (r, .found T) ∈ table) :
    r ∈ (table.program D registry).resolvable := by
  have he : (r, T.rule ⟨registry, table.mention⟩) ∈ (table.program D registry).references :=
    List.mem_map.2 ⟨(r, .found T), h, rfl⟩
  exact List.mem_map.2 ⟨_, List.mem_filter.2 ⟨he, rfl⟩, rfl⟩

/-- The rule of a schema object supports the references in it, if the table knows them. -/
theorem supports_rule {T : Members} (hT : ∀ r, T.Mentions r → table.Knows r) :
    (table.program D registry).Supports (T.rule ⟨registry, table.mention⟩) := by
  intro r hr
  obtain ⟨hmentioned, hfound⟩ := mentions_rule hr
  obtain ⟨res, hres⟩ := (hT r hmentioned).lookup
  obtain ⟨U, rfl⟩ := hfound res hres
  refine ⟨mem_resolvable (mem_of_lookup hres), U.rule ⟨registry, table.mention⟩, ?_⟩
  rw [target?_program, hres]
  rfl

/-- **The program of a complete table is closed.** -/
theorem Complete.program_closed (hc : table.Complete D) :
    (table.program D registry).Closed where
  root := supports_rule fun _ => hc.closed hc.document
  target {r rule} h := by
    rw [target?_program, Option.map_eq_some_iff] at h
    obtain ⟨res, hres, rfl⟩ := h
    cases res with
    | found T => exact supports_rule fun _ => hc.closed (mem_of_lookup hres)
    | _ => exact fun _ hr => absurd hr (Rule.not_mentions_invalid _)

end References

end JsonSchema
