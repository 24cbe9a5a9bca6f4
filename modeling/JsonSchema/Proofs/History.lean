/-
  What a session compiles does not depend on what it has compiled before.

  * `Members.rules_congr`: the rules of a schema object depend on what the
    references that it mentions stand for, and on no others.
  * `Session.At.lookup_eq`: what is known of a reference is a function of the
    reference and the document, so two sessions at a document that know it agree.
  * `Program.Leads`, `Program.Agree`: which references are come to from rules, and
    that two programs have the same targets for these.
  * `Session.after`, `Session.Compiles`: what a session has done.
  * `history_irrelevant`: a document is compiled as in a fresh session, and so is
    each schema object after it.
-/
import JsonSchema.Proofs.Reach

namespace JsonSchema

/-! ## Rules and what is mentioned -/

namespace Members

section
variable {S : Members} {env env' : Environment} {key : String}

theorem schemas_congr (wrap : List Rule → Rule)
    (h : ∀ T ∈ (S.schemas? key).getD [], T.rule env = T.rule env') :
    ((S.schemas? key).map fun Ts => wrap (Ts.map fun T => T.rule env)) =
      (S.schemas? key).map fun Ts => wrap (Ts.map fun T => T.rule env') := by
  refine Option.map_congr fun Ts hTs => congrArg wrap (List.map_congr_left fun T hT => h T ?_)
  rw [hTs]
  exact hT

theorem schema_congr (wrap : Rule → Rule)
    (h : ∀ T ∈ (S.schema? key).toList, T.rule env = T.rule env') :
    ((S.schema? key).map fun T => wrap (T.rule env)) =
      (S.schema? key).map fun T => wrap (T.rule env') :=
  Option.map_congr fun T hT => congrArg wrap (h T (Option.mem_toList.2 hT))

theorem named_congr {α : Type} (name : String → α)
    (h : ∀ T ∈ (S.named key).map (·.2), T.rule env = T.rule env') :
    ((S.named key).map fun e => (name e.1, e.2.rule env)) =
      (S.named key).map fun e => (name e.1, e.2.rule env') :=
  List.map_congr_left fun e he => by rw [h e.2 (List.mem_map.2 ⟨e, he, rfl⟩)]

theorem additional_congr (h : ∀ T ∈ (S.schema? key).toList, T.rule env = T.rule env') :
    S.additional env key = S.additional env' key := by
  unfold additional
  cases hs : S.schema? key with
  | none => rfl
  | some T => exact congrArg Additional.governed (h T (Option.mem_toList.2 hs))

theorem itemRules_congr (h : ∀ T ∈ S.itemSchemas, T.rule env = T.rule env') :
    S.itemRules env = S.itemRules env' := by
  unfold itemSchemas at h
  unfold itemRules
  cases hT : S.schema? "items" with
  | some T =>
    rw [hT] at h
    exact congrArg ItemRules.every (h T List.mem_cons_self)
  | none =>
    cases hTs : S.schemas? "items" with
    | none => rfl
    | some Ts =>
      rw [hT, hTs] at h
      obtain ⟨hitems, hadditional⟩ := List.forall_mem_append.1 h
      exact congrArg₂ ItemRules.positional (List.map_congr_left hitems)
        (additional_congr hadditional)

theorem propertyRules_congr (h : ∀ T ∈ S.propertySchemas, T.rule env = T.rule env') :
    S.propertyRules env = S.propertyRules env' := by
  obtain ⟨hnamed, hadditional⟩ := List.forall_mem_append.1 h
  obtain ⟨hdeclared, hpatterned⟩ := List.forall_mem_append.1 hnamed
  unfold propertyRules
  rw [named_congr (fun name => name) hdeclared, named_congr Pattern.ofSource hpatterned,
    additional_congr hadditional]

theorem dependencyRules_congr
    (h : ∀ T ∈ (S.named "dependencies").map (·.2), T.rule env = T.rule env') :
    S.dependencyRules env = S.dependencyRules env' := by
  unfold dependencyRules
  refine List.filterMap_congr fun (name, needs) he => ?_
  simp only [dependency?]
  cases hT : needs.members? with
  | none => rfl
  | some T =>
    have hmem : (name, T) ∈ S.named "dependencies" :=
      List.mem_filterMap.2 ⟨(name, needs), he, by simp [hT]⟩
    exact congrArg (fun rule => some (Rule.dependentRule name rule))
      (h T (List.mem_map.2 ⟨_, hmem, rfl⟩))

/-- The rules of a schema object depend on its `$ref` and on the rules of its subschemas. -/
theorem rules_congr_subschemas (hregistry : env.registry = env'.registry)
    (hr : ∀ r, S.string? "$ref" = some r → env.reference r = env'.reference r)
    (hT : ∀ T ∈ S.subschemas, T.rule env = T.rule env') : S.rules env = S.rules env' := by
  have href : (S.string? "$ref").map env.reference = (S.string? "$ref").map env'.reference :=
    Option.map_congr hr
  have hformat : formatRule env = formatRule env' := by
    funext name
    simp only [formatRule, hregistry]
  simp only [subschemas, List.flatten_cons, List.flatten_nil, List.append_nil,
    List.forall_mem_append] at hT
  obtain ⟨hall, hany, hone, hnot, hitems, hproperties, hdependencies⟩ := hT
  rw [rules_eq, rules_eq, href, hformat, schemas_congr .allOf hall, schemas_congr .anyOf hany,
    schemas_congr .oneOf hone, schema_congr .not hnot, itemRules_congr hitems,
    propertyRules_congr hproperties, dependencyRules_congr hdependencies]

end

/-- **The rules of a schema object depend on what the references that it mentions stand for, and
on no others.** -/
theorem rules_congr {S : Members} {env env' : Environment}
    (hregistry : env.registry = env'.registry)
    (h : ∀ r, S.Mentions r → env.reference r = env'.reference r) : S.rules env = S.rules env' := by
  induction S using subschemas_induction with
  | step S ih =>
    refine rules_congr_subschemas hregistry (fun r hr => h r (.here hr)) ?_
    intro T hT
    exact congrArg Rule.combined (ih T hT fun r hr => h r (.inside hT hr))

end Members

/-! ## Programs that agree -/

/-- Following references from rules, one comes to a reference. -/
inductive Program.Leads (p : Program) (rules : List Rule) : String → Prop
  | here {rule : Rule} {r : String} : rule ∈ rules → rule.Mentions r → Leads p rules r
  | follow {r s : String} {rule : Rule} : Leads p rules r → p.target? r = some rule →
      rule.Mentions s → Leads p rules s

/-- Following references from rules, one comes to the same in two programs: to the same references,
which all have a target, the same in both. -/
structure Program.Agree (p q : Program) (rules : List Rule) : Prop where
  leads : ∀ r, p.Leads rules r ↔ q.Leads rules r
  target : ∀ r, p.Leads rules r → ∃ rule, p.target? r = some rule ∧ q.target? r = some rule

/-- It is enough that one comes to the same targets in one of them. -/
theorem Program.Agree.of_targets {p q : Program} {rules : List Rule}
    (h : ∀ r, p.Leads rules r → ∃ rule, p.target? r = some rule ∧ q.target? r = some rule) :
    p.Agree q rules where
  target := h
  leads r := by
    constructor
    · intro hr
      induction hr with
      | here hrule hm => exact .here hrule hm
      | follow hr ht hm ih =>
        obtain ⟨rule, hp, hq⟩ := h _ hr
        rw [hp] at ht
        exact .follow ih (ht ▸ hq) hm
    · intro hr
      induction hr with
      | here hrule hm => exact .here hrule hm
      | follow _ ht hm ih =>
        obtain ⟨rule, hp, hq⟩ := h _ ih
        rw [hq] at ht
        exact .follow ih (ht ▸ hp) hm

/-! ## Sessions at one document -/

namespace Session

variable {t u : Session} {D S : Members} {r : String} {rules : List Rule}

theorem environment_reference (t : Session) : t.environment.reference = t.references.mention := rfl

theorem target?_program (t : Session) (D : Members) (r : String) :
    (t.program D).target? r = (t.references.lookup r).map fun res => res.rule t.environment r :=
  t.references.target?_program r

namespace At

/-- **What is known of a reference depends on the document only.** -/
theorem lookup_eq (ht : t.At D) (hu : u.At D) (hr : t.references.Knows r)
    (hr' : u.references.Knows r) : t.references.lookup r = u.references.lookup r := by
  obtain ⟨res, hres⟩ := hr.lookup
  obtain ⟨res', hres'⟩ := hr'.lookup
  have hsame : res = res' := Except.ok.inj
    ((ht.complete.sound (mem_of_lookup hres)).symm.trans (hu.complete.sound (mem_of_lookup hres')))
  rw [hres, hres', hsame]

/-- The rules of a schema object whose references are all known depend on the document only. -/
theorem rules_eq (ht : t.At D) (hu : u.At D) (hregistry : t.registry = u.registry)
    (hS : ∀ r, S.Mentions r → t.references.Knows r)
    (hS' : ∀ r, S.Mentions r → u.references.Knows r) :
    S.rules t.environment = S.rules u.environment := by
  refine Members.rules_congr hregistry fun r hr => ?_
  rw [environment_reference, environment_reference, References.mention, References.mention,
    ht.lookup_eq hu (hS r hr) (hS' r hr)]

/-- What a known reference stands for depends on the document only. -/
theorem target?_eq (ht : t.At D) (hu : u.At D) (hregistry : t.registry = u.registry)
    (hr : t.references.Knows r) (hr' : u.references.Knows r) :
    ∃ rule, (t.program D).target? r = some rule ∧ (u.program D).target? r = some rule := by
  obtain ⟨res, hres⟩ := hr.lookup
  have hres' := (ht.lookup_eq hu hr hr').symm.trans hres
  rw [target?_program, target?_program, hres, hres', Option.map_some, Option.map_some]
  refine ⟨_, rfl, congrArg some ?_⟩
  cases res with
  | found T =>
    have hT := ht.rules_eq hu hregistry (fun _ => ht.complete.closed (mem_of_lookup hres))
      fun _ => hu.complete.closed (mem_of_lookup hres')
    exact congrArg Rule.combined hT.symm
  | _ => rfl

/-- All that one comes to in one session is known in both, as their tables are complete. -/
theorem knows_of_leads (ht : t.At D) (hu : u.At D)
    (hS : ∀ r, S.Mentions r → t.references.Knows r) (hS' : ∀ r, S.Mentions r → u.references.Knows r)
    (hr : (t.program D).Leads (S.rules t.environment) r) :
    t.references.Knows r ∧ u.references.Knows r := by
  induction hr with
  | here hrule hm =>
    have hrule : (S.rule t.environment).Mentions _ := Rule.mentions_of_child hrule hm
    obtain ⟨hm, -⟩ := References.mentions_rule hrule
    exact ⟨hS _ hm, hS' _ hm⟩
  | follow _ htarget hm ih =>
    obtain ⟨res, hres⟩ := ih.1.lookup
    have hres' := (ht.lookup_eq hu ih.1 ih.2).symm.trans hres
    rw [target?_program, hres] at htarget
    cases htarget
    cases res with
    | found T =>
      obtain ⟨hm, -⟩ := References.mentions_rule hm
      exact ⟨ht.complete.closed (mem_of_lookup hres) hm,
        hu.complete.closed (mem_of_lookup hres') hm⟩
    | _ => exact absurd hm (Rule.not_mentions_invalid _)

end At

/-- A session has compiled a schema object to rules: no obstacle is reached from the object, all
that it mentions is known, and the rules are those with what is known. -/
structure Holds (t : Session) (D S : Members) (rules : List Rule) : Prop where
  clear : ∀ T e, D.Reaches S T → ¬D.Obstructs T e
  known : ∀ r, S.Mentions r → t.references.Knows r
  rules : rules = S.rules t.environment

theorem At.holds_of_compileRules (ht : t.At D) (h : (t.compileRules S).result = .ok rules) :
    (t.compileRules S).session.At D ∧ (t.compileRules S).session.Holds D S rules := by
  obtain ⟨hf, hrules⟩ := compileRules_eq_ok_iff.1 h
  obtain ⟨hat, hcovers⟩ := ht.compileRules hf
  exact ⟨hat, ht.compiles_iff.1 ⟨rules, h⟩, hcovers.known, hrules⟩

/-- What has been compiled in one session is compiled to the same in another. -/
theorem Holds.of_at (h : t.Holds D S rules) (ht : t.At D) (hu : u.At D)
    (hregistry : t.registry = u.registry) (hS : ∀ r, S.Mentions r → u.references.Knows r) :
    u.Holds D S rules :=
  ⟨h.clear, hS, h.rules.trans (ht.rules_eq hu hregistry h.known hS)⟩

/-- **What is come to from compiled rules depends on the document only.** -/
theorem Holds.agree (h : t.Holds D S rules) (h' : u.Holds D S rules) (ht : t.At D) (hu : u.At D)
    (hregistry : t.registry = u.registry) : (t.program D).Agree (u.program D) rules := by
  refine .of_targets fun r hr => ?_
  rw [h.rules] at hr
  obtain ⟨hknown, hknown'⟩ := ht.knows_of_leads hu h.known h'.known hr
  exact ht.target?_eq hu hregistry hknown hknown'

/-! ## What a session has done -/

/-- Something to compile. -/
inductive Job where
  | document (D : Members)
  | schema (S : Members)

/-- The session after a job, whether or not it failed. -/
def perform (t : Session) : Job → Session
  | .document D => (t.compile D).session
  | .schema S => (t.compileRules S).session

/-- The session after one job after another. -/
def after (t : Session) (jobs : List Job) : Session := jobs.foldl perform t

theorem registry_perform (t : Session) (job : Job) : (t.perform job).registry = t.registry := by
  cases job <;> rfl

theorem registry_after (t : Session) (jobs : List Job) : (t.after jobs).registry = t.registry := by
  induction jobs generalizing t with
  | nil => rfl
  | cons job jobs ih => exact (ih (t.perform job)).trans (t.registry_perform job)

/-- A document is compiled from a clean table: all that is taken over from before are the checks of
the formats. -/
theorem compile_congr (hregistry : t.registry = u.registry) (D : Members) :
    t.compile D = u.compile D := by
  have htakeUp : t.takeUp D = u.takeUp D := by
    simp only [takeUp, hregistry]
  simp only [compile, htakeUp]

/-- A session compiles schema objects one after another, and none of them fails. -/
inductive Compiles : Session → List Members → List (List Rule) → Session → Prop
  | nil {t : Session} : Compiles t [] [] t
  | cons {t u : Session} {S : Members} {Ss : List Members} {rules : List Rule}
      {lists : List (List Rule)} : (t.compileRules S).result = .ok rules →
      Compiles (t.compileRules S).session Ss lists u → Compiles t (S :: Ss) (rules :: lists) u

namespace Compiles

variable {Ss : List Members} {lists : List (List Rule)}

theorem registry_eq (h : t.Compiles Ss lists u) : t.registry = u.registry := by
  induction h with
  | nil => rfl
  | cons _ _ ih => exact ih

/-- What is known stays known. -/
theorem knows (h : t.Compiles Ss lists u) (hr : t.references.Knows r) : u.references.Knows r := by
  induction h with
  | nil => exact hr
  | cons _ _ ih =>
    obtain ⟨res, hr⟩ := hr
    exact ih ⟨res, List.mem_append_left _ hr⟩

/-- **Schema objects compiled one after another are all compiled in the session that is left**,
which is still at the document. -/
theorem holds (h : t.Compiles Ss lists u) (ht : t.At D) :
    u.At D ∧ List.Forall₂ (u.Holds D) Ss lists := by
  induction h with
  | nil => exact ⟨ht, .nil⟩
  | @cons t u S Ss rules lists hS hrest ih =>
    obtain ⟨hat, hholds⟩ := ht.holds_of_compileRules hS
    obtain ⟨hu, hlists⟩ := ih hat
    exact ⟨hu, .cons (hholds.of_at hat hu hrest.registry_eq fun r hr =>
      hrest.knows (hholds.known r hr)) hlists⟩

end Compiles

end Session

/-- **What a session compiles does not depend on what it has compiled before.**  Whatever it has
done, a document is compiled as in a fresh session: to the same program, with the same references in
the same order.  Then schema objects are compiled, and none of them fails.  A fresh session that
compiles the document and only one of them gives the same rules, and following references from
these one comes to the same. -/
theorem history_irrelevant (registry : Registry) (earlier : List Session.Job) (D : Members) :
    ((Session.start registry).after earlier).compile D = (Session.start registry).compile D ∧
      ∀ {p : Program} {Ss : List Members} {lists : List (List Rule)} {t : Session},
        (((Session.start registry).after earlier).compile D).result = .ok p →
        (((Session.start registry).after earlier).compile D).session.Compiles Ss lists t →
        List.Forall₂ (fun S rules =>
          let fresh := ((Session.start registry).compile D).session.compileRules S
          fresh.result = .ok rules ∧ (t.program D).Agree (fresh.session.program D) rules)
          Ss lists := by
  have hcompile : ((Session.start registry).after earlier).compile D =
      (Session.start registry).compile D :=
    Session.compile_congr (Session.registry_after _ earlier) D
  refine ⟨hcompile, ?_⟩
  rw [hcompile]
  intro p Ss lists t hp hSs
  have hat : ((Session.start registry).compile D).session.At D := Session.at_of_compile hp
  obtain ⟨ht, hlists⟩ := hSs.holds hat
  refine hlists.imp fun S rules hS => ?_
  obtain ⟨rules', hrules'⟩ := hat.compiles_iff.2 hS.clear
  obtain ⟨hfresh, hS'⟩ := hat.holds_of_compileRules hrules'
  have hregistry : t.registry =
      (((Session.start registry).compile D).session.compileRules S).session.registry :=
    hSs.registry_eq.symm
  have hrules : rules = rules' :=
    (hS.of_at ht hfresh hregistry hS'.known).rules.trans hS'.rules.symm
  subst hrules
  exact ⟨hrules', hS.agree hS' ht hfresh hregistry⟩

/-! ### Two schema objects with a reference that the document does not mention -/

/-- Arrays of texts. -/
def textsSchema : Members :=
  [("items", .object [("$ref", .string "#/properties/text")])]

/-- Texts or lists of texts. -/
def textOrListSchema : Members :=
  [("anyOf", .array [.object [("$ref", .string "#/properties/text")],
    .object [("$ref", .string "#")]])]

/-- The session that is left has met the reference to texts. -/
def textsSession : Session :=
  ⟨.builtIn, some listDocument, [(rootReference, .found listDocument), ("list.json", .remote),
    ("#/properties/text", .found [("type", .string "string")])]⟩

theorem session_listDocument : ((Session.start .builtIn).compile listDocument).session =
    ⟨.builtIn, some listDocument, [(rootReference, .found listDocument), ("list.json", .remote)]⟩ := by
  change ((Session.start .builtIn).takeUp listDocument).add (listDocument.surveyed .builtIn) = _
  rw [surveyed_listDocument]
  rfl

theorem resolve_text : resolve (some listDocument) "#/properties/text" =
    .ok (.found [("type", .string "string")]) := by
  have hparts : Pointer.fragmentParts? "#/properties/text" = some ["properties", "text"] := by
    decide +kernel
  simp only [resolve, hparts]
  rfl

theorem compileRules_textsSchema :
    ((Session.start .builtIn).compile listDocument).session.compileRules textsSchema =
      ⟨textsSession, [.resolved "#/properties/text"],
        .ok [.array ⟨none, none, false⟩ (.every (.combined [.reference "#/properties/text"]))]⟩ := by
  rw [session_listDocument]
  set t : Session := ⟨.builtIn, some listDocument,
    [(rootReference, .found listDocument), ("list.json", .remote)]⟩
  have hsteps : Members.steps textsSchema .builtIn = [.reference "#/properties/text"] := rfl
  have hpending : t.pending textsSchema = ["#/properties/text"] := rfl
  have htarget : Members.steps [("type", .string "string")] .builtIn = [] := rfl
  have hsurvey : t.survey textsSchema =
      ⟨[("#/properties/text", .found [("type", .string "string")])],
        [.resolved "#/properties/text"], none⟩ := by
    change survey (some listDocument) .builtIn (t.pending textsSchema)
      (Members.steps textsSchema .builtIn) = _
    rw [hsteps, hpending, survey, if_pos List.mem_cons_self, resolve_text]
    simp only [Resolution.steps, htarget, List.append_nil, survey]
    rfl
  rw [Session.compileRules, hsurvey]
  rfl

theorem compileRules_textOrListSchema : (textsSession.compileRules textOrListSchema) =
    ⟨textsSession, [], .ok [.anyOf [.combined [.reference "#/properties/text"],
      .combined [.reference rootReference]]]⟩ := by
  have hsteps : Members.steps textOrListSchema .builtIn =
      [.reference "#/properties/text", .reference rootReference] := rfl
  have hpending : textsSession.pending textOrListSchema = [] := rfl
  have hsurvey : textsSession.survey textOrListSchema = .empty := by
    change survey (some listDocument) .builtIn (textsSession.pending textOrListSchema)
      (Members.steps textOrListSchema .builtIn) = _
    rw [hsteps, hpending, survey, if_neg List.not_mem_nil, survey, if_neg List.not_mem_nil, survey]
  rw [Session.compileRules, hsurvey]
  rfl

theorem compiles_textsSession :
    ((Session.start .builtIn).compile listDocument).session.Compiles
      [textsSchema, textOrListSchema]
      [[.array ⟨none, none, false⟩ (.every (.combined [.reference "#/properties/text"]))],
        [.anyOf [.combined [.reference "#/properties/text"], .combined [.reference rootReference]]]]
      textsSession := by
  refine .cons (congrArg Compiled.result compileRules_textsSchema) ?_
  rw [compileRules_textsSchema]
  refine .cons (congrArg Compiled.result compileRules_textOrListSchema) ?_
  rw [compileRules_textOrListSchema]
  exact .nil

/-- Before any document the reference to the root leads nowhere; then comes a document that cannot be
compiled. -/
theorem history_irrelevant_textsSession :
    ((Session.start .builtIn).after
        [.schema [("$ref", .string "#")], .document flagsDocument]).compile listDocument =
      (Session.start .builtIn).compile listDocument ∧
    List.Forall₂ (fun S rules =>
      let fresh := ((Session.start .builtIn).compile listDocument).session.compileRules S
      fresh.result = .ok rules ∧
        (textsSession.program listDocument).Agree (fresh.session.program listDocument) rules)
      [textsSchema, textOrListSchema]
      [[.array ⟨none, none, false⟩ (.every (.combined [.reference "#/properties/text"]))],
        [.anyOf [.combined [.reference "#/properties/text"],
          .combined [.reference rootReference]]]] := by
  obtain ⟨hcompile, hlists⟩ := history_irrelevant .builtIn
    [.schema [("$ref", .string "#")], .document flagsDocument] listDocument
  rw [hcompile] at hlists
  exact ⟨hcompile, hlists compile_listDocument compiles_textsSession⟩

end JsonSchema
