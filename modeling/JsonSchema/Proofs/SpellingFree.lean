/-
  Checks that do not see the kinds of numbers.

  * `Violations.Same`, `Result.Same`: the same violations, or the same verdict for
    the same errors, one by one and the values aside.
  * `TextLimits.Same`, …: limits whose bounds are at the same places.
  * `Check.Same`: checks give the same results on respelled values.
  * `Check.all_same`, …: the combinators of checks keep to it.
-/
import JsonSchema.Proofs.OrderFree
import JsonSchema.Proofs.Respelling

namespace JsonSchema

/-! ## Results -/

/-- Violations that are the same one by one. -/
def Violations.Same (violations violations' : List Violation) : Prop :=
  List.Forall₂ (fun a b => a.same b = true) violations violations'

/-- The same verdict for errors that are the same one by one. -/
structure Result.Same (r r' : Result) : Prop where
  valid : r.valid = r'.valid
  errors : List.Forall₂ (fun e e' => e.same e' = true) r.errors r'.errors

theorem ValidationError.sameAll_iff {es fs : List ValidationError} :
    sameAll es fs = true ↔ List.Forall₂ (fun e f => e.same f = true) es fs := by
  induction es generalizing fs with
  | nil => cases fs <;> simp [sameAll]
  | cons e es ih => cases fs <;> simp [sameAll, ih]

theorem Result.same_iff {r r' : Result} : r.same r' = true ↔ r.Same r' := by
  simp only [same, Bool.and_eq_true, beq_iff_eq, ValidationError.sameAll_iff]
  exact ⟨fun h => ⟨h.1, h.2⟩, fun h => ⟨h.valid, h.errors⟩⟩

namespace Violations

variable {a b : Violation} {violations violations' : List Violation}

theorem singleton_same (h : a.same b = true) : Same [a] [b] := .cons h .nil

theorem Same.append {others others' : List Violation} (h : Same violations violations')
    (ho : Same others others') : Same (violations ++ others) (violations' ++ others') :=
  List.rel_append h ho

theorem Same.isEmpty_eq (h : Same violations violations') :
    violations.isEmpty = violations'.isEmpty := by
  cases h <;> rfl

theorem violationIf_same {p q : Bool} (hp : p = q) (h : a.same b = true) :
    Same (violationIf p a) (violationIf q b) := by
  subst hp
  cases p with
  | false => exact .nil
  | true => exact singleton_same h

end Violations

section
variable {c : Context} {v v' : Json} {rs rs' : List Result}

namespace Result

theorem success_same : Same .success .success := ⟨rfl, .nil⟩

theorem failed_same (h : List.Forall₂ Same rs rs') :
    List.Forall₂ Same (rs.filter (!·.valid)) (rs'.filter (!·.valid)) := by
  refine List.rel_filter ?_ h
  intro r r' hr
  simp only [hr.valid]

theorem merge_same (h : List.Forall₂ Same rs rs') : (merge rs).Same (merge rs') where
  valid := by
    have hm : Matched False Same rs rs' := .of_forall₂ h
    exact hm.all_eq fun _ _ hr => hr.valid
  errors := List.rel_flatMap (failed_same h) fun _ _ hr => hr.errors

end Result

namespace Context

theorem check_same {violations violations' : List Violation}
    (h : Violations.Same violations violations') :
    (c.check v violations).Same (c.check v' violations') where
  valid := h.isEmpty_eq
  errors := by
    refine List.rel_map ?_ h
    intro a b hab
    simp [error, ValidationError.same, ValidationError.path, ValidationError.violation,
      ValidationError.causes, ValidationError.sameAll, hab]

theorem fail_same {a b : Violation} (h : a.same b = true) : (c.fail v a).Same (c.fail v' b) :=
  check_same (Violations.singleton_same h)

theorem failWith_same {a b : Violation} (hab : a.same b = true)
    (h : List.Forall₂ Result.Same rs rs') : (c.failWith v a rs).Same (c.failWith v' b rs') where
  valid := rfl
  errors := by
    have hcauses : ValidationError.sameAll (c.causes rs) (c.causes rs') = true := by
      rw [ValidationError.sameAll_iff]
      unfold causes
      split_ifs
      · exact List.rel_flatMap h fun _ _ hr => hr.errors
      · exact .nil
    refine .cons ?_ .nil
    simp [error, ValidationError.same, ValidationError.path, ValidationError.violation,
      ValidationError.causes, hab, hcauses]

end Context

theorem exactlyOne_same (h : List.Forall₂ Result.Same rs rs') :
    (exactlyOne c v rs).Same (exactlyOne c v' rs') := by
  have hcount : rs.countP (·.valid) = rs'.countP (·.valid) := by
    induction h with
    | nil => rfl
    | cons hr _ ih => rw [List.countP_cons, List.countP_cons, ih, hr.valid]
  simp only [exactlyOne, hcount]
  split_ifs
  · exact Result.success_same
  · exact Context.failWith_same (beq_self_eq_true _) (Result.failed_same h)

end

/-! ## Limits -/

/-- Bounds at the same place, or none. -/
abbrev SameBound (bound bound' : Option Number) : Prop := Option.Rel Number.SamePlace bound bound'

theorem lengthViolations_same {least least' most most' : Option Number}
    (hl : SameBound least least') (hm : SameBound most most') (counted : Counted) (length : ℕ) :
    Violations.Same (lengthViolations least most counted length).1
        (lengthViolations least' most' counted length).1 ∧
      Violations.Same (lengthViolations least most counted length).2
        (lengthViolations least' most' counted length).2 := by
  have hsame : ∀ {x x' : Number} (side : Side), x.SamePlace x' →
      (Violation.length x counted side).same (.length x' counted side) = true := by
    intro x x' side hx
    simp [Violation.same, Number.identical_iff.2 hx]
  constructor
  · cases hl with
    | none => exact .nil
    | some hx => exact Violations.violationIf_same (Number.SamePlace.less (.refl _) hx) (hsame _ hx)
  · cases hm with
    | none => exact .nil
    | some hx => exact Violations.violationIf_same (hx.less (.refl _)) (hsame _ hx)

/-- Limits on texts with bounds at the same places. -/
structure TextLimits.Same (l l' : TextLimits) : Prop where
  most : SameBound l.most l'.most
  least : SameBound l.least l'.least
  pattern : l.pattern = l'.pattern

theorem TextLimits.Same.violations {l l' : TextLimits} (h : l.Same l') (text : String) :
    Violations.Same (l.violations text) (l'.violations text) := by
  have hlength := lengthViolations_same h.least h.most .characters text.length
  refine (hlength.2.append hlength.1).append ?_
  rw [h.pattern]
  cases l'.pattern with
  | none => exact .nil
  | some p =>
    simp only [Option.map_some, Option.getD_some, patternViolations]
    split_ifs
    · exact Violations.violationIf_same rfl (by simp [Violation.same])
    · exact Violations.singleton_same (by simp [Violation.same])

/-- Limits on numbers with bounds at the same places, and without a divisor. -/
structure NumberLimits.Same (l l' : NumberLimits) : Prop where
  undivided : l.multipleOf = none
  undivided' : l'.multipleOf = none
  minimum : SameBound l.minimum l'.minimum
  maximum : SameBound l.maximum l'.maximum
  exclusiveMinimum : l.exclusiveMinimum = l'.exclusiveMinimum
  exclusiveMaximum : l.exclusiveMaximum = l'.exclusiveMaximum

theorem NumberLimits.Same.violated {l l' : NumberLimits} (h : l.Same l') {x x' : Number}
    (hx : x.SamePlace x') : Violations.Same (l.violated x) (l'.violated x') := by
  have hsame : ∀ {b b' : Number} (side : Side) (exclusive : Bool), b.SamePlace b' →
      (Violation.bounds b side exclusive).same (.bounds b' side exclusive) = true := by
    intro b b' side exclusive hb
    simp [Violation.same, Number.identical_iff.2 hb]
  have hdivisor : Violations.Same (l.multiples x) (l'.multiples x') := by
    simp only [multiples, h.undivided, h.undivided']
    exact .nil
  have hsmall : Violations.Same (l.tooSmall x) (l'.tooSmall x') := by
    have hb := h.minimum
    unfold tooSmall
    rw [h.exclusiveMinimum]
    generalize l.minimum = bound, l'.minimum = bound' at hb
    cases hb with
    | none => exact .nil
    | some hb =>
      refine Violations.violationIf_same ?_ (hsame _ _ hb)
      rw [hx.atMost hb, hx.less hb]
  have hlarge : Violations.Same (l.tooLarge x) (l'.tooLarge x') := by
    have hb := h.maximum
    unfold tooLarge
    rw [h.exclusiveMaximum]
    generalize l.maximum = bound, l'.maximum = bound' at hb
    cases hb with
    | none => exact .nil
    | some hb =>
      refine Violations.violationIf_same ?_ (hsame _ _ hb)
      rw [hb.atMost hx, hb.less hx]
  exact (hdivisor.append hsmall).append hlarge

/-- Limits on arrays with bounds at the same places. -/
structure ItemLimits.Same (l l' : ItemLimits) : Prop where
  least : SameBound l.least l'.least
  most : SameBound l.most l'.most
  unique : l.unique = l'.unique

theorem ItemLimits.Same.violations {l l' : ItemLimits} (h : l.Same l') {values values' : List Json}
    (hv : List.Forall₂ Json.Respelled values values') :
    Violations.Same (l.violations values) (l'.violations values') := by
  have hlength := lengthViolations_same h.least h.most .items values'.length
  unfold ItemLimits.violations
  rw [hv.length_eq, h.unique, Json.uniqueItems_same hv]
  exact (hlength.1.append hlength.2).append (Violations.violationIf_same rfl rfl)

/-- Limits on objects with bounds at the same places. -/
structure PropertyLimits.Same (l l' : PropertyLimits) : Prop where
  most : SameBound l.most l'.most
  least : SameBound l.least l'.least
  required : l.required = l'.required

theorem PropertyLimits.Same.violations {l l' : PropertyLimits} (h : l.Same l') {S S' : Members}
    (hS : Members.Respelled S S') : Violations.Same (l.violations S) (l'.violations S') := by
  have hlength := lengthViolations_same h.least h.most .properties S'.length
  simp only [PropertyLimits.violations, hS.entries.length_eq, h.required, hS.has]
  refine (hlength.2.append hlength.1).append ?_
  cases l'.required with
  | none => exact .nil
  | some names => exact Violations.violationIf_same rfl (beq_self_eq_true names)

theorem PropertyLimits.Same.violationsOfOther {l l' : PropertyLimits} (h : l.Same l') :
    Violations.Same l.violationsOfOther l'.violationsOfOther := by
  unfold PropertyLimits.violationsOfOther
  rw [h.required]
  cases l'.required with
  | none => exact .nil
  | some names => exact Violations.singleton_same (beq_self_eq_true names)

/-! ## Checks -/

/-- A checker does not see the kinds of numbers. -/
def Checker.SpellingFree (checker : Checker) : Prop :=
  ∀ v v' : Json, v.Respelled v' → checker v = checker v'

/-- Checks give the same results on respelled values. -/
def Check.Same (k k' : Check (Except Fault)) : Prop :=
  ∀ c v v', Json.Respelled v v' → Agree Result.Same (k c v) (k' c v')

namespace Check

variable {k k' : Check (Except Fault)} {ks ks' : List (Check (Except Fault))}

theorem anything_same : Same anything anything := by
  intro c v v' _
  exact .pure Result.success_same

theorem violations_same {f f' : Json → List Violation}
    (h : ∀ v v', Json.Respelled v v' → Violations.Same (f v) (f' v')) :
    Same (violations f) (violations f') := by
  intro c v v' hv
  exact .pure (Context.check_same (h v v' hv))

theorem all_same (h : List.Forall₂ Same ks ks') : Same (all ks) (all ks') := by
  intro c v v' hv
  refine .bind (.mapM_forall₂ h fun k k' hk => hk c v v' hv) ?_
  intro rs rs' hrs
  exact .pure (Result.merge_same hrs)

theorem firstMet_same {xs xs' : List (Except Fault Result)}
    (h : List.Forall₂ (Agree Result.Same) xs xs') {conclude conclude' : List Result → Result}
    (hc : ∀ rs rs', List.Forall₂ Result.Same rs rs' → (conclude rs).Same (conclude' rs'))
    {failed failed' : List Result} (hf : List.Forall₂ Result.Same failed failed') :
    Agree Result.Same (firstMet conclude xs failed) (firstMet conclude' xs' failed') := by
  induction h generalizing failed failed' with
  | nil => exact .pure (hc _ _ (List.rel_reverse hf))
  | cons hx _ ih =>
    refine .bind hx ?_
    intro r r' hr
    rw [hr.valid]
    split_ifs
    · exact .pure Result.success_same
    · exact ih (.cons hr hf)

theorem any_same (h : List.Forall₂ Same ks ks') : Same (any ks) (any ks') := by
  intro c v v' hv
  refine firstMet_same ?_ ?_ .nil
  · refine List.rel_map ?_ h
    intro k k' hk
    exact hk c v v' hv
  · intro rs rs' hrs
    exact Context.failWith_same rfl hrs

theorem one_same (h : List.Forall₂ Same ks ks') : Same (one ks) (one ks') := by
  intro c v v' hv
  refine .bind (.mapM_forall₂ h fun k k' hk => hk c v v' hv) ?_
  intro rs rs' hrs
  exact .pure (exactlyOne_same hrs)

theorem negation_same (h : Same k k') : Same (negation k) (negation k') := by
  intro c v v' hv
  refine .bind (h c v v' hv) ?_
  intro r r' hr
  rw [hr.valid]
  split_ifs
  · exact .pure (Context.fail_same rfl)
  · exact .pure Result.success_same

/-! ### Scalars -/

theorem hasType_same (name : String) : Same (hasType name) (hasType name) := by
  refine violations_same ?_
  intro v v' hv
  exact Violations.violationIf_same (by rw [hv.hasType]) (beq_self_eq_true name)

theorem ofType_same {type type' : Json} (h : type.Respelled type') (hu : type.UniqueKeys) :
    Same (ofType type) (ofType type') := by
  -- a number is no type, and neither is an array with one among its items
  have invalid : Same (violations fun _ => [.invalidType type])
      (violations fun _ => [.invalidType type']) := by
    refine violations_same ?_
    intro v v' _
    exact Violations.singleton_same (h.identical hu)
  cases type with
  | array values =>
    obtain ⟨values', rfl, -⟩ := h.items
    simp only [ofType, ← h.strings?]
    cases (Json.array values).strings? with
    | none => exact invalid
    | some names =>
      refine any_same (List.forall₂_same.2 ?_)
      intro k hk
      obtain ⟨name, -, rfl⟩ := List.mem_map.1 hk
      exact hasType_same name
  | string name =>
    cases h
    exact hasType_same name
  | object S =>
    obtain ⟨S', rfl, -⟩ := h.members
    exact invalid
  | _ => cases h <;> exact invalid

theorem enum_same {values values' : List Json} (h : List.Forall₂ Json.Respelled values values')
    (hu : ∀ w ∈ values, w.UniqueKeys) : Same (enum values) (enum values') := by
  refine violations_same ?_
  intro v v' hv
  refine Violations.violationIf_same (by rw [hv.any_equal h]) ?_
  exact Json.Respelled.identical (.array h) (Json.uniqueKeysItems_iff.2 hu)

theorem text_same {limits limits' : TextLimits} (h : limits.Same limits') :
    Same (text limits) (text limits') := by
  intro c v v' hv
  cases v with
  | string s =>
    cases hv
    exact .pure (Context.check_same (h.violations s))
  | array values =>
    obtain ⟨values', rfl, -⟩ := hv.items
    exact .pure Result.success_same
  | object S =>
    obtain ⟨S', rfl, -⟩ := hv.members
    exact .pure Result.success_same
  | _ => cases hv <;> exact .pure Result.success_same

theorem number_same {limits limits' : NumberLimits} (h : limits.Same limits') :
    Same (number limits) (number limits') := by
  intro c v v' hv
  have hx := hv.number?
  unfold number
  generalize v.number? = o, v'.number? = o' at hx
  cases hx with
  | none => exact .pure Result.success_same
  | some hx =>
    simp only [checkNumber, NumberLimits.violations_eq]
    exact .pure (Context.check_same (h.violated hx))

theorem format_same {registry : Registry} {name : String}
    (h : ∀ checker, registry.get? name = some checker → checker.SpellingFree) :
    Same (format registry name) (format registry name) := by
  unfold format
  cases hc : registry.get? name with
  | none =>
    exact violations_same fun _ _ _ => Violations.singleton_same (beq_self_eq_true name)
  | some checker =>
    refine violations_same ?_
    intro v v' hv
    exact Violations.violationIf_same (by rw [h checker hc v v' hv]) (beq_self_eq_true name)

end Check

/-! ### What is left over -/

/-- Extras with respelled values. -/
structure Extra.Respelled (e e' : Extra) : Prop where
  part : e.part = e'.part
  value : e.value.Respelled e'.value
  violation : e.violation.same e'.violation = true

/-- The rest is treated the same. -/
inductive Rest.Same : Rest (Except Fault) → Rest (Except Fault) → Prop
  | allowed : Same .allowed .allowed
  | forbidden : Same .forbidden .forbidden
  | governed {k k' : Check (Except Fault)} : Check.Same k k' → Same (.governed k) (.governed k')

theorem Rest.Same.results {rest rest' : Rest (Except Fault)} (h : rest.Same rest') (c : Context)
    {extras extras' : List Extra} (he : List.Forall₂ Extra.Respelled extras extras') :
    Agree (List.Forall₂ Result.Same) (rest.results c extras) (rest'.results c extras') := by
  cases h with
  | allowed => exact .pure .nil
  | forbidden =>
    refine .pure (List.rel_map ?_ he)
    intro e e' hee'
    simp only [hee'.part]
    exact Context.fail_same hee'.violation
  | governed hk =>
    refine .mapM_forall₂ he ?_
    intro e e' hee'
    rw [hee'.part]
    exact hk _ _ _ hee'.value

/-! ### Arrays -/

theorem Extra.ofItems_respelled {values values' : List Json}
    (h : List.Forall₂ Json.Respelled values values') (n : ℕ) :
    List.Forall₂ Extra.Respelled (Extra.ofItems n values) (Extra.ofItems n values') := by
  rw [Extra.ofItems_eq, Extra.ofItems_eq]
  refine List.rel_map ?_ (forall₂_zipIdx h n)
  rintro ⟨v, i⟩ ⟨v', _⟩ ⟨hv, rfl⟩
  exact ⟨rfl, hv, beq_self_eq_true i⟩

/-- Checks of items give the same results on respelled items. -/
def ItemsSame (f f' : Context → List Json → Except Fault (List Result)) : Prop :=
  ∀ c values values', List.Forall₂ Json.Respelled values values' →
    Agree (List.Forall₂ Result.Same) (f c values) (f' c values')

namespace Check

variable {k k' : Check (Except Fault)} {ks ks' : List (Check (Except Fault))}

theorem onItems_same (h : Same k k') : ItemsSame (onItems k) (onItems k') := by
  intro c values values' hi
  refine .mapM_forall₂ (forall₂_zipIdx hi 0) ?_
  rintro ⟨v, i⟩ ⟨v', _⟩ ⟨hv, rfl⟩
  exact h _ _ _ hv

theorem onPositions_same (h : List.Forall₂ Same ks ks') {rest rest' : Rest (Except Fault)}
    (hr : rest.Same rest') : ItemsSame (onPositions ks rest) (onPositions ks' rest') := by
  intro c values values' hi
  refine .bind (R := List.Forall₂ Result.Same) ?_ ?_
  · refine .mapM_forall₂ (rel_zip h (forall₂_zipIdx hi 0)) ?_
    rintro ⟨k, v, i⟩ ⟨k', v', _⟩ ⟨hk, hv, rfl⟩
    exact hk _ _ _ hv
  · intro rs rs' hrs
    rw [h.length_eq]
    refine .bind (hr.results c (Extra.ofItems_respelled (List.forall₂_drop _ hi) _)) ?_
    intro others others' ho
    exact .pure (List.rel_append hrs ho)

theorem array_same {limits limits' : ItemLimits} (hl : limits.Same limits')
    {f f' : Context → List Json → Except Fault (List Result)} (h : ItemsSame f f') :
    Same (array limits f) (array limits' f') := by
  intro c v v' hv
  cases v with
  | array values =>
    obtain ⟨values', rfl, hi⟩ := hv.items
    refine .bind (h c values values' hi) ?_
    intro rs rs' hrs
    exact .pure (Result.merge_same (.cons (Context.check_same (hl.violations hi)) hrs))
  | object S =>
    obtain ⟨S', rfl, -⟩ := hv.members
    exact .pure Result.success_same
  | _ => cases hv <;> exact .pure Result.success_same

end Check

/-! ### Objects -/

theorem Extra.ofMembers_respelled {S S' : Members} (h : List.Forall₂ (Keyed Json.Respelled) S S') :
    List.Forall₂ Extra.Respelled (Extra.ofMembers S) (Extra.ofMembers S') := by
  refine List.rel_map ?_ h
  rintro ⟨name, v⟩ ⟨_, v'⟩ ⟨rfl, hv⟩
  exact ⟨rfl, hv, beq_self_eq_true name⟩

/-- Checks of properties give the same results on respelled objects. -/
def PropertiesSame (f f' : Context → Members → Except Fault Result) : Prop :=
  ∀ c S S', Members.Respelled S S' → Agree Result.Same (f c S) (f' c S')

/-- The checks by pattern come to the same pattern that is malformed, or to the same results. -/
inductive MatchesSame : Except String (List Result) → Except String (List Result) → Prop
  | malformed (source : String) : MatchesSame (.error source) (.error source)
  | results {rs rs' : List Result} : List.Forall₂ Result.Same rs rs' →
      MatchesSame (.ok rs) (.ok rs')

namespace Check

theorem onKeys_same {checks checks' : List (String × Check (Except Fault))}
    (h : List.Forall₂ (Keyed Same) checks checks') (c : Context) {S S' : Members}
    (hS : Members.Respelled S S') :
    Agree (List.Forall₂ Result.Same) (onKeys checks c S) (onKeys checks' c S') := by
  refine .mapM_forall₂ (R := Agree Result.Same) (List.rel_filterMap ?_ h) fun _ _ hx => hx
  rintro ⟨key, k⟩ ⟨_, k'⟩ ⟨rfl, hk⟩
  exact rel_map (hS.get? key) fun _ _ hv => hk _ _ _ hv

/-- Members that are picked by their keys. -/
theorem filter_respelled {S S' : Members} (hS : Members.Respelled S S') {p : String × Json → Bool}
    (hp : ∀ name v v', p (name, v) = p (name, v')) :
    List.Forall₂ (Keyed Json.Respelled) (S.filter p) (S'.filter p) := by
  refine List.rel_filter ?_ hS.entries
  rintro ⟨name, v⟩ ⟨_, v'⟩ ⟨rfl, -⟩
  exact (congrArg (· = true) (hp name v v')).to_iff

theorem onMatches_same {patterned patterned' : List (Pattern × Check (Except Fault))}
    (h : List.Forall₂ (Keyed Same) patterned patterned') (c : Context) {S S' : Members}
    (hS : Members.Respelled S S') :
    Agree MatchesSame (onMatches c S patterned) (onMatches c S' patterned') := by
  induction h with
  | nil => exact .pure (.results .nil)
  | @cons e e' patterned patterned' hee' _ ih =>
    obtain ⟨p, k⟩ := e
    obtain ⟨_, k'⟩ := e'
    obtain ⟨rfl, hk⟩ := hee'
    rw [onMatches, onMatches]
    -- the patterns are the same ones in the same order, so both stop at the same one
    split_ifs
    · refine .bind (R := List.Forall₂ Result.Same) ?_ ?_
      · refine .mapM_forall₂ (filter_respelled hS fun _ _ _ => rfl) ?_
        rintro ⟨name, v⟩ ⟨_, v'⟩ ⟨rfl, hv⟩
        exact hk _ _ _ hv
      · intro here here' hhere
        refine .bind ih ?_
        rintro _ _ (source | hrest)
        · exact .pure (.malformed source)
        · exact .pure (.results (List.rel_append hhere hrest))
    · exact .pure (.malformed p.source)

theorem others_respelled (keys : List String) (patterns : List Pattern) {S S' : Members}
    (hS : Members.Respelled S S') :
    List.Forall₂ Extra.Respelled (others keys patterns S) (others keys patterns S') :=
  Extra.ofMembers_respelled (filter_respelled hS fun _ _ _ => rfl)

theorem onProperties_same {declared declared' : List (String × Check (Except Fault))}
    (hd : List.Forall₂ (Keyed Same) declared declared')
    {patterned patterned' : List (Pattern × Check (Except Fault))}
    (hp : List.Forall₂ (Keyed Same) patterned patterned')
    {rest rest' : Rest (Except Fault)} (hr : rest.Same rest') :
    PropertiesSame (onProperties declared patterned rest)
      (onProperties declared' patterned' rest') := by
  intro c S S' hS
  refine .bind (onKeys_same hd c hS) ?_
  intro first first' hfirst
  refine .bind (onMatches_same hp c hS) ?_
  rintro _ _ (source | hsecond)
  · exact .pure (Context.fail_same (beq_self_eq_true source))
  · rw [keys_eq hd, keys_eq hp]
    refine .bind (hr.results c (others_respelled _ _ hS)) ?_
    intro third third' hthird
    exact .pure (Result.merge_same (List.rel_append (List.rel_append hfirst hsecond) hthird))

theorem object_same {limits limits' : PropertyLimits} (hl : limits.Same limits')
    {f f' : Context → Members → Except Fault Result} (h : PropertiesSame f f') :
    Same (object limits f) (object limits' f') := by
  intro c v v' hv
  cases v with
  | object S =>
    obtain ⟨S', rfl, -⟩ := hv.members
    refine .bind (h c S S' hv) ?_
    intro r r' hr
    exact .pure (Result.merge_same (.cons (Context.check_same (hl.violations hv)) (.cons hr .nil)))
  | array values =>
    obtain ⟨values', rfl, -⟩ := hv.items
    exact .pure (Context.check_same hl.violationsOfOther)
  | _ => cases hv <;> exact .pure (Context.check_same hl.violationsOfOther)

theorem having_same (key : String) {k k' : Check (Except Fault)} (h : Same k k') :
    Same (having key k) (having key k') := by
  intro c v v' hv
  cases v with
  | object S =>
    obtain ⟨S', rfl, -⟩ := hv.members
    simp only [having, ← Members.Respelled.has hv]
    split_ifs
    · exact h c _ _ hv
    · exact .pure Result.success_same
  | array values =>
    obtain ⟨values', rfl, -⟩ := hv.items
    exact .pure Result.success_same
  | _ => cases hv <;> exact .pure Result.success_same

theorem keys_same (key : String) (names : List String) :
    Same (keys key names) (keys key names) := by
  refine violations_same ?_
  intro v v' hv
  cases v with
  | object S =>
    obtain ⟨S', rfl, -⟩ := hv.members
    simp only [Members.Respelled.has hv]
    refine List.rel_map (R := Eq) ?_ (List.forall₂_same.2 fun _ _ => rfl)
    rintro name _ rfl
    simp [Violation.same]
  | array values =>
    obtain ⟨values', rfl, -⟩ := hv.items
    exact .nil
  | _ => cases hv <;> exact .nil

end Check

end JsonSchema
