/-
  Checks that do not see the order of keys.

  * `Result.Alike`: the same verdict; and the same errors in some order, the
    values aside, where nothing but the value may be reordered.
  * `Agree`: what two computations give is related.
  * `Check.Alike`: checks give alike results on variants of a value.
  * `Check.all_alike`, …: the combinators of checks keep to it, whatever the order
    of their parts.
-/
import JsonSchema.Proofs.Refinement
import JsonSchema.Proofs.Reordering

namespace JsonSchema

/-! ## Results -/

mutual

/-- An error without the values that violate. -/
def ValidationError.withoutValue : ValidationError → ValidationError
  | mk path _ violation causes => .mk path .null violation (ValidationError.withoutValues causes)
termination_by structural e => e

/-- Errors without the values that violate. -/
def ValidationError.withoutValues : List ValidationError → List ValidationError
  | [] => []
  | e :: es => e.withoutValue :: ValidationError.withoutValues es
termination_by structural es => es

end

/-- The same verdict; and the same errors in some order, the values aside, if the order of keys in
the schema is fixed. -/
structure Result.Alike (fixed : Prop) (r r' : Result) : Prop where
  valid : r.valid = r'.valid
  errors : fixed → (r.errors.map (·.withoutValue)).Perm (r'.errors.map (·.withoutValue))

section
variable {fixed : Prop} {c : Context} {v v' : Json}

namespace Result

theorem success_alike : Alike fixed .success .success := ⟨rfl, fun _ => .refl _⟩

theorem merge_alike {rs rs' : List Result} (h : Matched False (Alike fixed) rs rs') :
    (merge rs).Alike fixed (merge rs') where
  valid := h.all_eq fun _ _ hr => hr.valid
  errors hf := by
    simp only [merge, List.map_flatMap]
    have hfailed : Matched False (Alike fixed) (rs.filter (!·.valid)) (rs'.filter (!·.valid)) :=
      h.filter fun _ _ hr => by rw [hr.valid]
    exact hfailed.flatMap_perm fun _ _ hr => hr.errors hf

end Result

namespace Context

/-- Violations are alike if there are some in both cases, and the same ones where that matters. -/
theorem check_alike {violations violations' : List Violation}
    (he : violations.isEmpty = violations'.isEmpty) (hf : fixed → violations = violations') :
    (c.check v violations).Alike fixed (c.check v' violations') := by
  refine ⟨he, ?_⟩
  intro h
  rw [hf h]
  simp only [check, error, List.map_map, Function.comp_def, ValidationError.withoutValue]
  exact .refl _

theorem check_alike_self (violations : List Violation) :
    (c.check v violations).Alike fixed (c.check v' violations) :=
  check_alike rfl fun _ => rfl

theorem failWith_alike {violation violation' : Violation} {branches branches' : List Result}
    (hc : fixed → c.verbose = false) (hf : fixed → violation = violation') :
    (c.failWith v violation branches).Alike fixed (c.failWith v' violation' branches') := by
  refine ⟨rfl, ?_⟩
  intro h
  simp only [failWith, Result.failure, causes, hc h, hf h]
  exact .refl _

end Context

theorem exactlyOne_alike {rs rs' : List Result} (hc : fixed → c.verbose = false)
    (h : List.Forall₂ (Result.Alike fixed) rs rs') :
    (exactlyOne c v rs).Alike fixed (exactlyOne c v' rs') := by
  have hcount : rs.countP (·.valid) = rs'.countP (·.valid) := by
    induction h with
    | nil => rfl
    | cons hr _ ih => rw [List.countP_cons, List.countP_cons, ih, hr.valid]
  simp only [exactlyOne, hcount]
  split_ifs
  · exact Result.success_alike
  · exact Context.failWith_alike hc fun _ => rfl

end

/-! ## Computations -/

section
variable {α β γ δ : Type} {R : α → β → Prop} {Q : γ → δ → Prop} {x : Except Fault α}
  {x' : Except Fault β}

/-- What two computations give is related, if both give something. -/
def Agree (R : α → β → Prop) (x : Except Fault α) (x' : Except Fault β) : Prop :=
  ∀ a b, x = .ok a → x' = .ok b → R a b

namespace Agree

theorem pure {a : α} {b : β} (h : R a b) :
    Agree R (Pure.pure a : Except Fault α) (Pure.pure b : Except Fault β) := by
  rintro _ _ ⟨⟩ ⟨⟩
  exact h

theorem bind {f : α → Except Fault γ} {g : β → Except Fault δ} (h : Agree R x x')
    (hf : ∀ a b, R a b → Agree Q (f a) (g b)) : Agree Q (x >>= f) (x' >>= g) := by
  intro c d hc hd
  obtain ⟨a, ha, hc⟩ := Observation.plain.gives_bind.1 hc
  obtain ⟨b, hb, hd⟩ := Observation.plain.gives_bind.1 hd
  exact hf a b (h a b ha hb) c d hc hd

theorem mapM {l : List α} {l' : List β} {f : α → Except Fault γ} {g : β → Except Fault δ}
    (h : Matched False R l l') (hf : ∀ a b, R a b → Agree Q (f a) (g b)) :
    Agree (Matched False Q) (l.mapM f) (l'.mapM g) := by
  intro cs ds hcs hds
  have hcs := Observation.plain.gives_mapM.1 hcs
  have hds := Observation.plain.gives_mapM.1 hds
  exact h.alongside hcs hds fun a b c d hab => hf a b hab c d

/-- In order, results are related in order. -/
theorem mapM_forall₂ {l : List α} {l' : List β} {f : α → Except Fault γ} {g : β → Except Fault δ}
    (h : List.Forall₂ R l l') (hf : ∀ a b, R a b → Agree Q (f a) (g b)) :
    Agree (List.Forall₂ Q) (l.mapM f) (l'.mapM g) := by
  induction h with
  | nil => exact .pure .nil
  | cons hab _ ih =>
    rw [List.mapM_cons, List.mapM_cons]
    refine .bind (hf _ _ hab) ?_
    intro c d hcd
    refine .bind ih ?_
    intro cs ds hcs
    exact .pure (.cons hcd hcs)

end Agree

end

/-! ## Checks -/

/-- A checker does not depend on the order of keys. -/
def Checker.OrderFree (checker : Checker) : Prop :=
  ∀ v v' : Json, v.UniqueKeys → v.Reordered v' → checker v = checker v'

/-- The checkers that are always known look at texts only. -/
theorem Registry.exists_ofText {name : String} {checker : Checker}
    (h : Registry.builtIn.get? name = some checker) :
    ∃ accepts, checker = Checker.ofText accepts := by
  have hmem : (name, checker) ∈ Registry.builtIn := mem_of_lookup h
  simp only [Registry.builtIn, List.mem_cons, Prod.mk.injEq, List.not_mem_nil, or_false] at hmem
  rcases hmem with ⟨-, rfl⟩ | ⟨-, rfl⟩
  · exact ⟨_, rfl⟩
  · exact ⟨_, rfl⟩

section
variable {fixed : Prop}

/-- Checks give alike results on variants of a value. -/
def Check.Alike (fixed : Prop) (k k' : Check (Except Fault)) : Prop :=
  ∀ c v v', (fixed → c.verbose = false) → Json.Variant False v v' →
    Agree (Result.Alike fixed) (k c v) (k' c v')

namespace Check

variable {k k' : Check (Except Fault)} {ks ks' : List (Check (Except Fault))}

theorem anything_alike : Alike fixed anything anything := by
  intro c v v' _ _
  exact .pure Result.success_alike

theorem violations_alike {f f' : Json → List Violation}
    (h : ∀ v v', Json.Variant False v v' →
      (f v).isEmpty = (f' v').isEmpty ∧ (fixed → f v = f' v')) :
    Alike fixed (violations f) (violations f') := by
  intro c v v' _ hv
  obtain ⟨he, hf⟩ := h v v' hv
  exact .pure (Context.check_alike he hf)

theorem violations_alike_of_eq {f f' : Json → List Violation}
    (h : ∀ v v', Json.Variant False v v' → f v = f' v') :
    Alike fixed (violations f) (violations f') := by
  refine violations_alike ?_
  intro v v' hv
  rw [h v v' hv]
  exact ⟨rfl, fun _ => rfl⟩

theorem all_alike (h : Matched False (Alike fixed) ks ks') :
    Alike fixed (all ks) (all ks') := by
  intro c v v' hc hv
  refine .bind (.mapM h fun k k' hk => hk c v v' hc hv) ?_
  intro rs rs' hrs
  exact .pure (Result.merge_alike hrs)

theorem firstMet_alike {xs xs' : List (Except Fault Result)}
    (h : List.Forall₂ (Agree (Result.Alike fixed)) xs xs')
    {conclude conclude' : List Result → Result}
    (hc : ∀ rs rs', (conclude rs).Alike fixed (conclude' rs')) (failed failed' : List Result) :
    Agree (Result.Alike fixed) (firstMet conclude xs failed) (firstMet conclude' xs' failed') := by
  induction h generalizing failed failed' with
  | nil => exact .pure (hc _ _)
  | cons hx _ ih =>
    refine .bind hx ?_
    intro r r' hr
    rw [hr.valid]
    split_ifs
    · exact .pure Result.success_alike
    · exact ih _ _

theorem any_alike (h : List.Forall₂ (Alike fixed) ks ks') : Alike fixed (any ks) (any ks') := by
  intro c v v' hc hv
  refine firstMet_alike ?_ ?_ [] []
  · refine List.rel_map ?_ h
    intro k k' hk
    exact hk c v v' hc hv
  · intro rs rs'
    exact Context.failWith_alike hc fun _ => rfl

theorem one_alike (h : List.Forall₂ (Alike fixed) ks ks') : Alike fixed (one ks) (one ks') := by
  intro c v v' hc hv
  refine .bind (.mapM_forall₂ h fun k k' hk => hk c v v' hc hv) ?_
  intro rs rs' hrs
  exact .pure (exactlyOne_alike hc hrs)

theorem negation_alike (h : Alike fixed k k') : Alike fixed (negation k) (negation k') := by
  intro c v v' hc hv
  refine .bind (h c v v' hc hv) ?_
  intro r r' hr
  rw [hr.valid]
  split_ifs
  · exact .pure (Context.check_alike_self _)
  · exact .pure Result.success_alike

/-! ### Scalars -/

theorem hasType_alike (name : String) : Alike fixed (hasType name) (hasType name) := by
  refine violations_alike_of_eq ?_
  intro v v' hv
  rw [hv.hasType]

theorem ofType_alike {type type' : Json} (h : Json.Variant fixed type type') :
    Alike fixed (ofType type) (ofType type') := by
  -- what is no name and no list of names is no type, in whatever order
  have invalid : Alike fixed (violations fun _ => [.invalidType type])
      (violations fun _ => [.invalidType type']) := by
    refine violations_alike ?_
    intro v v' _
    exact ⟨rfl, fun hf => by rw [h.same hf]⟩
  cases type with
  | array items =>
    obtain ⟨items', rfl, -⟩ := h.array
    simp only [ofType, ← h.strings?]
    cases (Json.array items).strings? with
    | none => exact invalid
    | some names =>
      refine any_alike (List.forall₂_same.2 ?_)
      intro k hk
      obtain ⟨name, -, rfl⟩ := List.mem_map.1 hk
      exact hasType_alike name
  | object S =>
    obtain ⟨S', rfl, -⟩ := h.object
    exact invalid
  | string name =>
    cases h.reordered
    exact hasType_alike name
  | _ =>
    cases h.reordered
    exact invalid

theorem enum_alike {values values' : List Json}
    (h : List.Forall₂ (Json.Variant fixed) values values') :
    Alike fixed (enum values) (enum values') := by
  refine violations_alike ?_
  intro v v' hv
  rw [hv.any_equal h]
  refine ⟨?_, ?_⟩
  · cases values'.any v'.equal <;> rfl
  · intro hf
    have heq : values = values' := by
      rw [← List.forall₂_eq_eq_eq]
      exact h.imp fun _ _ hv => hv.same hf
    rw [heq]

theorem text_alike (limits : TextLimits) : Alike fixed (text limits) (text limits) := by
  intro c v v' _ hv
  cases hv.reordered with
  | refl =>
    cases v with
    | string s => exact .pure (Context.check_alike_self _)
    | _ => exact .pure Result.success_alike
  | array | object => exact .pure Result.success_alike

theorem number_alike (limits : NumberLimits) : Alike fixed (number limits) (number limits) := by
  intro c v v' _ hv
  simp only [number, ← hv.number?]
  cases v.number? with
  | none => exact .pure Result.success_alike
  | some n =>
    simp only [checkNumber, NumberLimits.violations_eq]
    exact .pure (Context.check_alike_self _)

theorem format_alike {registry : Registry} {name : String}
    (h : ∀ checker, registry.get? name = some checker → checker.OrderFree) :
    Alike fixed (format registry name) (format registry name) := by
  unfold format
  cases hc : registry.get? name with
  | none => exact violations_alike_of_eq fun _ _ _ => rfl
  | some checker =>
    refine violations_alike_of_eq ?_
    intro v v' hv
    rw [h checker hc v v' hv.unique hv.reordered]

/-! ### What is left over -/

end Check

/-- Extras of variants. -/
structure Extra.Variant (e e' : Extra) : Prop where
  part : e.part = e'.part
  value : Json.Variant False e.value e'.value
  violation : e.violation = e'.violation

/-- The rest is treated alike. -/
inductive Rest.Alike (fixed : Prop) : Rest (Except Fault) → Rest (Except Fault) → Prop
  | allowed : Alike fixed .allowed .allowed
  | forbidden : Alike fixed .forbidden .forbidden
  | governed {k k' : Check (Except Fault)} : Check.Alike fixed k k' →
      Alike fixed (.governed k) (.governed k')

theorem Rest.Alike.results {rest rest' : Rest (Except Fault)} (h : Rest.Alike fixed rest rest')
    {c : Context} (hc : fixed → c.verbose = false) {extras extras' : List Extra}
    (he : Matched False Extra.Variant extras extras') :
    Agree (Matched False (Result.Alike fixed)) (rest.results c extras)
      (rest'.results c extras') := by
  cases h with
  | allowed => exact .pure (.of_forall₂ .nil)
  | forbidden =>
    refine .pure (he.map ?_)
    intro e e' hee'
    rw [hee'.part, hee'.violation]
    exact Context.check_alike_self _
  | governed hk =>
    refine .mapM he ?_
    intro e e' hee'
    rw [hee'.part]
    exact hk _ _ _ hc hee'.value

/-! ### Arrays -/

theorem forall₂_zipIdx {α β : Type} {R : α → β → Prop} {l : List α} {l' : List β}
    (h : List.Forall₂ R l l') (n : ℕ) :
    List.Forall₂ (fun p q => R p.1 q.1 ∧ p.2 = q.2) (l.zipIdx n) (l'.zipIdx n) := by
  induction h generalizing n with
  | nil => exact .nil
  | cons hab _ ih => exact .cons ⟨hab, rfl⟩ (ih (n + 1))

theorem rel_zip {α β γ δ : Type} {R : α → β → Prop} {Q : γ → δ → Prop} {l : List α} {l' : List β}
    (h : List.Forall₂ R l l') {k : List γ} {k' : List δ} (hk : List.Forall₂ Q k k') :
    List.Forall₂ (fun p q => R p.1 q.1 ∧ Q p.2 q.2) (l.zip k) (l'.zip k') := by
  induction h generalizing k k' with
  | nil => exact .nil
  | cons hab _ ih =>
    cases hk with
    | nil => exact .nil
    | cons hcd hk => exact .cons ⟨hab, hcd⟩ (ih hk)

theorem Extra.ofItems_variant {items items' : List Json}
    (h : List.Forall₂ (Json.Variant False) items items') (n : ℕ) :
    List.Forall₂ Extra.Variant (Extra.ofItems n items) (Extra.ofItems n items') := by
  rw [Extra.ofItems_eq, Extra.ofItems_eq]
  refine List.rel_map ?_ (forall₂_zipIdx h n)
  rintro ⟨v, i⟩ ⟨v', _⟩ ⟨hv, rfl⟩
  exact ⟨rfl, hv, rfl⟩

theorem ItemLimits.violations_congr (limits : ItemLimits) {items items' : List Json}
    (h : List.Forall₂ (Json.Variant False) items items') :
    limits.violations items = limits.violations items' := by
  simp only [ItemLimits.violations, h.length_eq, Json.uniqueItems_congr h]

/-- Checks of items give alike results on variants of the items. -/
def ItemsAlike (fixed : Prop)
    (f f' : Context → List Json → Except Fault (List Result)) : Prop :=
  ∀ c items items', (fixed → c.verbose = false) →
    List.Forall₂ (Json.Variant False) items items' →
    Agree (Matched False (Result.Alike fixed)) (f c items) (f' c items')

namespace Check

theorem onItems_alike (h : Alike fixed k k') : ItemsAlike fixed (onItems k) (onItems k') := by
  intro c items items' hc hi
  refine .mapM (.of_forall₂ (forall₂_zipIdx hi 0)) ?_
  rintro ⟨v, i⟩ ⟨v', _⟩ ⟨hv, rfl⟩
  exact h _ _ _ hc hv

theorem onPositions_alike (h : List.Forall₂ (Alike fixed) ks ks') {rest rest' : Rest (Except Fault)}
    (hr : Rest.Alike fixed rest rest') :
    ItemsAlike fixed (onPositions ks rest) (onPositions ks' rest') := by
  intro c items items' hc hi
  refine .bind (R := Matched False (Result.Alike fixed)) ?_ ?_
  · refine .mapM (.of_forall₂ (rel_zip h (forall₂_zipIdx hi 0))) ?_
    rintro ⟨k, v, i⟩ ⟨k', v', _⟩ ⟨hk, hv, rfl⟩
    exact hk _ _ _ hc hv
  · intro rs rs' hrs
    have hbeyond : List.Forall₂ Extra.Variant (Extra.ofItems ks.length (items.drop ks.length))
        (Extra.ofItems ks'.length (items'.drop ks'.length)) := by
      rw [h.length_eq]
      exact Extra.ofItems_variant (List.forall₂_drop _ hi) _
    refine .bind (hr.results hc (.of_forall₂ hbeyond)) ?_
    intro others others' ho
    exact .pure (hrs.append ho)

theorem array_alike (limits : ItemLimits) {f f' : Context → List Json → Except Fault (List Result)}
    (h : ItemsAlike fixed f f') : Alike fixed (array limits f) (array limits f') := by
  intro c v v' hc hv
  cases v with
  | array items =>
    obtain ⟨items', rfl, hi⟩ := hv.array
    refine .bind (h c items items' hc hi) ?_
    intro rs rs' hrs
    rw [limits.violations_congr hi]
    refine .pure (Result.merge_alike ?_)
    exact Matched.append (.of_forall₂ (.cons (Context.check_alike_self _) .nil)) hrs
  | object S =>
    obtain ⟨S', rfl, -⟩ := hv.object
    exact .pure Result.success_alike
  | _ =>
    cases hv.reordered
    exact .pure Result.success_alike

end Check

/-! ### Objects -/

theorem PropertyLimits.violations_congr (limits : PropertyLimits) {S S' : Members}
    (h : Members.Variant False S S') : limits.violations S = limits.violations S' := by
  simp only [PropertyLimits.violations, h.matched.length_eq, h.has]

theorem Extra.ofMembers_variant {S S' : Members}
    (h : Matched False (Keyed (Json.Variant False)) S S') :
    Matched False Extra.Variant (Extra.ofMembers S) (Extra.ofMembers S') := by
  refine h.map ?_
  rintro ⟨name, v⟩ ⟨_, v'⟩ ⟨rfl, hv⟩
  exact ⟨rfl, hv, rfl⟩

/-- Checks of properties give alike results on variants of an object. -/
def PropertiesAlike (fixed : Prop) (f f' : Context → Members → Except Fault Result) : Prop :=
  ∀ c S S', (fixed → c.verbose = false) → Members.Variant False S S' →
    Agree (Result.Alike fixed) (f c S) (f' c S')

/-- What the checks by pattern come to: the pattern that is malformed, or alike results. -/
inductive MatchesAlike (fixed : Prop) : Except String (List Result) → Except String (List Result) →
    Prop
  | malformed {source source' : String} : (fixed → source = source') →
      MatchesAlike fixed (.error source) (.error source')
  | results {rs rs' : List Result} : Matched False (Result.Alike fixed) rs rs' →
      MatchesAlike fixed (.ok rs) (.ok rs')

namespace Check

theorem onKeys_alike {checks checks' : List (String × Check (Except Fault))}
    (h : Matched fixed (Keyed (Alike fixed)) checks checks') {c : Context}
    (hc : fixed → c.verbose = false) {S S' : Members} (hS : Members.Variant False S S') :
    Agree (Matched False (Result.Alike fixed)) (onKeys checks c S) (onKeys checks' c S') := by
  refine .mapM (R := Agree (Result.Alike fixed)) (h.loosen.filterMap ?_) fun _ _ hx => hx
  rintro ⟨key, k⟩ ⟨_, k'⟩ ⟨rfl, hk⟩
  have hv := hS.get? key
  dsimp only
  generalize Members.get? S key = o, Members.get? S' key = o' at hv
  cases hv with
  | none => exact .none
  | some hv => exact .some (hk _ _ _ hc hv)

/-- The results of a check on the members that a pattern matches. -/
def onMatch (c : Context) (members : Members) (e : Pattern × Check (Except Fault)) :
    Except Fault (List Result) :=
  (members.filter fun (name, _) => e.1.searches name).mapM fun (name, v) => e.2 (c.push name) v

/-- The first pattern that is malformed is told; if there is none, there are the results of all. -/
theorem gives_onMatches {c : Context} {members : Members}
    {patterned : List (Pattern × Check (Except Fault))} {x : Except String (List Result)}
    (h : onMatches c members patterned = .ok x) :
    match (patterned.map (·.1)).find? (!·.isWellFormed) with
    | some p => x = .error p.source
    | none => ∃ groups, List.Forall₂ (fun e rs => onMatch c members e = .ok rs) patterned groups ∧
        x = .ok groups.flatten := by
  induction patterned generalizing x with
  | nil =>
    cases h
    exact ⟨[], .nil, rfl⟩
  | cons e patterned ih =>
    obtain ⟨p, k⟩ := e
    rw [onMatches] at h
    cases hp : p.isWellFormed with
    | false =>
      rw [hp] at h
      cases h
      simp [hp]
    | true =>
      rw [if_pos hp] at h
      obtain ⟨here, hhere, h⟩ := Observation.plain.gives_bind.1 h
      obtain ⟨y, hy, h⟩ := Observation.plain.gives_bind.1 h
      cases h
      have ih := ih hy
      simp only [List.map_cons, List.find?_cons, hp, Bool.not_true]
      split
      · next p' hp' =>
        rw [hp'] at ih
        rw [ih]
        rfl
      · next hnone =>
        rw [hnone] at ih
        obtain ⟨groups, hg, rfl⟩ := ih
        exact ⟨here :: groups, .cons hhere hg, rfl⟩

theorem onMatch_alike {e e' : Pattern × Check (Except Fault)} (h : Keyed (Alike fixed) e e')
    {c : Context} (hc : fixed → c.verbose = false) {S S' : Members}
    (hS : Members.Variant False S S') :
    Agree (Matched False (Result.Alike fixed)) (onMatch c S e) (onMatch c S' e') := by
  obtain ⟨p, k⟩ := e
  obtain ⟨_, k'⟩ := e'
  obtain ⟨rfl, hk⟩ := h
  have hmembers : Matched False (Keyed (Json.Variant False))
      (S.filter fun (name, _) => p.searches name)
      (S'.filter fun (name, _) => p.searches name) := by
    refine hS.matched.filter ?_
    rintro ⟨name, v⟩ ⟨_, v'⟩ ⟨rfl, -⟩
    rfl
  refine .mapM hmembers ?_
  rintro ⟨name, v⟩ ⟨_, v'⟩ ⟨rfl, hv⟩
  exact hk _ _ _ hc hv

theorem onMatches_alike {patterned patterned' : List (Pattern × Check (Except Fault))}
    (h : Matched fixed (Keyed (Alike fixed)) patterned patterned') {c : Context}
    (hc : fixed → c.verbose = false) {S S' : Members} (hS : Members.Variant False S S') :
    Agree (MatchesAlike fixed) (onMatches c S patterned) (onMatches c S' patterned') := by
  intro x x' hx hx'
  -- the two runs may stop at different patterns, so each is told by its own first malformed one
  have hx := gives_onMatches hx
  have hx' := gives_onMatches hx'
  have hfound := h.keys.find? (!·.isWellFormed)
  generalize (patterned.map (·.1)).find? (!·.isWellFormed) = o,
    (patterned'.map (·.1)).find? (!·.isWellFormed) = o' at hfound hx hx'
  cases hfound with
  | some hp =>
    subst hx hx'
    exact .malformed fun hf => by rw [hp hf]
  | none =>
    obtain ⟨groups, hg, rfl⟩ := hx
    obtain ⟨groups', hg', rfl⟩ := hx'
    refine .results (h.alongside hg hg' ?_).flatten
    intro e e' rs rs' hee'
    exact onMatch_alike hee' hc hS rs rs'

theorem others_variant {keys keys' : List String} (hk : keys.Perm keys')
    {patterns patterns' : List Pattern} (hp : patterns.Perm patterns') {S S' : Members}
    (hS : Members.Variant False S S') :
    Matched False Extra.Variant (others keys patterns S) (others keys' patterns' S') := by
  refine Extra.ofMembers_variant (hS.matched.filter ?_)
  rintro ⟨name, v⟩ ⟨_, v'⟩ ⟨rfl, -⟩
  simp only [hk.contains_eq, hp.any_eq]

theorem onProperties_alike {declared declared' : List (String × Check (Except Fault))}
    (hd : Matched fixed (Keyed (Alike fixed)) declared declared')
    {patterned patterned' : List (Pattern × Check (Except Fault))}
    (hp : Matched fixed (Keyed (Alike fixed)) patterned patterned')
    {rest rest' : Rest (Except Fault)} (hr : Rest.Alike fixed rest rest') :
    PropertiesAlike fixed (onProperties declared patterned rest)
      (onProperties declared' patterned' rest') := by
  intro c S S' hc hS
  refine .bind (onKeys_alike hd hc hS) ?_
  intro first first' hfirst
  refine .bind (onMatches_alike hp hc hS) ?_
  intro second second' hsecond
  cases hsecond with
  | malformed hsource => exact .pure (Context.check_alike rfl fun hf => by rw [hsource hf])
  | results hsecond =>
    refine .bind (hr.results hc (others_variant hd.keys.perm hp.keys.perm hS)) ?_
    intro third third' hthird
    exact .pure (Result.merge_alike ((hfirst.append hsecond).append hthird))

theorem object_alike (limits : PropertyLimits) {f f' : Context → Members → Except Fault Result}
    (h : PropertiesAlike fixed f f') : Alike fixed (object limits f) (object limits f') := by
  intro c v v' hc hv
  cases v with
  | object S =>
    obtain ⟨S', rfl, -⟩ := hv.object
    refine .bind (h c S S' hc hv) ?_
    intro r r' hr
    rw [limits.violations_congr hv]
    refine .pure (Result.merge_alike (.of_forall₂ ?_))
    exact .cons (Context.check_alike_self _) (.cons hr .nil)
  | array items =>
    obtain ⟨items', rfl, -⟩ := hv.array
    exact .pure (Context.check_alike_self _)
  | _ =>
    cases hv.reordered
    exact .pure (Context.check_alike_self _)

theorem having_alike (key : String) (h : Alike fixed k k') :
    Alike fixed (having key k) (having key k') := by
  intro c v v' hc hv
  cases v with
  | object S =>
    obtain ⟨S', rfl, -⟩ := hv.object
    simp only [having, ← Members.Variant.has hv]
    split_ifs
    · exact h c _ _ hc hv
    · exact .pure Result.success_alike
  | array items =>
    obtain ⟨items', rfl, -⟩ := hv.array
    exact .pure Result.success_alike
  | _ =>
    cases hv.reordered
    exact .pure Result.success_alike

theorem keys_alike (key : String) (names : List String) :
    Alike fixed (keys key names) (keys key names) := by
  refine violations_alike_of_eq ?_
  intro v v' hv
  cases v with
  | object S =>
    obtain ⟨S', rfl, -⟩ := hv.object
    simp only [Members.Variant.has hv]
  | array items =>
    obtain ⟨items', rfl, -⟩ := hv.array
    rfl
  | _ =>
    cases hv.reordered
    rfl

end Check

end

end JsonSchema
