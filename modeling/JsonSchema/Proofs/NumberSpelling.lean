/-
  Integers and equal doubles are interchangeable.

  * `Members.Respelled.schema?`, …: the keys of respelled schema objects hold
    respelled values, wherever a keyword may hold a schema.
  * `Members.Respelled.resolve`: references turn out the same in respelled
    documents.
  * `Members.Respelled.surveyed`: a respelled document compiles if the document
    does.
  * `Members.Undivided`: no schema object of a document holds a divisor.
  * `Members.interpret_same`, `Members.pursue_same`: respelled schema objects ask
    the same, if references are treated the same, and they are.
  * `number_spelling_irrelevant`: the result of a schema.
-/
import JsonSchema.Proofs.Reach
import JsonSchema.Proofs.SpellingFree

namespace JsonSchema

/-! ## What keys hold -/

section
variable {α β : Type} {R : α → β → Prop}

theorem rel_toList {o : Option α} {o' : Option β} (h : Option.Rel R o o') :
    List.Forall₂ R o.toList o'.toList := by
  cases h with
  | none => exact .nil
  | some hab => exact .cons hab .nil

theorem rel_getD {o : Option (List α)} {o' : Option (List β)}
    (h : Option.Rel (List.Forall₂ R) o o') : List.Forall₂ R (o.getD []) (o'.getD []) := by
  cases h with
  | none => exact .nil
  | some hab => exact hab

end

theorem Members.number?_eq_none {S : Members} {key : String} (h : S.has key = false) :
    S.number? key = none := by
  rw [number?, Option.not_isSome_iff_eq_none.1 (Bool.eq_false_iff.1 h), Option.bind_none]

namespace Members.Respelled

variable {S S' : Members} (h : Members.Respelled S S') (key : String)

include h

theorem schema? : Option.Rel Members.Respelled (S.schema? key) (S'.schema? key) :=
  rel_bind (h.get? key) fun _ _ hv => hv.members?

theorem schemas? : Option.Rel (List.Forall₂ Members.Respelled) (S.schemas? key) (S'.schemas? key) :=
  rel_bind (h.get? key) fun _ _ hv => hv.objects?

theorem string? : S.string? key = S'.string? key :=
  rel_eq (rel_bind (h.get? key) fun _ _ hv => rel_of_eq hv.string?)

theorem number? : SameBound (S.number? key) (S'.number? key) :=
  rel_bind (h.get? key) fun _ _ hv => hv.number?

theorem strings? : S.strings? key = S'.strings? key :=
  rel_eq (rel_bind (h.get? key) fun _ _ hv => rel_of_eq hv.strings?)

theorem isTrue : S.isTrue key = S'.isTrue key :=
  rel_any (h.get? key) fun _ _ hv => hv.isTrue

/-- The members of the object that a key holds. -/
theorem held : List.Forall₂ (Keyed Json.Respelled) ((S.schema? key).getD [])
    ((S'.schema? key).getD []) := by
  have hT := h.schema? key
  generalize S.schema? key = o, S'.schema? key = o' at hT
  cases hT with
  | none => exact .nil
  | some hT => exact hT.entries

theorem named : List.Forall₂ (Keyed Members.Respelled) (S.named key) (S'.named key) := by
  refine List.rel_filterMap ?_ (h.held key)
  rintro ⟨name, v⟩ ⟨_, v'⟩ ⟨rfl, hv⟩
  exact rel_map hv.members? fun _ _ hT => ⟨rfl, hT⟩

theorem textLimits : S.textLimits.Same S'.textLimits where
  most := h.number? _
  least := h.number? _
  pattern := by simp only [Members.textLimits, h.string?]

theorem itemLimits : S.itemLimits.Same S'.itemLimits where
  least := h.number? _
  most := h.number? _
  unique := h.isTrue _

theorem propertyLimits : S.propertyLimits.Same S'.propertyLimits where
  most := h.number? _
  least := h.number? _
  required := h.strings? _

/-- A divisor would tell the kinds of numbers apart. -/
theorem numberLimits (hm : S.has "multipleOf" = false) : S.numberLimits.Same S'.numberLimits where
  undivided := number?_eq_none hm
  undivided' := number?_eq_none ((h.has _).symm.trans hm)
  minimum := h.number? _
  maximum := h.number? _
  exclusiveMinimum := h.isTrue _
  exclusiveMaximum := h.isTrue _

theorem hasPropertyRules : S.hasPropertyRules = S'.hasPropertyRules := by
  simp only [Members.hasPropertyRules, h.has]

theorem get?_unique (hu : (Json.object S).UniqueKeys) :
    Option.Rel (fun v v' : Json => v.Respelled v' ∧ v.UniqueKeys) (S.get? key) (S'.get? key) := by
  have hv := h.get? key
  generalize hg : S.get? key = o, S'.get? key = o' at hv
  cases hv with
  | none => exact .none
  | some hv => exact .some ⟨hv, Json.uniqueKeysMembers_iff.1 hu.2 _ (mem_of_get? hg)⟩

/-! ### Subschemas -/

theorem itemSchemas : List.Forall₂ Members.Respelled S.itemSchemas S'.itemSchemas := by
  have hi := h.schema? "items"
  have hs := h.schemas? "items"
  unfold Members.itemSchemas
  generalize S.schema? "items" = o, S'.schema? "items" = o' at hi
  generalize S.schemas? "items" = os, S'.schemas? "items" = os' at hs
  cases hi with
  | some hT => exact .cons hT .nil
  | none =>
    cases hs with
    | none => exact .nil
    | some hTs => exact List.rel_append hTs (rel_toList (h.schema? _))

theorem propertySchemas : List.Forall₂ Members.Respelled S.propertySchemas S'.propertySchemas := by
  have hnamed : ∀ key, List.Forall₂ Members.Respelled ((S.named key).map (·.2))
      ((S'.named key).map (·.2)) := fun key => List.rel_map (fun _ _ he => he.2) (h.named key)
  exact List.rel_append (List.rel_append (hnamed _) (hnamed _)) (rel_toList (h.schema? _))

theorem subschemas : List.Forall₂ Members.Respelled S.subschemas S'.subschemas := by
  have hlists : ∀ key, List.Forall₂ Members.Respelled ((S.schemas? key).getD [])
      ((S'.schemas? key).getD []) := fun key => rel_getD (h.schemas? key)
  refine List.rel_flatten (.cons (hlists _) (.cons (hlists _) (.cons (hlists _)
    (.cons (rel_toList (h.schema? _)) (.cons h.itemSchemas (.cons h.propertySchemas
      (.cons ?_ .nil)))))))
  exact List.rel_map (fun _ _ he => he.2) (h.named _)

theorem expressions : S.expressions = S'.expressions := by
  simp only [Members.expressions, h.string?, keys_eq (h.named _)]

end Members.Respelled

/-! ## References -/

/-- References turn out the same. -/
inductive Resolution.Same :
    Except LookupError Resolution → Except LookupError Resolution → Prop
  | error (e : LookupError) : Same (.error e) (.error e)
  | remote : Same (.ok .remote) (.ok .remote)
  | notFound (segment : String) : Same (.ok (.notFound segment)) (.ok (.notFound segment))
  | found {T T' : Members} : Members.Respelled T T' → Same (.ok (.found T)) (.ok (.found T'))

namespace Members.Respelled

theorem objectAt? {values values' : List Json}
    (h : List.Forall₂ Json.Respelled values values') (index : ℕ) :
    Option.Rel Members.Respelled (JsonSchema.objectAt? values index)
      (JsonSchema.objectAt? values' index) :=
  rel_bind (rel_getElem? h index) fun _ _ hv => hv.members?

/-- Walks end the same. -/
theorem walk {S S' : Members} (h : Members.Respelled S S') (segments : List String) :
    Resolution.Same (S.walk segments) (S'.walk segments) := by
  match segments with
  | [] => exact .found h
  | segment :: rest =>
    have hv := h.get? segment
    rw [Members.walk, Members.walk]
    generalize S.get? segment = o, S'.get? segment = o' at hv
    cases hv with
    | none => exact .notFound segment
    | @some v v' hv =>
      cases v with
      | object U =>
        obtain ⟨U', rfl, -⟩ := hv.members
        exact walk hv rest
      | array values =>
        obtain ⟨values', rfl, hi⟩ := hv.items
        cases rest with
        | nil => exact .notFound segment
        | cons next rest =>
          dsimp only
          cases indexDigits? next with
          | none => exact .notFound segment
          | some digits =>
            have hU := objectAt? hi (digitsValue digits)
            dsimp only
            split_ifs
            · exact .error _
            · generalize JsonSchema.objectAt? values (digitsValue digits) = u,
                JsonSchema.objectAt? values' (digitsValue digits) = u' at hU
              cases hU with
              | none => exact .notFound segment
              | some hU => exact walk hU rest
      | _ => cases hv <;> exact .notFound segment
termination_by segments.length

variable {D D' : Members} (h : Members.Respelled D D')

include h

/-- **References turn out the same in respelled documents.** -/
theorem resolve (reference : String) :
    Resolution.Same (resolve (some D) reference) (resolve (some D') reference) := by
  unfold JsonSchema.resolve
  cases Pointer.fragmentParts? reference with
  | none => exact .remote
  | some segments => exact h.walk segments

/-! ## Compiling -/

/-- What a respelled document reaches is the respelling of what the document reaches. -/
theorem reaches {S S' T' : Members} (hS : Members.Respelled S S') (hT : D'.Reaches S' T') :
    ∃ T, D.Reaches S T ∧ Members.Respelled T T' := by
  induction hT with
  | refl => exact ⟨S, .refl, hS⟩
  | subschema _ hU ih =>
    obtain ⟨T, hT, hTT'⟩ := ih
    obtain ⟨U, hU, hUU'⟩ := exists_of_mem_forall₂ hTT'.subschemas hU
    exact ⟨U, hT.subschema hU, hUU'⟩
  | @target T' U' r _ hr hres ih =>
    obtain ⟨T, hT, hTT'⟩ := ih
    have hrel := h.resolve r
    rw [hres] at hrel
    generalize hU : JsonSchema.resolve (some D) r = res at hrel
    cases hrel with
    | found hUU' => exact ⟨_, hT.target ((hTT'.string? _).trans hr) hU, hUU'⟩

/-- The obstacles stay the same. -/
theorem obstructs {S S' : Members} (hS : Members.Respelled S S') {e : CompileError}
    (ho : D'.Obstructs S' e) : D.Obstructs S e := by
  cases ho with
  | pattern hsource hd hne => exact .pattern (hS.expressions ▸ hsource) hd hne
  | @index r segments digits hr hparts hlong =>
    refine .index ((hS.string? _).trans hr) hparts ?_
    -- walks fail at long indices only, and both fail together
    have hrel := h.walk segments
    rw [walk_eq_error_iff.2 ⟨digits, rfl, hlong⟩] at hrel
    generalize hw : D.walk segments = res at hrel
    cases hrel
    obtain ⟨_, he, hlong⟩ := walk_eq_error_iff.1 hw
    cases he
    exact hlong

/-- **A respelled document compiles if the document does.** -/
theorem surveyed {registry : Registry} (hf : (D.surveyed registry).failure = none) :
    (D'.surveyed registry).failure = none := by
  cases hf' : (D'.surveyed registry).failure with
  | none => rfl
  | some e =>
    obtain ⟨S', hS', ho⟩ := Members.obstructs_of_surveyed hf'
    obtain ⟨S, hS, hSS'⟩ := h.reaches h hS'
    exact absurd (h.obstructs hSS' ho) (Members.not_obstructs_of_surveyed hf hS)

end Members.Respelled

/-! ## Schema objects -/

/-- Respelled schema objects ask the same. -/
def Members.AsksSame (f f' : Members → Check (Except Fault)) (T : Members) : Prop :=
  ∀ T', Members.Respelled T T' → Check.Same (f T) (f' T')

namespace Members

theorem onItems_same {k k' : Option (Check (Except Fault))} (hk : Option.Rel Check.Same k k')
    {ks ks' : Option (List (Check (Except Fault)))}
    (hks : Option.Rel (List.Forall₂ Check.Same) ks ks') {rest rest' : Rest (Except Fault)}
    (hr : rest.Same rest') : ItemsSame (onItems k ks rest) (onItems k' ks' rest') := by
  cases hk with
  | some hk => exact Check.onItems_same hk
  | none =>
    cases hks with
    | some hks => exact Check.onPositions_same hks hr
    | none =>
      intro c values values' _
      exact .pure .nil

theorem onDependency_same (key : String) {needs needs' : Json} (hn : needs.Respelled needs')
    {k k' : Option (Check (Except Fault))} (hk : Option.Rel Check.Same k k') :
    Check.Same (onDependency key needs k) (onDependency key needs' k') := by
  cases hk with
  | some hk => exact Check.having_same key hk
  | none =>
    refine rel_elim (rel_of_eq hn.strings?) Check.anything_same ?_
    rintro names _ rfl
    exact Check.having_same key (Check.keys_same key names)

end Members

namespace Members.Respelled

variable {S S' : Members} (h : Members.Respelled S S')

section
variable {f f' : Members → Check (Except Fault)} (hT : ∀ T : Members, T.Inside S → T.AsksSame f f')
  (key : String)

include hT in
theorem inside_same {o o' : Option Members} (ho : Option.Rel Members.Respelled o o')
    (hinside : ∀ T, o = some T → T.Inside S) : Option.Rel Check.Same (o.map f) (o'.map f') := by
  cases ho with
  | none => exact .none
  | some hTT' => exact .some (hT _ (hinside _ rfl) _ hTT')

include h hT

theorem schema?_same : Option.Rel Check.Same ((S.schema? key).map f) ((S'.schema? key).map f') :=
  inside_same hT (h.schema? key) fun _ => inside_of_schema?

theorem schemas?_same : Option.Rel (List.Forall₂ Check.Same) ((S.schemas? key).map (·.map f))
    ((S'.schemas? key).map (·.map f')) := by
  have hinside : ∀ Ts, S.schemas? key = some Ts → ∀ T ∈ Ts, T.Inside S :=
    fun _ hTs _ => inside_of_schemas? hTs
  have hrel := h.schemas? key
  generalize S.schemas? key = o, S'.schemas? key = o' at hinside hrel
  cases hrel with
  | none => exact .none
  | some hTs =>
    refine .some ?_
    rw [List.forall₂_map_left_iff, List.forall₂_map_right_iff]
    refine forall₂_imp_mem hTs ?_
    intro T hmem
    exact hT T (hinside _ rfl T hmem)

theorem named_same : List.Forall₂ (Keyed Check.Same)
    ((S.named key).map fun (name, T) => (name, f T))
    ((S'.named key).map fun (name, T) => (name, f' T)) := by
  rw [List.forall₂_map_left_iff, List.forall₂_map_right_iff]
  refine forall₂_imp_mem (h.named key) ?_
  rintro e he e' ⟨hname, hTT'⟩
  exact ⟨hname, hT e.2 (inside_of_named he) _ hTT'⟩

theorem dependencies_same : List.Forall₂ Check.Same
    (S.dependencies.map fun (key, needs) => onDependency key needs (needs.members?.map f))
    (S'.dependencies.map fun (key, needs) => onDependency key needs (needs.members?.map f')) := by
  rw [List.forall₂_map_left_iff, List.forall₂_map_right_iff]
  refine forall₂_imp_mem (h.held "dependencies") ?_
  rintro ⟨key, needs⟩ he ⟨_, needs'⟩ ⟨rfl, hn⟩
  refine onDependency_same key hn (inside_same hT (Json.Respelled.members? hn) ?_)
  exact fun T hmem => S.inside_of_mem_dependencies he hmem

end

include h

theorem rest_same (key : String) {k k' : Option (Check (Except Fault))}
    (hk : Option.Rel Check.Same k k') : (S.rest key k).Same (S'.rest key k') := by
  cases hk with
  | some hk => exact .governed hk
  | none =>
    have hv := h.get? key
    unfold Members.rest
    generalize S.get? key = o, S'.get? key = o' at hv
    cases hv with
    | none => exact .allowed
    | @some v v' hv =>
      cases v with
      | object U =>
        obtain ⟨U', rfl, -⟩ := hv.members
        exact .allowed
      | array values =>
        obtain ⟨values', rfl, -⟩ := hv.items
        exact .allowed
      | bool b =>
        cases hv
        cases b with
        | false => exact .forbidden
        | true => exact .allowed
      | _ => cases hv <;> exact .allowed

theorem onProperties_same {declared declared' : List (String × Check (Except Fault))}
    (hd : List.Forall₂ (Keyed Check.Same) declared declared')
    {patterned patterned' : List (String × Check (Except Fault))}
    (hp : List.Forall₂ (Keyed Check.Same) patterned patterned')
    {rest rest' : Rest (Except Fault)} (hr : rest.Same rest') :
    PropertiesSame (S.onProperties declared patterned rest)
      (S'.onProperties declared' patterned' rest') := by
  have hpatterned : List.Forall₂ (Keyed Check.Same)
      (patterned.map fun (source, check) => (Pattern.ofSource source, check))
      (patterned'.map fun (source, check) => (Pattern.ofSource source, check)) := by
    refine List.rel_map ?_ hp
    rintro ⟨source, k⟩ ⟨_, k'⟩ ⟨rfl, hk⟩
    exact ⟨rfl, hk⟩
  unfold Members.onProperties
  rw [h.hasPropertyRules]
  split_ifs
  · exact Check.onProperties_same hd hpatterned hr
  · intro c T T' _
    exact .pure Result.success_same

end Members.Respelled

namespace Members

/-- No object of a document holds a divisor. -/
def Undivided (D : Members) : Prop :=
  ∀ S : Members, S = D ∨ S.Inside D → S.has "multipleOf" = false

theorem Undivided.inside {S D : Members} (h : D.Undivided) (hS : S.Inside D) : S.Undivided := by
  rintro T (rfl | hT)
  · exact h T (Or.inr hS)
  · exact h T (Or.inr (hT.trans hS))

/-- **Respelled schema objects ask the same**, as long as references are treated the same. -/
theorem interpret_same {registry : Registry}
    (hr : ∀ name checker, registry.get? name = some checker → checker.SpellingFree)
    {follow follow' : Follow (Except Fault)} (hf : ∀ r, Check.Same (follow r) (follow' r))
    (S : Members) (hu : (Json.object S).UniqueKeys) (hm : S.Undivided) :
    S.AsksSame (interpret registry follow) (interpret registry follow') := by
  induction S using inside_induction with
  | step S ih =>
    intro S' h
    replace ih : ∀ T : Members, T.Inside S →
        T.AsksSame (interpret registry follow) (interpret registry follow') :=
      fun T hT => ih T hT (Json.Inside.uniqueKeys hT hu) (hm.inside hT)
    rw [interpret_eq, interpret_eq]
    refine Check.all_same (.cons ?ref (.cons ?type (.cons ?allOf (.cons ?anyOf
      (.cons ?oneOf (.cons ?not (.cons ?enum (.cons ?text (.cons ?number (.cons ?array
      (.cons ?object (.cons ?dependencies (.cons ?format .nil)))))))))))))
    case ref =>
      refine rel_elim (rel_of_eq (h.string? _)) Check.anything_same ?_
      rintro r _ rfl
      exact hf r
    case type =>
      refine rel_elim (h.get?_unique _ hu) Check.anything_same ?_
      rintro type type' ⟨htype, hunique⟩
      exact Check.ofType_same htype hunique
    case allOf =>
      exact rel_elim (h.schemas?_same ih _) Check.anything_same fun _ _ => Check.all_same
    case anyOf =>
      exact rel_elim (h.schemas?_same ih _) Check.anything_same fun _ _ => Check.any_same
    case oneOf =>
      exact rel_elim (h.schemas?_same ih _) Check.anything_same fun _ _ => Check.one_same
    case not =>
      exact rel_elim (h.schema?_same ih _) Check.anything_same fun _ _ => Check.negation_same
    case enum =>
      have hvalues := rel_bind (h.get?_unique "enum" hu) fun _ _ hv => hv.1.items?_unique hv.2
      refine rel_elim hvalues Check.anything_same ?_
      rintro values values' ⟨hitems, hunique⟩
      exact Check.enum_same hitems hunique
    case text => exact Check.text_same h.textLimits
    case number => exact Check.number_same (h.numberLimits (hm S (Or.inl rfl)))
    case array =>
      have hrest := h.rest_same "additionalItems" (h.schema?_same ih "additionalItems")
      exact Check.array_same h.itemLimits
        (onItems_same (h.schema?_same ih _) (h.schemas?_same ih _) hrest)
    case object =>
      have hrest := h.rest_same "additionalProperties" (h.schema?_same ih "additionalProperties")
      exact Check.object_same h.propertyLimits
        (h.onProperties_same (h.named_same ih _) (h.named_same ih _) hrest)
    case dependencies => exact Check.all_same (h.dependencies_same ih)
    case format =>
      refine rel_elim (rel_of_eq (h.string? _)) Check.anything_same ?_
      rintro name _ rfl
      exact Check.format_same (hr name)

/-- **References are treated the same** in respelled documents. -/
theorem pursue_same {registry : Registry}
    (hr : ∀ name checker, registry.get? name = some checker → checker.SpellingFree)
    {D D' : Members} (hu : (Json.object D).UniqueKeys) (hm : D.Undivided)
    (h : Members.Respelled D D') (limit remaining : ℕ) (reference : String) :
    Check.Same (D.pursue registry limit remaining reference)
      (D'.pursue registry limit remaining reference) := by
  -- a target is any part of the document, so only the room for references gets smaller
  induction remaining using Nat.strong_induction_on generalizing reference with
  | _ remaining ih =>
    intro c v v' hv
    have hres := h.resolve reference
    rw [pursue, pursue]
    generalize hT : resolve (some D) reference = res, resolve (some D') reference = res' at hres
    cases hres with
    | error e =>
      intro r r' hr
      cases hr
    | remote => exact .pure (Context.fail_same (beq_self_eq_true reference))
    | notFound segment => exact .pure (Context.fail_same (by simp [Violation.same]))
    | @found T T' hTT' =>
      have hplace : (Json.object T).UniqueKeys ∧ T.Undivided := by
        rcases eq_or_inside_of_resolve hT with rfl | hinside
        · exact ⟨hu, hm⟩
        · exact ⟨Json.Inside.uniqueKeys hinside hu, hm.inside hinside⟩
      dsimp only
      split_ifs
      · exact .pure (Context.fail_same (beq_self_eq_true reference))
      · cases remaining with
        | zero => exact .pure (Context.fail_same (by simp [Violation.same]))
        | succ remaining =>
          have hask := interpret_same hr (ih remaining (Nat.lt_succ_self _)) T hplace.1 hplace.2
          exact hask T' hTT' _ v v' hv

end Members

/-- The checkers that are always known do not see the kinds of numbers. -/
theorem Registry.spellingFree_builtIn {name : String} {checker : Checker}
    (h : Registry.builtIn.get? name = some checker) : checker.SpellingFree := by
  obtain ⟨accepts, rfl⟩ := Registry.exists_ofText h
  intro v v' hvv'
  cases hvv' <;> rfl

/-! ## Schemas -/

/-- **Integers and equal doubles are interchangeable.**  A document compiles with no formats but
those that are always known, and nothing in it holds a divisor.  If integers in it are replaced by
doubles equal to them, or doubles by integers, at any places, it still compiles; and if numbers of a
value are replaced likewise, the result is the same: the same verdict for the same errors, one by
one, verbose or not, under any limit on references. -/
theorem number_spelling_irrelevant {D D' : Members} {options : Options} {s : Schema}
    (h : (Schema.build (.object D) options).schema = .ok s) (hf : options.formats = [])
    (hD : (Json.object D).UniqueKeys) (hm : D.Undivided)
    (hDD' : (Json.object D).Respelled (.object D')) {v v' : Json} (hvv' : v.Respelled v') :
    ∃ s', (Schema.build (.object D') options).schema = .ok s' ∧
      (s.validate v).same (s'.validate v') = true := by
  have hr : Registry.build options.formats = .ok .builtIn := by
    rw [hf]
    rfl
  obtain ⟨registry, hregistry, hd, hsurvey, -⟩ := build_eq_ok_iff.1 h
  have h' := build_eq_ok_iff.2
    ⟨registry, hregistry, hd, Members.Respelled.surveyed hDD' hsurvey, rfl⟩
  refine ⟨_, h', ?_⟩
  have hspell : ∀ name checker, Registry.builtIn.get? name = some checker → checker.SpellingFree :=
    fun _ _ => Registry.spellingFree_builtIn
  have hsame := Members.interpret_same hspell
    (Members.pursue_same hspell hD hm hDD' options.maxReferenceDepth.toNat
      options.maxReferenceDepth.toNat) D hD hm D' hDD' (.start options.verbose) v v' hvv'
  -- neither schema fails, and both do what direct interpretation does
  have hresult := validate?_eq_interpretation h hr v
  have hresult' := validate?_eq_interpretation h' hr v'
  rw [validate?_eq h v] at hresult
  rw [validate?_eq h' v'] at hresult'
  exact Result.same_iff.2 (hsame _ _ hresult.symm hresult'.symm)

/-! ### Whole numbers -/

theorem representable_one : Double.Representable (1 * Double.one) := by decide +kernel

theorem representable_two : Double.Representable (2 * Double.one) := by decide +kernel

/-- Lists of distinct whole numbers up to two. -/
def wholeDocument : Members :=
  [("items", .object [("type", .string "integer"), ("maximum", .int 2)]),
    ("uniqueItems", .bool true)]

/-- The same, with a double for the bound. -/
def wholeDoubleDocument : Members :=
  [("items", .object [("type", .string "integer"),
      ("maximum", .double (.whole 2 representable_two))]),
    ("uniqueItems", .bool true)]

/-- A list with an item that is too large, and another one twice. -/
def wholeValue : Json := .array [.int 1, .int 3, .double (.whole 1 representable_one)]

/-- The same, with an integer and a double in each other's place. -/
def turnedWholeValue : Json := .array [.double (.whole 1 representable_one), .int 3, .int 1]

theorem build_whole : (Schema.build (.object wholeDocument) .default).schema =
    .ok (wholeDocument.compiled .builtIn .default) := by
  refine build_eq_ok_iff.2 ⟨.builtIn, rfl, by decide, ?_, rfl⟩
  change (survey _ _ _ (Members.steps wholeDocument .builtIn)).failure = none
  rw [show Members.steps wholeDocument .builtIn = [] from rfl, survey]
  rfl

theorem undivided_wholeDocument : wholeDocument.Undivided := by
  rintro S (rfl | hS)
  · rfl
  · simp only [Members.Inside, wholeDocument, Json.inside_object, List.mem_cons, List.not_mem_nil,
      or_false, exists_eq_or_imp, Json.object.injEq, reduceCtorEq, false_or, ↓existsAndEq,
      true_and] at hS
    rcases hS with (rfl | hscalar | hscalar) | hscalar
    · rfl
    all_goals exact absurd hscalar (Json.not_inside_scalar rfl)

theorem number_spelling_irrelevant_wholeValue :
    (Schema.build (.object wholeDocument) .default).schema =
        .ok (wholeDocument.compiled .builtIn .default) ∧
      (Json.object wholeDocument).UniqueKeys ∧ wholeDocument.Undivided ∧
      (Json.object wholeDocument).Respelled (.object wholeDoubleDocument) ∧
      wholeValue.Respelled turnedWholeValue ∧
      ∃ s', (Schema.build (.object wholeDoubleDocument) .default).schema = .ok s' ∧
        ((wholeDocument.compiled .builtIn .default).validate wholeValue).same
          (s'.validate turnedWholeValue) = true := by
  have hD : (Json.object wholeDocument).UniqueKeys := by
    simp [wholeDocument, Json.UniqueKeys, Json.UniqueKeysMembers, Members.keys]
  have hone := Number.equal_whole 1 representable_one
  have htwo := Number.equal_whole 2 representable_two
  have hDD' : (Json.object wholeDocument).Respelled (.object wholeDoubleDocument) :=
    .object rfl (.cons (.object rfl (.cons (.refl _) (.cons (.asDouble htwo) .nil)))
      (.cons (.refl _) .nil))
  have hvv' : wholeValue.Respelled turnedWholeValue :=
    .array (.cons (.asDouble hone) (.cons (.refl _) (.cons (.asInt hone) .nil)))
  exact ⟨build_whole, hD, undivided_wholeDocument, hDD', hvv',
    number_spelling_irrelevant build_whole rfl hD undivided_wholeDocument hDD' hvv'⟩

end JsonSchema
