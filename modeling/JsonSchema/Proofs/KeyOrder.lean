/-
  The order of keys does not matter.

  * `Members.Variant.schema?`, …: the keys of variants of a schema object hold
    variants, wherever a keyword may hold a schema.
  * `Members.Variant.resolve`: references turn out alike in variants of a document.
  * `Members.interpret_alike`, `Members.pursue_alike`: variants of a schema object
    ask alike things, if references are treated alike, and they are.
  * `key_order_irrelevant`: the verdict of a schema, and its errors.
-/
import JsonSchema.Proofs.Closure
import JsonSchema.Proofs.OrderFree

namespace JsonSchema

/-! ## What keys hold -/

namespace Members.Variant

variable {fixed : Prop} {S S' : Members} (h : Members.Variant fixed S S') (key : String)

include h

theorem schema? : Option.Rel (Members.Variant fixed) (S.schema? key) (S'.schema? key) :=
  rel_bind (h.get? key) fun _ _ hv => hv.members?

theorem schemas? :
    Option.Rel (List.Forall₂ (Members.Variant fixed)) (S.schemas? key) (S'.schemas? key) :=
  rel_bind (h.get? key) fun _ _ hv => hv.objects?

theorem string? : S.string? key = S'.string? key :=
  rel_eq (rel_bind (h.get? key) fun _ _ hv => rel_of_eq hv.string?)

theorem number? : S.number? key = S'.number? key :=
  rel_eq (rel_bind (h.get? key) fun _ _ hv => rel_of_eq hv.number?)

theorem strings? : S.strings? key = S'.strings? key :=
  rel_eq (rel_bind (h.get? key) fun _ _ hv => rel_of_eq hv.strings?)

theorem isTrue : S.isTrue key = S'.isTrue key :=
  rel_any (h.get? key) fun _ _ hv => hv.isTrue

/-- The members of the object that a key holds. -/
theorem entries : Matched fixed (Keyed (Json.Variant fixed)) ((S.schema? key).getD [])
    ((S'.schema? key).getD []) := by
  have hT := h.schema? key
  generalize S.schema? key = o, S'.schema? key = o' at hT
  cases hT with
  | none => exact .of_forall₂ .nil
  | some hT => exact hT.matched

theorem named : Matched fixed (Keyed (Members.Variant fixed)) (S.named key) (S'.named key) := by
  refine (h.entries key).filterMap ?_
  rintro ⟨name, v⟩ ⟨_, v'⟩ ⟨rfl, hv⟩
  exact rel_map hv.members? fun _ _ hT => ⟨rfl, hT⟩

theorem textLimits : S.textLimits = S'.textLimits := by
  simp only [Members.textLimits, h.number?, h.string?]

theorem numberLimits : S.numberLimits = S'.numberLimits := by
  simp only [Members.numberLimits, h.number?, h.isTrue]

theorem itemLimits : S.itemLimits = S'.itemLimits := by
  simp only [Members.itemLimits, h.number?, h.isTrue]

theorem propertyLimits : S.propertyLimits = S'.propertyLimits := by
  simp only [Members.propertyLimits, h.number?, h.strings?]

theorem hasPropertyRules : S.hasPropertyRules = S'.hasPropertyRules := by
  simp only [Members.hasPropertyRules, h.has]

end Members.Variant

/-! ## References -/

/-- References turn out alike. -/
inductive Resolution.Alike (fixed : Prop) :
    Except LookupError Resolution → Except LookupError Resolution → Prop
  | error (e : LookupError) : Alike fixed (.error e) (.error e)
  | remote : Alike fixed (.ok .remote) (.ok .remote)
  | notFound (segment : String) : Alike fixed (.ok (.notFound segment)) (.ok (.notFound segment))
  | found {T T' : Members} : Members.Variant fixed T T' →
      Alike fixed (.ok (.found T)) (.ok (.found T'))

namespace Members.Variant

variable {fixed : Prop}

theorem objectAt? {items items' : List Json}
    (h : List.Forall₂ (Json.Variant fixed) items items') (index : ℕ) :
    Option.Rel (Members.Variant fixed) (JsonSchema.objectAt? items index)
      (JsonSchema.objectAt? items' index) :=
  rel_bind (rel_getElem? h index) fun _ _ hv => hv.members?

/-- Walks end alike. -/
theorem walk {S S' : Members} (h : Members.Variant fixed S S') (segments : List String) :
    Resolution.Alike fixed (S.walk segments) (S'.walk segments) := by
  match segments with
  | [] => exact .found h
  | segment :: rest =>
    have hv := h.get? segment
    rw [Members.walk, Members.walk]
    generalize S.get? segment = o, S'.get? segment = o' at hv
    cases hv with
    | none => exact .notFound segment
    | @some v v' hv =>
      cases v with
      | object U =>
        obtain ⟨U', rfl, -⟩ := hv.object
        exact walk hv rest
      | array items =>
        obtain ⟨items', rfl, hi⟩ := hv.array
        cases rest with
        | nil => exact .notFound segment
        | cons next rest =>
          dsimp only
          cases indexDigits? next with
          | none => exact .notFound segment
          | some digits =>
            have hU := objectAt? hi (digitsValue digits)
            dsimp only
            split_ifs
            · exact .error _
            · generalize JsonSchema.objectAt? items (digitsValue digits) = u,
                JsonSchema.objectAt? items' (digitsValue digits) = u' at hU
              cases hU with
              | none => exact .notFound segment
              | some hU => exact walk hU rest
      | _ =>
        cases hv.reordered
        exact .notFound segment
termination_by segments.length

/-- **References turn out alike in variants of a document.** -/
theorem resolve {D D' : Members} (h : Members.Variant fixed D D') (reference : String) :
    Resolution.Alike fixed (resolve (some D) reference) (resolve (some D') reference) := by
  unfold JsonSchema.resolve
  cases Pointer.fragmentParts? reference with
  | none => exact .remote
  | some segments => exact h.walk segments

end Members.Variant

/-! ## Schema objects -/

/-- Variants of a schema object ask alike things. -/
def Members.AsksAlike (fixed : Prop) (f f' : Members → Check (Except Fault)) (T : Members) : Prop :=
  ∀ T', Members.Variant fixed T T' → Check.Alike fixed (f T) (f' T')

namespace Members

variable {fixed : Prop}

theorem onItems_alike {k k' : Option (Check (Except Fault))}
    (hk : Option.Rel (Check.Alike fixed) k k') {ks ks' : Option (List (Check (Except Fault)))}
    (hks : Option.Rel (List.Forall₂ (Check.Alike fixed)) ks ks') {rest rest' : Rest (Except Fault)}
    (hr : Rest.Alike fixed rest rest') :
    ItemsAlike fixed (onItems k ks rest) (onItems k' ks' rest') := by
  cases hk with
  | some hk => exact Check.onItems_alike hk
  | none =>
    cases hks with
    | some hks => exact Check.onPositions_alike hks hr
    | none =>
      intro c items items' _ _
      exact .pure (.of_forall₂ .nil)

theorem onDependency_alike (key : String) {needs needs' : Json}
    (hn : Json.Variant fixed needs needs') {k k' : Option (Check (Except Fault))}
    (hk : Option.Rel (Check.Alike fixed) k k') :
    Check.Alike fixed (onDependency key needs k) (onDependency key needs' k') := by
  cases hk with
  | some hk => exact Check.having_alike key hk
  | none =>
    refine rel_elim (rel_of_eq hn.strings?) Check.anything_alike ?_
    rintro names _ rfl
    exact Check.having_alike key (Check.keys_alike key names)

end Members

namespace Members.Variant

variable {fixed : Prop} {S S' : Members} (h : Members.Variant fixed S S')

section
variable {f f' : Members → Check (Except Fault)}
  (hT : ∀ T : Members, T.Inside S → T.AsksAlike fixed f f') (key : String)

include hT in
theorem inside_alike {o o' : Option Members} (ho : Option.Rel (Members.Variant fixed) o o')
    (hinside : ∀ T, o = some T → T.Inside S) :
    Option.Rel (Check.Alike fixed) (o.map f) (o'.map f') := by
  cases ho with
  | none => exact .none
  | some hTT' => exact .some (hT _ (hinside _ rfl) _ hTT')

include h hT

theorem schema?_alike :
    Option.Rel (Check.Alike fixed) ((S.schema? key).map f) ((S'.schema? key).map f') :=
  inside_alike hT (h.schema? key) fun _ => inside_of_schema?

theorem schemas?_alike : Option.Rel (List.Forall₂ (Check.Alike fixed))
    ((S.schemas? key).map (·.map f)) ((S'.schemas? key).map (·.map f')) := by
  have hinside : ∀ Ts, S.schemas? key = some Ts → ∀ T ∈ Ts, T.Inside S :=
    fun _ hTs _ => inside_of_schemas? hTs
  have hrel := h.schemas? key
  generalize S.schemas? key = o, S'.schemas? key = o' at hinside hrel
  cases hrel with
  | none => exact .none
  | some hTs =>
    refine .some ?_
    rw [List.forall₂_map_left_iff, List.forall₂_map_right_iff]
    refine forall₂_imp_mem hTs ?_
    intro T hmem
    exact hT T (hinside _ rfl T hmem)

theorem named_alike : Matched fixed (Keyed (Check.Alike fixed))
    ((S.named key).map fun (name, T) => (name, f T))
    ((S'.named key).map fun (name, T) => (name, f' T)) := by
  have hchecks : Matched fixed (fun e e' => e.1 = e'.1 ∧ Check.Alike fixed (f e.2) (f' e'.2))
      (S.named key) (S'.named key) := by
    refine (h.named key).imp_mem ?_
    rintro e he e' ⟨hname, hTT'⟩
    exact ⟨hname, hT e.2 (inside_of_named he) _ hTT'⟩
  exact hchecks.map fun _ _ he => he

theorem dependencies_alike : Matched fixed (Check.Alike fixed)
    (S.dependencies.map fun (key, needs) => onDependency key needs (needs.members?.map f))
    (S'.dependencies.map fun (key, needs) => onDependency key needs (needs.members?.map f')) := by
  have hchecks : Matched fixed (fun e e' => e.1 = e'.1 ∧ Json.Variant fixed e.2 e'.2 ∧
      Option.Rel (Check.Alike fixed) (e.2.members?.map f) (e'.2.members?.map f'))
      S.dependencies S'.dependencies := by
    refine (h.entries "dependencies").imp_mem ?_
    rintro ⟨key, needs⟩ he ⟨key', needs'⟩ ⟨hkey, hn⟩
    exact ⟨hkey, hn, inside_alike hT hn.members? fun T hmem => S.inside_of_mem_dependencies he hmem⟩
  refine hchecks.map ?_
  rintro ⟨key, needs⟩ ⟨_, needs'⟩ ⟨rfl, hn, hk⟩
  exact onDependency_alike key hn hk

end

include h

theorem rest_alike (key : String) {k k' : Option (Check (Except Fault))}
    (hk : Option.Rel (Check.Alike fixed) k k') :
    Rest.Alike fixed (S.rest key k) (S'.rest key k') := by
  cases hk with
  | some hk => exact .governed hk
  | none =>
    have hv := h.get? key
    unfold Members.rest
    generalize S.get? key = o, S'.get? key = o' at hv
    cases hv with
    | none => exact .allowed
    | @some v v' hv =>
      cases v with
      | object U =>
        obtain ⟨U', rfl, -⟩ := hv.object
        exact .allowed
      | array items =>
        obtain ⟨items', rfl, -⟩ := hv.array
        exact .allowed
      | bool b =>
        cases hv.reordered
        cases b with
        | false => exact .forbidden
        | true => exact .allowed
      | _ =>
        cases hv.reordered
        exact .allowed

theorem onProperties_alike {declared declared' : List (String × Check (Except Fault))}
    (hd : Matched fixed (Keyed (Check.Alike fixed)) declared declared')
    {patterned patterned' : List (String × Check (Except Fault))}
    (hp : Matched fixed (Keyed (Check.Alike fixed)) patterned patterned')
    {rest rest' : Rest (Except Fault)} (hr : Rest.Alike fixed rest rest') :
    PropertiesAlike fixed (S.onProperties declared patterned rest)
      (S'.onProperties declared' patterned' rest') := by
  have hpatterned : Matched fixed (Keyed (Check.Alike fixed))
      (patterned.map fun (source, check) => (Pattern.ofSource source, check))
      (patterned'.map fun (source, check) => (Pattern.ofSource source, check)) := by
    refine hp.map ?_
    rintro ⟨source, k⟩ ⟨_, k'⟩ ⟨rfl, hk⟩
    exact ⟨rfl, hk⟩
  unfold Members.onProperties
  rw [h.hasPropertyRules]
  split_ifs
  · exact Check.onProperties_alike hd hpatterned hr
  · intro c T T' _ _
    exact .pure Result.success_alike

end Members.Variant

namespace Members

variable {fixed : Prop}

/-- **Variants of a schema object ask alike things**, as long as references are treated alike. -/
theorem interpret_alike {registry : Registry}
    (hr : ∀ name checker, registry.get? name = some checker → checker.OrderFree)
    {follow follow' : Follow (Except Fault)}
    (hf : ∀ r, Check.Alike fixed (follow r) (follow' r)) (S : Members) :
    S.AsksAlike fixed (interpret registry follow) (interpret registry follow') := by
  induction S using inside_induction with
  | step S ih =>
    intro S' h
    rw [interpret_eq, interpret_eq]
    refine Check.all_alike (.of_forall₂ (.cons ?ref (.cons ?type (.cons ?allOf (.cons ?anyOf
      (.cons ?oneOf (.cons ?not (.cons ?enum (.cons ?text (.cons ?number (.cons ?array
      (.cons ?object (.cons ?dependencies (.cons ?format .nil))))))))))))))
    case ref =>
      refine rel_elim (rel_of_eq (h.string? _)) Check.anything_alike ?_
      rintro r _ rfl
      exact hf r
    case type => exact rel_elim (h.get? _) Check.anything_alike fun _ _ => Check.ofType_alike
    case allOf =>
      refine rel_elim (h.schemas?_alike ih _) Check.anything_alike ?_
      intro ks ks' hks
      exact Check.all_alike (.of_forall₂ hks)
    case anyOf =>
      exact rel_elim (h.schemas?_alike ih _) Check.anything_alike fun _ _ => Check.any_alike
    case oneOf =>
      exact rel_elim (h.schemas?_alike ih _) Check.anything_alike fun _ _ => Check.one_alike
    case not =>
      exact rel_elim (h.schema?_alike ih _) Check.anything_alike fun _ _ => Check.negation_alike
    case enum =>
      have hvalues := rel_bind (h.get? "enum") fun _ _ hv => hv.items?
      exact rel_elim hvalues Check.anything_alike fun _ _ => Check.enum_alike
    case text =>
      rw [h.textLimits]
      exact Check.text_alike _
    case number =>
      rw [h.numberLimits]
      exact Check.number_alike _
    case array =>
      rw [h.itemLimits]
      have hrest := h.rest_alike "additionalItems" (h.schema?_alike ih "additionalItems")
      exact Check.array_alike _
        (onItems_alike (h.schema?_alike ih _) (h.schemas?_alike ih _) hrest)
    case object =>
      rw [h.propertyLimits]
      have hrest := h.rest_alike "additionalProperties" (h.schema?_alike ih "additionalProperties")
      exact Check.object_alike _
        (h.onProperties_alike (h.named_alike ih _) (h.named_alike ih _) hrest)
    case dependencies => exact Check.all_alike (h.dependencies_alike ih).loosen
    case format =>
      refine rel_elim (rel_of_eq (h.string? _)) Check.anything_alike ?_
      rintro name _ rfl
      exact Check.format_alike (hr name)

/-- **References are treated alike** in variants of a document. -/
theorem pursue_alike {registry : Registry}
    (hr : ∀ name checker, registry.get? name = some checker → checker.OrderFree) {D D' : Members}
    (h : Members.Variant fixed D D') (limit remaining : ℕ) (reference : String) :
    Check.Alike fixed (D.pursue registry limit remaining reference)
      (D'.pursue registry limit remaining reference) := by
  -- a target is any part of the document, so only the room for references gets smaller
  induction remaining using Nat.strong_induction_on generalizing reference with
  | _ remaining ih =>
    intro c v v' hc hv
    have hres := h.resolve reference
    rw [pursue, pursue]
    generalize resolve (some D) reference = res, resolve (some D') reference = res' at hres
    cases hres with
    | error e =>
      intro r r' hr
      cases hr
    | remote => exact .pure (Context.check_alike_self _)
    | notFound segment => exact .pure (Context.check_alike_self _)
    | @found T T' hT =>
      dsimp only
      split_ifs
      · exact .pure (Context.check_alike_self _)
      · cases remaining with
        | zero => exact .pure (Context.check_alike_self _)
        | succ remaining =>
          exact interpret_alike hr (ih remaining (Nat.lt_succ_self _)) T T' hT _ v v' hc hv

end Members

/-! ## Schemas -/

/-- **The order of keys does not matter.**  If two documents differ in the order of keys only, and
so do two values, the schemas of the documents give the same verdict on the values, as long as no
checker depends on the order of keys.  If the document is the same and no causes are collected,
the errors are the same in some order, the values aside. -/
theorem key_order_irrelevant {D D' : Members} {options : Options} {s s' : Schema}
    {registry : Registry} (h : (Schema.build (.object D) options).schema = .ok s)
    (h' : (Schema.build (.object D') options).schema = .ok s')
    (hr : Registry.build options.formats = .ok registry)
    (hf : ∀ name checker, registry.get? name = some checker → checker.OrderFree)
    (hD : (Json.object D).UniqueKeys) (hDD' : (Json.object D).Reordered (.object D'))
    {v v' : Json} (hv : v.UniqueKeys) (hvv' : v.Reordered v') :
    (s.validate v).valid = (s'.validate v').valid ∧
      (D = D' → options.verbose = false →
        ((s.validate v).errors.map (·.withoutValue)).Perm
          ((s'.validate v').errors.map (·.withoutValue))) := by
  have hdocuments : Members.Variant (D = D' ∧ options.verbose = false) D D' :=
    ⟨hD, hDD', fun hsame => by rw [hsame.1]⟩
  have halike := Members.interpret_alike hf (Members.pursue_alike hf hdocuments
    options.maxReferenceDepth.toNat options.maxReferenceDepth.toNat) D D' hdocuments
    (.start options.verbose) v v' (fun hsame => hsame.2) ⟨hv, hvv', False.elim⟩
  have hresult := validate?_eq_interpretation h hr v
  have hresult' := validate?_eq_interpretation h' hr v'
  rw [validate?_eq h v] at hresult
  rw [validate?_eq h' v'] at hresult'
  have hresults := halike _ _ hresult.symm hresult'.symm
  exact ⟨hresults.valid, fun hsame hverbose => hresults.errors ⟨hsame, hverbose⟩⟩

/-! ### Chains, and what does not belong into them -/

/-- Objects with a next one at most. -/
def chainDocument : Members :=
  [("additionalProperties", .bool false),
    ("properties", .object [("next", .object [("$ref", .string "#")])])]

/-- The same, with the keys in the other order. -/
def turnedChainDocument : Members :=
  [("properties", .object [("next", .object [("$ref", .string "#")])]),
    ("additionalProperties", .bool false)]

/-- A chain of two, with properties that are not permitted. -/
def chainValue : Json :=
  .object [("next", .object [("a", .int 1), ("b", .int 2)]), ("c", .null)]

/-- The same, with the keys in the other order, in both objects. -/
def turnedChainValue : Json :=
  .object [("c", .null), ("next", .object [("b", .int 2), ("a", .int 1)])]

theorem build_chain {D : Members} (hs : D.steps .builtIn = [.reference rootReference])
    (hp : ((Session.start .builtIn).takeUp D).pending D = []) :
    (Schema.build (.object D) .default).schema = .ok (D.compiled .builtIn .default) := by
  refine build_eq_ok_iff.2 ⟨.builtIn, rfl, by decide, ?_, rfl⟩
  refine (survey_idle ?_ ?_).2
  · intro d
    change _ ∉ D.steps .builtIn
    simp [hs]
  · intro r _
    simp [hp]

/-- The checkers that are always known do not depend on the order of keys. -/
theorem Registry.orderFree_builtIn {name : String} {checker : Checker}
    (h : Registry.builtIn.get? name = some checker) : checker.OrderFree := by
  obtain ⟨accepts, rfl⟩ := Registry.exists_ofText h
  intro v v' _ hvv'
  cases hvv' <;> rfl

theorem key_order_irrelevant_chainValue :
    (Json.object chainDocument).Reordered (.object turnedChainDocument) ∧
      chainValue.Reordered turnedChainValue ∧
      ((chainDocument.compiled .builtIn .default).validate chainValue).valid =
        ((turnedChainDocument.compiled .builtIn .default).validate turnedChainValue).valid ∧
      (((chainDocument.compiled .builtIn .default).validate chainValue).errors.map
          (·.withoutValue)).Perm
        (((chainDocument.compiled .builtIn .default).validate turnedChainValue).errors.map
          (·.withoutValue)) := by
  have hb : (Schema.build (.object chainDocument) .default).schema =
      .ok (chainDocument.compiled .builtIn .default) := build_chain rfl rfl
  have hb' : (Schema.build (.object turnedChainDocument) .default).schema =
      .ok (turnedChainDocument.compiled .builtIn .default) := build_chain rfl rfl
  have hD : (Json.object chainDocument).UniqueKeys := by
    simp [chainDocument, Json.UniqueKeys, Json.UniqueKeysMembers, Members.keys]
  have hv : chainValue.UniqueKeys := by
    simp [chainValue, Json.UniqueKeys, Json.UniqueKeysMembers, Members.keys]
  have hDD' : (Json.object chainDocument).Reordered (.object turnedChainDocument) :=
    .object (.swap _ _ _) rfl (.cons (.refl _) (.cons (.refl _) .nil))
  have hvv' : chainValue.Reordered turnedChainValue :=
    .object (.swap _ _ _) rfl
      (.cons (.refl _) (.cons (.object (.swap _ _ _) rfl (.cons (.refl _) (.cons (.refl _) .nil)))
        .nil))
  have hf : ∀ name checker, Registry.builtIn.get? name = some checker → checker.OrderFree :=
    fun _ _ => Registry.orderFree_builtIn
  exact ⟨hDD', hvv', (key_order_irrelevant hb hb' rfl hf hD hDD' hv hvv').1,
    (key_order_irrelevant hb hb rfl hf hD (.refl _) hv hvv').2 rfl rfl⟩

end JsonSchema
