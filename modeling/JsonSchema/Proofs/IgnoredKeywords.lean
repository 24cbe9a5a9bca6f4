/-
  Keywords that are ignored.

  * `keywordShapes`: the keywords, and what their values have to be for them to
    count.
  * `Members.Strips`: nothing is left out of a schema object but keys that are no
    keywords, and keywords whose values have the wrong shape.
  * `Members.Strips.bind_eq`: every keyword is found to hold the same, as far as
    it counts.
  * `Members.Strips.interpret_eq`: the stripped schema object asks the same.
  * `ignored_keywords_idle`: it says the same of every value.
-/
import JsonSchema.Proofs.Independence

namespace JsonSchema

/-! ## Shapes -/

/-- What the value of a keyword has to be for the keyword to count. -/
inductive Shape where
  | anything
  | text
  | number
  /-- `true` itself -/
  | on
  | list
  | texts
  | schema
  | schemas
  | schemaOrSchemas
  | schemaOrFalse

/-- A value has a shape. -/
def Shape.fits : Shape → Json → Bool
  | anything, _ => true
  | text, .string _ => true
  | number, .int _ => true
  | number, .double _ => true
  | on, .bool true => true
  | list, .array _ => true
  | texts, .array items => items.all fun item => item.string?.isSome
  | schema, .object _ => true
  | schemas, .array items => items.all (·.isObject)
  | schemaOrSchemas, .object _ => true
  | schemaOrSchemas, .array items => items.all (·.isObject)
  | schemaOrFalse, .object _ => true
  | schemaOrFalse, .bool false => true
  | _, _ => false

/-- The keywords with their shapes.  A `type` counts whatever it is: if it is no name and no list of
names, nothing is an instance of it. -/
def keywordShapes : List (String × Shape) :=
  [("$ref", .text), ("type", .anything), ("allOf", .schemas), ("anyOf", .schemas),
    ("oneOf", .schemas), ("not", .schema), ("enum", .list),
    ("maxLength", .number), ("minLength", .number), ("pattern", .text),
    ("multipleOf", .number), ("minimum", .number), ("exclusiveMinimum", .on),
    ("maximum", .number), ("exclusiveMaximum", .on),
    ("minItems", .number), ("maxItems", .number), ("uniqueItems", .on),
    ("items", .schemaOrSchemas), ("additionalItems", .schemaOrFalse),
    ("maxProperties", .number), ("minProperties", .number), ("required", .texts),
    ("properties", .schema), ("patternProperties", .schema),
    ("additionalProperties", .schemaOrFalse), ("dependencies", .schema), ("format", .text)]

example : keywordShapes.map (·.1) = keywordGroups.flatten := rfl

/-- A key is a keyword, and its value has the shape that the keyword asks for. -/
def isRecognized (key : String) (value : Json) : Bool :=
  (keywordShapes.lookup key).any (·.fits value)

namespace Shape

variable {shape : Shape} {v : Json}

theorem fits_of_string? {s : String} (h : v.string? = some s) : text.fits v = true := by
  cases v <;> first | rfl | cases h

theorem fits_of_number? {n : Number} (h : v.number? = some n) : number.fits v = true := by
  cases v <;> first | rfl | cases h

theorem fits_of_isTrue (h : v.isTrue = true) : on.fits v = true := by
  cases v with
  | bool b => cases h; rfl
  | _ => cases h

theorem fits_of_items? {items : List Json} (h : v.items? = some items) : list.fits v = true := by
  cases v <;> first | rfl | cases h

/-- A list that is read item by item has items that all can be read. -/
theorem all_of_mapM {α : Type} {f : Json → Option α} {items : List Json} {as : List α}
    (h : items.mapM f = some as) : ∀ item ∈ items, (f item).isSome = true := by
  induction items generalizing as with
  | nil => simp
  | cons item items ih =>
    simp only [List.mapM_cons, Option.bind_eq_bind, Option.bind_eq_some_iff, Option.pure_def,
      Option.some.injEq] at h
    obtain ⟨a, ha, as, has, rfl⟩ := h
    rw [List.forall_mem_cons]
    exact ⟨Option.isSome_of_eq_some ha, ih has⟩

theorem fits_of_strings? {names : List String} (h : v.strings? = some names) :
    texts.fits v = true := by
  cases v with
  | array items => exact List.all_eq_true.2 (all_of_mapM h)
  | _ => cases h

theorem fits_of_objects? {Ts : List Members} (h : v.objects? = some Ts)
    (hshape : shape = .schemas ∨ shape = .schemaOrSchemas) : shape.fits v = true := by
  cases v with
  | array items =>
    have hall : items.all (·.isObject) = true := by
      refine List.all_eq_true.2 fun item hitem => ?_
      obtain ⟨T, hT⟩ := Option.isSome_iff_exists.1 (all_of_mapM h item hitem)
      rw [Members.eq_object_of_members? hT]
      rfl
    rcases hshape with rfl | rfl <;> exact hall
  | _ => cases h

theorem fits_of_members? {T : Members} (h : v.members? = some T)
    (hshape : shape = .schema ∨ shape = .schemaOrSchemas ∨ shape = .schemaOrFalse) :
    shape.fits v = true := by
  rw [Members.eq_object_of_members? h]
  rcases hshape with rfl | rfl | rfl <;> rfl

end Shape

/-! ## Leaving out what is not recognized -/

namespace Members

/-- Nothing is left out of a schema object but members that are not recognized. -/
structure Strips (S' S : Members) : Prop where
  sublist : S'.Sublist S
  keeps : ∀ member ∈ S, isRecognized member.1 member.2 = true → member ∈ S'

/-- The members that are recognized. -/
def recognized (S : Members) : Members := S.filter fun (key, value) => isRecognized key value

theorem strips_recognized (S : Members) : S.recognized.Strips S where
  sublist := List.filter_sublist
  keeps _ hmember hrecognized := List.mem_filter.2 ⟨hmember, hrecognized⟩

variable {S' S : Members}

theorem rest_eq_allowed {m : Type → Type} [Monad m] {key : String}
    (h : S.get? key ≠ some (.bool false)) : S.rest key (none : Option (Check m)) = .allowed := by
  unfold rest
  split
  case h_1 check hnone => cases hnone
  case h_2 =>
    split
    · exact absurd ‹_› h
    · rfl

namespace Strips

variable {shape : Shape} (h : S'.Strips S) (hS : S.keys.Nodup)

include h hS

theorem narrows : S'.Narrows S := fun _ _ hv =>
  lookup_of_mem hS (h.sublist.subset (mem_of_get? hv))

theorem get?_of_isRecognized {key : String} {v : Json} (hrecognized : isRecognized key v = true) :
    S'.get? key = some v ↔ S.get? key = some v := by
  refine ⟨h.narrows hS key v, fun hv => ?_⟩
  exact lookup_of_mem (hS.sublist (h.sublist.map _)) (h.keeps _ (mem_of_get? hv) hrecognized)

variable (key : String)

/-- **A keyword is read alike**, as long as nothing is read from values of another shape. -/
theorem bind_eq (hk : keywordShapes.lookup key = some shape) {α : Type} {f : Json → Option α}
    (hf : ∀ v a, f v = some a → shape.fits v = true) :
    (S'.get? key).bind f = (S.get? key).bind f := by
  ext a
  simp only [Option.bind_eq_some_iff]
  refine exists_congr fun v => and_congr_left fun hv => h.get?_of_isRecognized hS ?_
  simp [isRecognized, hk, hf v a hv]

theorem get?_eq (hk : keywordShapes.lookup key = some .anything) : S'.get? key = S.get? key := by
  simpa using h.bind_eq hS key hk (f := some) fun _ _ _ => rfl

theorem string? (hk : keywordShapes.lookup key = some .text) : S'.string? key = S.string? key :=
  h.bind_eq hS key hk fun _ _ => Shape.fits_of_string?

theorem number? (hk : keywordShapes.lookup key = some .number) : S'.number? key = S.number? key :=
  h.bind_eq hS key hk fun _ _ => Shape.fits_of_number?

theorem items? (hk : keywordShapes.lookup key = some .list) :
    (S'.get? key).bind (·.items?) = (S.get? key).bind (·.items?) :=
  h.bind_eq hS key hk fun _ _ => Shape.fits_of_items?

theorem strings? (hk : keywordShapes.lookup key = some .texts) :
    S'.strings? key = S.strings? key :=
  h.bind_eq hS key hk fun _ _ => Shape.fits_of_strings?

theorem schemas? (hk : keywordShapes.lookup key = some shape)
    (hshape : shape = .schemas ∨ shape = .schemaOrSchemas) : S'.schemas? key = S.schemas? key :=
  h.bind_eq hS key hk fun _ _ hTs => Shape.fits_of_objects? hTs hshape

theorem schema? (hk : keywordShapes.lookup key = some shape)
    (hshape : shape = .schema ∨ shape = .schemaOrSchemas ∨ shape = .schemaOrFalse) :
    S'.schema? key = S.schema? key :=
  h.bind_eq hS key hk fun _ _ hT => Shape.fits_of_members? hT hshape

theorem named (hk : keywordShapes.lookup key = some .schema) : S'.named key = S.named key := by
  rw [Members.named, Members.named, h.schema? hS key hk (.inl rfl)]

theorem isTrue (hk : keywordShapes.lookup key = some .on) : S'.isTrue key = S.isTrue key := by
  rw [Members.isTrue, Members.isTrue, Bool.eq_iff_iff, Option.any_eq_true, Option.any_eq_true]
  refine exists_congr fun v => and_congr_left fun hv => h.get?_of_isRecognized hS ?_
  simp [isRecognized, hk, Shape.fits_of_isTrue hv]

theorem rest (hk : keywordShapes.lookup key = some .schemaOrFalse) {m : Type → Type} [Monad m]
    (check : Option (Check m)) : S'.rest key check = S.rest key check := by
  have hfalse : S'.get? key = some (.bool false) ↔ S.get? key = some (.bool false) :=
    h.get?_of_isRecognized hS (by simp [isRecognized, hk, Shape.fits])
  cases check with
  | some check => rfl
  | none =>
    by_cases hf : S.get? key = some (.bool false)
    · rw [Members.rest, Members.rest, hf, hfalse.2 hf]
    · rw [rest_eq_allowed hf, rest_eq_allowed (mt hfalse.1 hf)]

end Strips

end Members

/-! ## Asking the same -/

section
variable {m : Type → Type} [Monad m] [LawfulMonad m]

theorem Check.onProperties_nothing :
    onProperties (m := m) [] [] .allowed = freeProperties := by
  funext c members
  simp [onProperties, onKeys, onMatches, Rest.results, freeProperties]

namespace Members

variable {S' S : Members}

/-- Without keywords on properties, nothing is asked of them. -/
theorem onProperties_eq (S : Members) (f : Members → Check m) :
    S.onProperties ((S.named "properties").map fun (name, T) => (name, f T))
        ((S.named "patternProperties").map fun (name, T) => (name, f T))
        (S.rest "additionalProperties" ((S.schema? "additionalProperties").map f)) =
      Check.onProperties ((S.named "properties").map fun (name, T) => (name, f T))
        ((S.named "patternProperties").map fun (source, T) => (.ofSource source, f T))
        (S.rest "additionalProperties" ((S.schema? "additionalProperties").map f)) := by
  unfold onProperties
  split_ifs with hp
  · rw [List.map_map]
    rfl
  · simp only [hasPropertyRules, Bool.or_eq_true, not_or, Bool.not_eq_true] at hp
    obtain ⟨⟨hd, hm⟩, ha⟩ := hp
    have hnone : S.get? "additionalProperties" = none := by simpa [has] using ha
    rw [named_eq_nil S hd, named_eq_nil S hm, schema?_eq_none S ha, Option.map_none,
      rest_eq_allowed (by simp [hnone]), List.map_nil, List.map_nil, Check.onProperties_nothing]
    rfl

variable [MonadExceptOf Fault m]

/-- **A schema object asks the same without the members that are not recognized.** -/
theorem Strips.interpret_eq (h : S'.Strips S) (hS : S.keys.Nodup) (registry : Registry)
    (follow : Follow m) : S'.interpret registry follow = S.interpret registry follow := by
  rw [Members.interpret_eq, Members.interpret_eq]
  simp only [onProperties_eq, textLimits, numberLimits, itemLimits, propertyLimits, dependencies]
  simp only [h.get?_eq hS "type" rfl, h.items? hS "enum" rfl, h.strings? hS "required" rfl,
    h.string? hS "$ref" rfl, h.string? hS "pattern" rfl, h.string? hS "format" rfl,
    h.number? hS "maxLength" rfl, h.number? hS "minLength" rfl, h.number? hS "multipleOf" rfl,
    h.number? hS "minimum" rfl, h.number? hS "maximum" rfl, h.number? hS "minItems" rfl,
    h.number? hS "maxItems" rfl, h.number? hS "maxProperties" rfl,
    h.number? hS "minProperties" rfl, h.isTrue hS "exclusiveMinimum" rfl,
    h.isTrue hS "exclusiveMaximum" rfl, h.isTrue hS "uniqueItems" rfl,
    h.schemas? hS "allOf" rfl (.inl rfl), h.schemas? hS "anyOf" rfl (.inl rfl),
    h.schemas? hS "oneOf" rfl (.inl rfl), h.schemas? hS "items" rfl (.inr rfl),
    h.schema? hS "not" rfl (.inl rfl), h.schema? hS "items" rfl (.inr (.inl rfl)),
    h.schema? hS "additionalItems" rfl (.inr (.inr rfl)),
    h.schema? hS "additionalProperties" rfl (.inr (.inr rfl)),
    h.schema? hS "dependencies" rfl (.inl rfl), h.named hS "properties" rfl,
    h.named hS "patternProperties" rfl, h.rest hS "additionalItems" rfl,
    h.rest hS "additionalProperties" rfl]

end Members

end

/-! ## Saying the same -/

/-- **Unknown keywords, and keywords whose values have the wrong shape, are ignored.**  A session
has compiled a document, and it compiles a schema object, in which no key is repeated.  If nothing
is left out of the object but members that are not recognized, then the session compiles what is
left, before the object itself or after it, and on every value, at every place and under every
limit it says the same. -/
theorem ignored_keywords_idle {s : Session} {D S S' : Members} {p : Program} {rules : List Rule}
    (h : (s.compile D).result = .ok p)
    (hS : ((s.compile D).session.compileRules S).result = .ok rules) (hkeys : S.keys.Nodup)
    (hstrips : S'.Strips S) (limit : ℕ) (c : Context) (v : Json) :
    ∃ r : Result, (s.compile D).session.verdict D limit S c v = .ok r ∧
      (s.compile D).session.verdict D limit S' c v = .ok r ∧
      ((s.compile D).session.compileRules S).session.verdict D limit S' c v = .ok r := by
  set t := (s.compile D).session
  have ht : t.At D := Session.at_of_compile h
  obtain ⟨hafter, -⟩ := ht.compileRules (Session.compileRules_eq_ok_iff.1 hS).1
  have hnarrows := hstrips.narrows hkeys
  obtain ⟨r, hr⟩ := ht.interpret_total ⟨rules, hS⟩ limit c v
  have hr' := hstrips.interpret_eq hkeys t.registry
    (D.pursue t.registry limit (limit - c.active.length) : Follow (Except Fault))
  refine ⟨r, ?_, ?_, ?_⟩
  · rw [ht.verdict_eq ⟨rules, hS⟩, hr]
    rfl
  · rw [ht.verdict_eq (ht.compiles_narrower hnarrows ⟨rules, hS⟩), hr', hr]
    rfl
  · have hcompiles := hafter.compiles_iff.2
      (ht.compiles_iff.1 (ht.compiles_narrower hnarrows ⟨rules, hS⟩))
    rw [hafter.verdict_eq hcompiles]
    exact congrArg (Except.mapError Sum.inr) ((congrFun (congrFun hr' c) v).trans hr)

/-! ### A schema object with much that is ignored -/

/-- A schema object of many groups among keywords of the wrong shape, some of which bring in the
checks of properties and items, and a key that is no keyword. -/
def clutteredSchema : Members :=
  [("properties", .int 5), ("const", .int 4), ("items", .array [.object [], .null]),
    ("additionalItems", .bool false), ("minimum", .bool true)] ++ mixedSchema ++
  [("uniqueItems", .string "yes"), ("not", .array []), ("additionalProperties", .bool true)]

theorem recognized_clutteredSchema :
    clutteredSchema.recognized = ("additionalItems", .bool false) :: mixedSchema := rfl

theorem ignored_keywords_idle_clutteredSchema :
    ((Session.start .builtIn).compile listDocument).result = .ok listSchema.program ∧
      ∃ r : Result,
        ((Session.start .builtIn).compile listDocument).session.verdict listDocument 64
          clutteredSchema (.start true) listValue = .ok r ∧
        ((Session.start .builtIn).compile listDocument).session.verdict listDocument 64
          (("additionalItems", .bool false) :: mixedSchema) (.start true) listValue = .ok r := by
  have hstrips := clutteredSchema.strips_recognized
  rw [recognized_clutteredSchema] at hstrips
  obtain ⟨r, hr, hr', -⟩ := ignored_keywords_idle compile_listDocument
    (compileRules_of_steps (S := clutteredSchema) rfl) (by decide) hstrips 64 (.start true)
    listValue
  exact ⟨compile_listDocument, r, hr, hr'⟩

end JsonSchema
