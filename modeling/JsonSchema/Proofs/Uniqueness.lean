/-
  Lists without equal items.

  * `uniqueItems_iff`: items are unique if no two of them, at different indices,
    are equal, whichever is compared with which.
  * `uniqueItems_perm`, `uniqueItems_set`: neither the order of the items matters
    nor which of several equal values an item is.
  * `validate_unique`, `validate_listing`: what the keywords say of a value.
  * `uniqueItems_sees_every_pair`: all of it, and that `uniqueItems` and `enum`
    mean the same by equal.
-/
import JsonSchema.Proofs.Equality
import JsonSchema.Proofs.Totality

namespace JsonSchema

variable {items others : List Json}

/-! ## Every pair -/

/-- Each item is compared with those after it. -/
theorem uniqueItems_iff_pairwise :
    uniqueItems items = true ↔ items.Pairwise fun v w => v.equal w = false := by
  induction items with
  | nil => simp [uniqueItems]
  | cons item items ih => simp [uniqueItems, ih]

/-- As equality is symmetric, each item is compared with all others. -/
theorem uniqueItems_iff_apart (hu : ∀ v ∈ items, v.UniqueKeys) : uniqueItems items = true ↔
    items.Pairwise fun v w => v.equal w = false ∧ w.equal v = false := by
  rw [uniqueItems_iff_pairwise]
  refine List.Pairwise.iff_of_mem ?_
  intro v w hv hw
  rw [Json.equal_comm (hu w hw) (hu v hv), and_self]

/-- **Items are unique if no two of them are equal.** -/
theorem uniqueItems_iff (hu : ∀ v ∈ items, v.UniqueKeys) : uniqueItems items = true ↔
    ∀ (i j : ℕ) (hi : i < items.length) (hj : j < items.length), i ≠ j →
      items[i].equal items[j] = false := by
  rw [uniqueItems_iff_apart hu, List.pairwise_iff_getElem]
  constructor
  · intro h i j hi hj hij
    rcases Nat.lt_or_gt_of_ne hij with hlt | hgt
    · exact (h i j hi hj hlt).1
    · exact (h j i hj hi hgt).2
  · intro h i j hi hj hij
    exact ⟨h i j hi hj hij.ne, h j i hj hi hij.ne'⟩

/-! ## What does not matter -/

/-- **The order of the items does not matter.** -/
theorem uniqueItems_perm (hu : ∀ v ∈ items, v.UniqueKeys) (h : items.Perm others) :
    uniqueItems others = uniqueItems items := by
  have hu' : ∀ v ∈ others, v.UniqueKeys := fun v hv => hu v (h.symm.subset hv)
  rw [Bool.eq_iff_iff, uniqueItems_iff_apart hu, uniqueItems_iff_apart hu']
  exact (h.pairwise_iff fun hapart => hapart.symm).symm

/-- An item that comes first may be replaced by an equal one. -/
theorem uniqueItems_cons_congr {v w : Json} (hv : v.UniqueKeys) (hw : w.UniqueKeys)
    (hu : ∀ u ∈ items, u.UniqueKeys) (h : v.equal w = true) :
    uniqueItems (v :: items) = uniqueItems (w :: items) := by
  rw [uniqueItems, uniqueItems]
  congr 1
  rw [Bool.eq_iff_iff, List.all_eq_true, List.all_eq_true]
  refine forall₂_congr fun u hm => ?_
  rw [Json.equal_congr hv hw (hu u hm) h]

/-- **An item may be replaced by an equal one.** -/
theorem uniqueItems_set (hu : ∀ v ∈ items, v.UniqueKeys) {i : ℕ} (hi : i < items.length) {w : Json}
    (hw : w.UniqueKeys) (h : items[i].equal w = true) :
    uniqueItems (items.set i w) = uniqueItems items := by
  have hrest : ∀ v ∈ items.eraseIdx i, v.UniqueKeys := by
    intro v hv
    exact hu v (List.mem_of_mem_eraseIdx hv)
  have hset : ∀ v ∈ items.set i w, v.UniqueKeys := by
    intro v hv
    rcases List.mem_or_eq_of_mem_set hv with hv | rfl
    · exact hu v hv
    · exact hw
  calc uniqueItems (items.set i w)
    _ = uniqueItems (w :: items.eraseIdx i) :=
      (uniqueItems_perm hset (List.set_perm_cons_eraseIdx hi w)).symm
    _ = uniqueItems (items[i] :: items.eraseIdx i) :=
      (uniqueItems_cons_congr (hu _ (List.getElem_mem hi)) hw hrest h).symm
    _ = uniqueItems items := uniqueItems_perm hu (List.getElem_cons_eraseIdx_perm hi).symm

/-! ## The keywords -/

/-- A document that asks for unique items. -/
def uniqueDocument : Members := [("uniqueItems", .bool true)]

/-- A document that lists one value. -/
def listingDocument (v : Json) : Members := [("enum", .array [v])]

/-- A document without references and patterns is compiled. -/
theorem build_of_steps_eq_nil {D : Members} {options : Options} {registry : Registry}
    (hr : Registry.build options.formats = .ok registry) (hd : 1 ≤ options.maxReferenceDepth)
    (h : D.steps registry = []) :
    (Schema.build (.object D) options).schema = .ok (D.compiled registry options) := by
  refine build_eq_ok_iff.2 ⟨registry, hr, hd, ?_, rfl⟩
  change (survey _ _ _ (D.steps registry)).failure = none
  rw [h, survey]
  rfl

section
variable (registry : Registry) (options : Options)

/-- An array is accepted if its items are unique. -/
theorem validate_unique (items : List Json) :
    ((uniqueDocument.compiled registry options).validate (.array items)).valid =
      uniqueItems items := by
  have hresult : (uniqueDocument.compiled registry options).validate? (.array items) =
      .ok (.merge [.merge [(Context.start options.verbose).check (.array items)
        (violationIf (!uniqueItems items) .uniqueItems)]]) := rfl
  rw [Schema.validate, hresult]
  cases uniqueItems items <;> rfl

/-- The value that is listed is accepted, and what equals it. -/
theorem validate_listing (v w : Json) :
    (((listingDocument v).compiled registry options).validate w).valid = w.equal v := by
  have hresult : ((listingDocument v).compiled registry options).validate? w =
      .ok (.merge [(Context.start options.verbose).check w
        (violationIf (!(w.equal v || false)) (.enum [v]))]) := rfl
  rw [Schema.validate, hresult]
  cases w.equal v <;> rfl

end

/-- **Unique items, pair by pair.**  The items of a list are unique if no two of them are equal, in
whichever order they are compared.  So their order does not matter, and an item may be replaced by
one that is equal.  And of two values an array is refused for being equal exactly if one is accepted
where the other is listed.  An object holds no key twice; as its members are a list here, this has
to be said. -/
theorem uniqueItems_sees_every_pair (hu : ∀ v ∈ items, v.UniqueKeys) {options : Options}
    {registry : Registry} (hr : Registry.build options.formats = .ok registry)
    (hd : 1 ≤ options.maxReferenceDepth) :
    (uniqueItems items = true ↔
        ∀ (i j : ℕ) (hi : i < items.length) (hj : j < items.length), i ≠ j →
          items[i].equal items[j] = false) ∧
      (∀ others, items.Perm others → uniqueItems others = uniqueItems items) ∧
      (∀ (i : ℕ) (hi : i < items.length) (w : Json), w.UniqueKeys → items[i].equal w = true →
        uniqueItems (items.set i w) = uniqueItems items) ∧
      ∀ v w : Json, v.UniqueKeys → w.UniqueKeys →
        ∃ unique listing,
          (Schema.build (.object uniqueDocument) options).schema = .ok unique ∧
          (Schema.build (.object (listingDocument v)) options).schema = .ok listing ∧
          ((unique.validate (.array [v, w])).valid = false ↔
            (listing.validate w).valid = true) := by
  refine ⟨uniqueItems_iff hu, fun others => uniqueItems_perm hu, ?_, ?_⟩
  · intro i hi w hw h
    exact uniqueItems_set hu hi hw h
  · intro v w hv hw
    refine ⟨_, _, build_of_steps_eq_nil hr hd rfl, build_of_steps_eq_nil hr hd rfl, ?_⟩
    rw [validate_unique, validate_listing, Json.equal_comm hw hv]
    simp [uniqueItems]

/-! ### Equal objects of different kinds of one -/

theorem uniqueItems_sees_every_pair_ones :
    (∀ v ∈ [Json.trueAndOne, .null, Json.doubleAndTrue], v.UniqueKeys) ∧
      uniqueItems [Json.trueAndOne, .null, Json.doubleAndTrue] = false ∧
      uniqueItems [.null, Json.trueAndOne, Json.doubleAndTrue] = false ∧
      Json.trueAndOne.equal Json.oneAndDouble = true ∧
      uniqueItems [Json.oneAndDouble, .null, Json.doubleAndTrue] = false ∧
      ∃ unique listing,
        (Schema.build (.object uniqueDocument) .default).schema = .ok unique ∧
        (Schema.build (.object (listingDocument Json.trueAndOne)) .default).schema = .ok listing ∧
        (unique.validate (.array [Json.trueAndOne, Json.oneAndDouble])).valid = false ∧
        (listing.validate Json.oneAndDouble).valid = true := by
  obtain ⟨hfirst, hsecond, hthird⟩ := Json.uniqueKeys_ones
  have hu : ∀ v ∈ [Json.trueAndOne, .null, Json.doubleAndTrue], v.UniqueKeys := by
    simp only [List.mem_cons, List.not_mem_nil, or_false, forall_eq_or_imp, forall_eq]
    exact ⟨hfirst, trivial, hthird⟩
  have hequal := Json.trueAndOne_equal_oneAndDouble
  have hfalse : uniqueItems [Json.trueAndOne, .null, Json.doubleAndTrue] = false := by
    decide +kernel
  have hr : Registry.build Options.default.formats = .ok .builtIn := rfl
  obtain ⟨-, hperm, hset, hschemas⟩ := uniqueItems_sees_every_pair hu hr (by decide)
  obtain ⟨unique, listing, hunique, hlisting, hiff⟩ := hschemas _ _ hfirst hsecond
  have hrefused :
      (unique.validate (.array [Json.trueAndOne, Json.oneAndDouble])).valid = false := by
    have hbuilt : (Schema.build (.object uniqueDocument) .default).schema =
        .ok (uniqueDocument.compiled .builtIn .default) :=
      build_of_steps_eq_nil hr (by decide) rfl
    obtain rfl := Except.ok.inj (hunique.symm.trans hbuilt)
    rw [validate_unique, uniqueItems, List.all_cons, hequal]
    rfl
  refine ⟨hu, hfalse, ?_, hequal, ?_, unique, listing, hunique, hlisting, hrefused,
    hiff.1 hrefused⟩
  · rw [hperm _ (.swap _ _ _), hfalse]
  · rw [← hfalse]
    exact hset 0 (by decide) _ hsecond hequal

end JsonSchema
