/-
  Equality of values, as a relation.

  * `Number.equal_symm`, `Number.equal_trans`, `Number.equal_self_iff`: numbers
    are equal if they have a place on the number line, and the same one.
  * `Json.null_equal_iff`, …: what a value of each kind is equal to.  Objects are
    equal if they have the same keys, and equal values under each; in this form
    the two sides are treated alike, although only one of them is gone through.
  * `Json.HoldsNaN`: not-a-number is somewhere in a value.
  * `Json.equal_symm`, `Json.equal_trans`, `Json.equal_self_iff`: the same for
    values; `equal_partial_equivalence` has it all.
-/
import JsonSchema.Proofs.Respelling

namespace JsonSchema

/-! ## Numbers -/

namespace Number

variable {x y z : Number}

theorem equal_symm (h : x.equal y = true) : y.equal x = true := by
  obtain ⟨p, hx, hy⟩ := equal_iff.1 h
  exact equal_iff.2 ⟨p, hy, hx⟩

theorem equal_trans (h : x.equal y = true) (h' : y.equal z = true) : x.equal z = true := by
  obtain ⟨p, hx, hy⟩ := equal_iff.1 h
  obtain ⟨q, hy', hz⟩ := equal_iff.1 h'
  obtain rfl : p = q := Option.some.inj (hy.symm.trans hy')
  exact equal_iff.2 ⟨p, hx, hz⟩

/-- Not-a-number is the only number that does not equal itself. -/
theorem equal_self_iff : x.equal x = true ↔ x ≠ .double .nan := by
  rw [equal_iff, ne_eq, ← place?_eq_none_iff, ← ne_eq, Option.ne_none_iff_exists']
  simp only [and_self]

end Number

/-! ## Keys -/

namespace Members

variable {S T : Members} {key : String} {v : Json}

theorem mem_keys_of_get? (h : S.get? key = some v) : key ∈ S.keys :=
  List.mem_map.2 ⟨_, mem_of_get? h, rfl⟩

theorem exists_get?_of_mem_keys (h : key ∈ S.keys) : ∃ v, S.get? key = some v := by
  obtain ⟨e, he, rfl⟩ := List.mem_map.1 h
  cases hv : S.get? e.1 with
  | some v => exact ⟨v, rfl⟩
  | none => simpa using List.lookup_eq_none_iff.1 hv e he

/-- Where the keys are the same, a key of one object is there in the other. -/
theorem exists_get?_of_perm (h : S.keys.Perm T.keys) (hv : S.get? key = some v) :
    ∃ w, T.get? key = some w :=
  exists_get?_of_mem_keys (h.subset (mem_keys_of_get? hv))

end Members

namespace Json

variable {u v w : Json} {items others : List Json} {S T : Members}

/-! ## What equals a value -/

theorem null_equal_iff : null.equal w = true ↔ w = null := by
  cases w <;> simp [equal, equalBy, equalScalars, quantity?, number?]

theorem string_equal_iff {s : String} : (string s).equal w = true ↔ w = string s := by
  cases w <;> simp [equal, equalBy, equalScalars, quantity?, number?, eq_comm (a := s)]

/-- What counts as a number equals whatever counts as an equal number. -/
theorem quantity_equal_iff {x : Number} (hv : v.quantity? = some x) :
    v.equal w = true ↔ ∃ y, w.quantity? = some y ∧ x.equal y = true := by
  have hscalar : v.equal w = w.quantity?.any x.equal := by
    cases v with
    | bool | int | double => cases hv; cases w <;> rfl
    | _ => cases hv
  rw [hscalar, Option.any_eq_true]

theorem equalItems_iff : equalItems Number.equal items others = true ↔
    items.length = others.length ∧
      ∀ (i : ℕ) (a b : Json), items[i]? = some a → others[i]? = some b → a.equal b = true := by
  induction items generalizing others with
  | nil => cases others <;> simp [equalItems]
  | cons item items ih =>
    cases others with
    | nil => simp [equalItems]
    | cons other others =>
      rw [equalItems, Bool.and_eq_true, ih, List.length_cons, List.length_cons,
        Nat.add_right_cancel_iff, and_left_comm]
      refine and_congr_right fun _ => ⟨?_, ?_⟩
      · rintro ⟨hfirst, hrest⟩ i a b ha hb
        cases i with
        | zero => cases ha; cases hb; exact hfirst
        | succ i => exact hrest i a b ha hb
      · intro h
        exact ⟨h 0 item other rfl rfl, fun i a b ha hb => h (i + 1) a b ha hb⟩

/-- Arrays are equal if they are equally long and equal at each index. -/
theorem array_equal_iff : (array items).equal w = true ↔
    ∃ others, w = array others ∧ items.length = others.length ∧
      ∀ (i : ℕ) (a b : Json), items[i]? = some a → others[i]? = some b → a.equal b = true := by
  cases w with
  | array others =>
    simp only [array.injEq, exists_eq_left']
    exact equalItems_iff
  | _ => simp [equal, equalBy, equalScalars, quantity?, number?]

/-- One object is gone through, and the other is as long: the keys are the same. -/
theorem equal_object_iff (hS : S.keys.Nodup) :
    (object S).equal (object T) = true ↔ S.keys.Perm T.keys ∧
      ∀ (key : String) (a b : Json), S.get? key = some a → T.get? key = some b →
        a.equal b = true := by
  have hdef : (object S).equal (object T) = true ↔ S.keys.length = T.keys.length ∧
      ∀ e ∈ S, (T.get? e.1).any e.2.equal = true := by
    simp only [equal, equalBy, equalMembers_eq, Bool.and_eq_true, beq_iff_eq, List.all_eq_true,
      Members.keys, List.length_map]
    rfl
  rw [hdef]
  constructor
  · rintro ⟨hlength, hall⟩
    have hsubset : S.keys ⊆ T.keys := by
      intro key hkey
      obtain ⟨e, he, rfl⟩ := List.mem_map.1 hkey
      obtain ⟨b, hb, -⟩ := (Option.any_eq_true _ _).1 (hall e he)
      exact Members.mem_keys_of_get? hb
    refine ⟨(List.subperm_of_subset hS hsubset).perm_of_length_le hlength.ge, ?_⟩
    intro key a b ha hb
    have hab := hall (key, a) (Members.mem_of_get? ha)
    rw [hb] at hab
    exact hab
  · rintro ⟨hperm, hall⟩
    refine ⟨hperm.length_eq, ?_⟩
    rintro ⟨key, a⟩ he
    have ha : S.get? key = some a := lookup_of_mem hS he
    obtain ⟨b, hb⟩ := Members.exists_get?_of_perm hperm ha
    rw [hb]
    exact hall key a b ha hb

/-- **Objects are equal if they have the same keys, and equal values under each.** -/
theorem object_equal_iff (hS : S.keys.Nodup) : (object S).equal w = true ↔
    ∃ T : Members, w = object T ∧ S.keys.Perm T.keys ∧
      ∀ (key : String) (a b : Json), S.get? key = some a → T.get? key = some b →
        a.equal b = true := by
  cases w with
  | object T =>
    simp only [object.injEq, exists_eq_left']
    exact equal_object_iff hS
  | _ => simp [equal, equalBy, equalScalars, quantity?, number?]

/-! ## The laws -/

theorem uniqueKeys_of_getElem? (h : (array items).UniqueKeys) {i : ℕ} (hv : items[i]? = some v) :
    v.UniqueKeys :=
  uniqueKeysItems_iff.1 h v (List.mem_of_getElem? hv)

theorem uniqueKeys_of_get? (h : (object S).UniqueKeys) {key : String}
    (hv : S.get? key = some v) : v.UniqueKeys :=
  uniqueKeysMembers_iff.1 h.2 _ (Members.mem_of_get? hv)

/-- **Equality is symmetric.** -/
theorem equal_symm (hv : v.UniqueKeys) (hw : w.UniqueKeys) (h : v.equal w = true) :
    w.equal v = true := by
  induction v using parts_induction generalizing w with
  | step v ih =>
    cases v with
    | null =>
      obtain rfl := null_equal_iff.1 h
      exact h
    | string s =>
      obtain rfl := string_equal_iff.1 h
      exact h
    | bool | int | double =>
      obtain ⟨y, hy, hxy⟩ := (quantity_equal_iff rfl).1 h
      exact (quantity_equal_iff hy).2 ⟨_, rfl, Number.equal_symm hxy⟩
    | array items =>
      obtain ⟨others, rfl, hlength, hall⟩ := array_equal_iff.1 h
      refine array_equal_iff.2 ⟨items, rfl, hlength.symm, ?_⟩
      intro i b a hb ha
      exact ih a (partOf_item (List.mem_of_getElem? ha)) (uniqueKeys_of_getElem? hv ha)
        (uniqueKeys_of_getElem? hw hb) (hall i a b ha hb)
    | object S =>
      obtain ⟨T, rfl, hkeys, hall⟩ := (object_equal_iff hv.1).1 h
      refine (object_equal_iff hw.1).2 ⟨S, rfl, hkeys.symm, ?_⟩
      intro key b a hb ha
      exact ih a (partOf_member (Members.mem_of_get? ha)) (uniqueKeys_of_get? hv ha)
        (uniqueKeys_of_get? hw hb) (hall key a b ha hb)

theorem equal_comm (hv : v.UniqueKeys) (hw : w.UniqueKeys) : v.equal w = w.equal v :=
  Bool.eq_iff_iff.2 ⟨equal_symm hv hw, equal_symm hw hv⟩

/-- **Equality is transitive**, through all kinds that count as numbers. -/
theorem equal_trans (hu : u.UniqueKeys) (hv : v.UniqueKeys) (hw : w.UniqueKeys)
    (h : u.equal v = true) (h' : v.equal w = true) : u.equal w = true := by
  induction u using parts_induction generalizing v w with
  | step u ih =>
    cases u with
    | null =>
      obtain rfl := null_equal_iff.1 h
      exact h'
    | string s =>
      obtain rfl := string_equal_iff.1 h
      exact h'
    | bool | int | double =>
      obtain ⟨y, hy, hxy⟩ := (quantity_equal_iff rfl).1 h
      obtain ⟨z, hz, hyz⟩ := (quantity_equal_iff hy).1 h'
      exact (quantity_equal_iff rfl).2 ⟨z, hz, Number.equal_trans hxy hyz⟩
    | array items =>
      obtain ⟨middle, rfl, hlength, hall⟩ := array_equal_iff.1 h
      obtain ⟨others, rfl, hlength', hall'⟩ := array_equal_iff.1 h'
      refine array_equal_iff.2 ⟨others, rfl, hlength.trans hlength', ?_⟩
      intro i a c ha hc
      obtain ⟨hi, -⟩ := List.getElem?_eq_some_iff.1 ha
      obtain ⟨b, hb⟩ : ∃ b, middle[i]? = some b := ⟨_, List.getElem?_eq_getElem (hlength ▸ hi)⟩
      exact ih a (partOf_item (List.mem_of_getElem? ha)) (uniqueKeys_of_getElem? hu ha)
        (uniqueKeys_of_getElem? hv hb) (uniqueKeys_of_getElem? hw hc) (hall i a b ha hb)
        (hall' i b c hb hc)
    | object S =>
      obtain ⟨T, rfl, hkeys, hall⟩ := (object_equal_iff hu.1).1 h
      obtain ⟨U, rfl, hkeys', hall'⟩ := (object_equal_iff hv.1).1 h'
      refine (object_equal_iff hu.1).2 ⟨U, rfl, hkeys.trans hkeys', ?_⟩
      intro key a c ha hc
      obtain ⟨b, hb⟩ := Members.exists_get?_of_perm hkeys ha
      exact ih a (partOf_member (Members.mem_of_get? ha)) (uniqueKeys_of_get? hu ha)
        (uniqueKeys_of_get? hv hb) (uniqueKeys_of_get? hw hc) (hall key a b ha hb)
        (hall' key b c hb hc)

/-- Equal values are compared alike with all others. -/
theorem equal_congr (hu : u.UniqueKeys) (hv : v.UniqueKeys) (hw : w.UniqueKeys)
    (h : u.equal v = true) : u.equal w = v.equal w :=
  Bool.eq_iff_iff.2 ⟨equal_trans hv hu hw (equal_symm hu hv h), equal_trans hu hv hw h⟩

/-! ## Values that equal themselves -/

/-- Not-a-number is somewhere in a value. -/
def HoldsNaN (v : Json) : Prop := v = double .nan ∨ (double .nan).Inside v

/-- Not-a-number is in a container if it is in a part. -/
theorem holdsNaN_iff_of_ne (hv : v ≠ double .nan) :
    v.HoldsNaN ↔ ∃ w : Json, w.PartOf v ∧ w.HoldsNaN := by
  rw [HoldsNaN, or_iff_right hv, inside_iff]
  simp only [HoldsNaN, eq_comm]

theorem not_holdsNaN_of_ne (hv : v ≠ double .nan) (hp : v.parts = []) : ¬v.HoldsNaN := by
  rw [HoldsNaN, or_iff_right hv]
  exact not_inside_scalar hp

theorem array_equal_self_iff :
    (array items).equal (array items) = true ↔
      ∀ w : Json, w.PartOf (array items) → w.equal w = true := by
  have hself : (array items).equal (array items) = true ↔
      ∀ (i : ℕ) (a b : Json), items[i]? = some a → items[i]? = some b → a.equal b = true :=
    equalItems_iff.trans (and_iff_right rfl)
  rw [hself]
  constructor
  · rintro h w ⟨part, hw⟩
    obtain ⟨i, hi, -⟩ := mem_parts_array.1 hw
    exact h i w w hi hi
  · intro h i a b ha hb
    obtain rfl : a = b := Option.some.inj (ha.symm.trans hb)
    exact h a (partOf_item (List.mem_of_getElem? ha))

theorem object_equal_self_iff (hS : S.keys.Nodup) :
    (object S).equal (object S) = true ↔ ∀ w : Json, w.PartOf (object S) → w.equal w = true := by
  rw [equal_object_iff hS, and_iff_right (.refl _)]
  constructor
  · rintro h w ⟨key, hw⟩
    have hget : S.get? key = some w := lookup_of_mem hS hw
    exact h key w w hget hget
  · intro h key a b ha hb
    obtain rfl : a = b := Option.some.inj (ha.symm.trans hb)
    exact h a (partOf_member (Members.mem_of_get? ha))

/-- A container equals itself unless not-a-number is in it, if that is so for its parts. -/
theorem equal_self_iff_of_parts
    (hself : v.equal v = true ↔ ∀ w : Json, w.PartOf v → w.equal w = true) (hne : v ≠ double .nan)
    (ih : ∀ w : Json, w.PartOf v → (w.equal w = true ↔ ¬w.HoldsNaN)) :
    v.equal v = true ↔ ¬v.HoldsNaN := by
  rw [hself, holdsNaN_iff_of_ne hne, not_exists]
  simp only [not_and]
  exact forall_congr' fun w => forall_congr' fun hw => ih w hw

/-- **A value equals itself unless not-a-number is in it.** -/
theorem equal_self_iff (hv : v.UniqueKeys) : v.equal v = true ↔ ¬v.HoldsNaN := by
  induction v using parts_induction with
  | step v ih =>
    cases v with
    | array items =>
      refine equal_self_iff_of_parts array_equal_self_iff nofun ?_
      rintro w ⟨part, hw⟩
      exact ih w ⟨part, hw⟩ (uniqueKeys_of_mem_parts hv hw)
    | object S =>
      refine equal_self_iff_of_parts (object_equal_self_iff hv.1) nofun ?_
      rintro w ⟨part, hw⟩
      exact ih w ⟨part, hw⟩ (uniqueKeys_of_mem_parts hv hw)
    | double d =>
      have hself : (double d).equal (double d) = Number.equal (.double d) (.double d) := rfl
      have hnan : (double d).HoldsNaN ↔ d = .nan := by
        rw [HoldsNaN, or_iff_left (not_inside_scalar rfl), double.injEq]
      rw [hself, Number.equal_self_iff, hnan, ne_eq, Number.double.injEq]
    | int n =>
      have hself : (int n).equal (int n) = true := Number.equal_self_iff.2 nofun
      exact iff_of_true hself (not_holdsNaN_of_ne nofun rfl)
    | bool b =>
      have hself : (bool b).equal (bool b) = true := Number.equal_self_iff.2 nofun
      exact iff_of_true hself (not_holdsNaN_of_ne nofun rfl)
    | string s => exact iff_of_true (string_equal_iff.2 rfl) (not_holdsNaN_of_ne nofun rfl)
    | null => exact iff_of_true rfl (not_holdsNaN_of_ne nofun rfl)

/-- **Equality is a partial equivalence**, under which exactly the values without not-a-number
equal themselves, and it does not see the order of keys.  An object holds no key twice; as its
members are a list here, this has to be said. -/
theorem equal_partial_equivalence (hu : u.UniqueKeys) (hv : v.UniqueKeys) (hw : w.UniqueKeys) :
    u.equal v = v.equal u ∧
      (u.equal v = true → v.equal w = true → u.equal w = true) ∧
      (u.equal u = true ↔ ¬u.HoldsNaN) ∧
      ∀ u' v', u.Reordered u' → v.Reordered v' → u'.equal v' = u.equal v := by
  refine ⟨equal_comm hu hv, equal_trans hu hv hw, equal_self_iff hu, ?_⟩
  intro u' v' hu' hv'
  have huu' : Variant False u u' := ⟨hu, hu', False.elim⟩
  have hvv' : Variant False v v' := ⟨hv, hv', False.elim⟩
  exact (huu'.equal hvv').symm

/-! ### One, in three kinds -/

/-- One, as a double. -/
def doubleOne : Json := .double (.finite false Double.one (by decide +kernel))

/-- `true`, and a list of one. -/
def trueAndOne : Json := .object [("first", .bool true), ("rest", .array [.int 1])]

/-- The same, with the keys in the other order. -/
def oneAndTrue : Json := .object [("rest", .array [.int 1]), ("first", .bool true)]

/-- One, and a list of the double one. -/
def oneAndDouble : Json := .object [("first", .int 1), ("rest", .array [doubleOne])]

/-- The double one, and a list of `true`. -/
def doubleAndTrue : Json := .object [("rest", .array [.bool true]), ("first", doubleOne)]

theorem uniqueKeys_ones :
    trueAndOne.UniqueKeys ∧ oneAndDouble.UniqueKeys ∧ doubleAndTrue.UniqueKeys := by
  simp [trueAndOne, oneAndDouble, doubleAndTrue, doubleOne, UniqueKeys, UniqueKeysItems,
    UniqueKeysMembers, Members.keys]

theorem trueAndOne_equal_oneAndDouble : trueAndOne.equal oneAndDouble = true := by decide +kernel

theorem equal_partial_equivalence_ones :
    trueAndOne.UniqueKeys ∧ oneAndDouble.UniqueKeys ∧ doubleAndTrue.UniqueKeys ∧
      trueAndOne.Reordered oneAndTrue ∧
      trueAndOne.equal oneAndDouble = true ∧ oneAndDouble.equal doubleAndTrue = true ∧
      oneAndDouble.equal trueAndOne = true ∧ trueAndOne.equal doubleAndTrue = true ∧
      ¬trueAndOne.HoldsNaN ∧ oneAndTrue.equal oneAndDouble = true := by
  obtain ⟨hu, hv, hw⟩ := uniqueKeys_ones
  have hturned : trueAndOne.Reordered oneAndTrue :=
    .object (.swap _ _ _) rfl (.cons (.refl _) (.cons (.refl _) .nil))
  have huv := trueAndOne_equal_oneAndDouble
  have hvw : oneAndDouble.equal doubleAndTrue = true := by decide +kernel
  have huu : trueAndOne.equal trueAndOne = true := by decide +kernel
  obtain ⟨hsymm, htrans, hself, horder⟩ := equal_partial_equivalence hu hv hw
  refine ⟨hu, hv, hw, hturned, huv, hvw, ?_, htrans huv hvw, hself.1 huu, ?_⟩
  · rw [← hsymm, huv]
  · rw [horder _ _ hturned (.refl _), huv]

end Json

end JsonSchema
