/-
  Values that differ in the kinds of their numbers only.

  * `Number.SamePlace`: numbers at one place of the number line, whatever their
    kinds.  Comparisons see nothing but the place.
  * `Json.Respelled`: integers and the doubles equal to them stand for one
    another, at any depth.
  * `Members.Respelled.get?`: keys hold respelled values.
  * `Json.Respelled.equal`: equality does not see the kinds of numbers.
  * `Json.Respelled.identical`: a value is identical with its respellings.
-/
import JsonSchema.Proofs.Reordering

namespace JsonSchema

/-! ## Numbers -/

namespace Number

/-- Numbers at one place of the number line, or both not-a-number. -/
def SamePlace (x y : Number) : Prop := x.place? = y.place?

variable {x x' y y' : Number}

theorem SamePlace.refl (x : Number) : x.SamePlace x := rfl

theorem SamePlace.symm (h : x.SamePlace y) : y.SamePlace x := Eq.symm h

theorem compare_eq_iff {p q : Place} : p.compare q = .eq ↔ p = q := by
  cases p <;> cases q <;> simp [Place.compare]

/-- Equal numbers are those that have a place, and the same one. -/
theorem equal_iff : x.equal y = true ↔ ∃ p, x.place? = some p ∧ y.place? = some p := by
  unfold equal compare?
  cases x.place? with
  | none => simp
  | some p =>
    cases y.place? with
    | none => simp
    | some q => simp [compare_eq_iff, eq_comm (a := q)]

theorem place?_eq_none_iff : x.place? = none ↔ x = .double .nan := by
  cases x with
  | int n => exact ⟨nofun, nofun⟩
  | double d =>
    cases d with
    | nan => exact ⟨fun _ => rfl, fun _ => rfl⟩
    | _ => exact ⟨nofun, nofun⟩

/-- Identical numbers are those at the same place, not-a-number included. -/
theorem identical_iff : x.identical y = true ↔ x.SamePlace y := by
  simp only [identical, Bool.or_eq_true, equal_iff, Bool.and_eq_true, beq_iff_eq,
    ← place?_eq_none_iff, SamePlace]
  cases x.place? <;> cases y.place? <;> simp [eq_comm]

theorem samePlace_of_equal (h : x.equal y = true) : x.SamePlace y := by
  obtain ⟨p, hx, hy⟩ := equal_iff.1 h
  rw [SamePlace, hx, hy]

section
variable (hx : x.SamePlace x') (hy : y.SamePlace y')

include hx hy

/-- **Comparisons see nothing but the places.** -/
theorem SamePlace.compare? : x.compare? y = x'.compare? y' := by
  unfold Number.compare?
  rw [hx, hy]

theorem SamePlace.equal : x.equal y = x'.equal y' := by
  unfold Number.equal
  rw [hx.compare? hy]

theorem SamePlace.less : x.less y = x'.less y' := by
  unfold Number.less
  rw [hx.compare? hy]

theorem SamePlace.atMost : x.atMost y = x'.atMost y' := by
  unfold Number.atMost
  rw [hx.less hy, hx.equal hy]

end

/-- A double at the place of an integer counts the units of the integer. -/
theorem exists_finite_of_samePlace {n : ℤ} {d : Double}
    (h : (Number.int n).SamePlace (.double d)) :
    ∃ negative units hr, d = .finite negative units hr ∧ units = n.natAbs * Double.one := by
  cases d with
  | nan => cases h
  | infinite negative =>
    simp only [SamePlace, place?, Option.some.injEq] at h
    cases negative <;> cases h
  | finite negative units hr =>
    have hplace : n * (Double.one : ℤ) = if negative then -(units : ℤ) else units := by
      simpa only [SamePlace, place?, Option.some.injEq, Place.units.injEq] using h
    refine ⟨negative, units, hr, rfl, ?_⟩
    have habs := congrArg Int.natAbs hplace
    rw [Int.natAbs_mul, Int.natAbs_natCast] at habs
    rw [habs]
    split_ifs <;> simp

/-- A double at the place of an integer has no fractional part. -/
theorem isIntegral_of_samePlace {n : ℤ} {d : Double} (h : (Number.int n).SamePlace (.double d)) :
    d.isIntegral = true := by
  obtain ⟨negative, units, hr, rfl, hunits⟩ := exists_finite_of_samePlace h
  simp only [Double.isIntegral, hunits, Nat.mul_mod_left, beq_self_eq_true]

end Number

/-- The double of a whole number that some double has. -/
def Double.whole (n : ℕ) (h : Double.Representable (n * Double.one)) : Double := .finite false _ h

theorem Number.equal_whole (n : ℕ) (h : Double.Representable (n * Double.one)) :
    Number.equal (.int n) (.double (.whole n h)) = true := by
  refine Number.equal_iff.2 ⟨.units (n * Double.one), rfl, ?_⟩
  exact congrArg (fun count => some (Place.units count)) (Int.natCast_mul n Double.one)

/-! ## Values -/

/-- Integers are replaced by doubles equal to them, or doubles by integers, at any depth. -/
inductive Json.Respelled : Json → Json → Prop
  | refl (v : Json) : Respelled v v
  | asDouble {n : ℤ} {d : Double} : Number.equal (.int n) (.double d) = true →
      Respelled (.int n) (.double d)
  | asInt {d : Double} {n : ℤ} : Number.equal (.int n) (.double d) = true →
      Respelled (.double d) (.int n)
  | array {items items' : List Json} : List.Forall₂ Respelled items items' →
      Respelled (.array items) (.array items')
  | object {S S' : Members} : Members.keys S = Members.keys S' →
      List.Forall₂ Respelled (S.map (·.2)) (S'.map (·.2)) → Respelled (.object S) (.object S')

theorem keys_eq {κ α β : Type} {R : α → β → Prop} {l : List (κ × α)} {l' : List (κ × β)}
    (h : List.Forall₂ (Keyed R) l l') : l.map (·.1) = l'.map (·.1) := by
  rw [← List.forall₂_eq_eq_eq]
  exact List.rel_map (fun _ _ he => he.1) h

/-- Respelled objects. -/
abbrev Members.Respelled (S S' : Members) : Prop := Json.Respelled (.object S) (.object S')

namespace Json

variable {v v' w w' : Json} {S S' : Members}

namespace Respelled

/-- Respelled arrays are arrays of respelled items. -/
theorem items {values : List Json} (h : Respelled (.array values) w) :
    ∃ values', w = .array values' ∧ List.Forall₂ Respelled values values' := by
  cases h with
  | refl => exact ⟨values, rfl, List.forall₂_same.2 fun v _ => .refl v⟩
  | array hi => exact ⟨_, rfl, hi⟩

/-- Respelled objects hold respelled values under the same keys. -/
theorem members (h : Respelled (.object S) w) :
    ∃ S', w = .object S' ∧ List.Forall₂ (Keyed Respelled) S S' := by
  cases h with
  | refl => exact ⟨S, rfl, List.forall₂_same.2 fun e _ => ⟨rfl, .refl e.2⟩⟩
  | object hk hr => exact ⟨_, rfl, forall₂_keyed hk hr⟩

/-! ### What is seen of a value -/

variable (h : v.Respelled v')

include h

theorem string? : v.string? = v'.string? := by
  cases h <;> rfl

theorem strings? : v.strings? = v'.strings? := by
  cases h with
  | array hi =>
    have hs := rel_mapM hi fun a b hab => rel_of_eq hab.string?
    rw [List.forall₂_eq_eq_eq] at hs
    exact rel_eq hs
  | _ => rfl

theorem isTrue : v.isTrue = v'.isTrue := by
  cases h <;> rfl

theorem number? : Option.Rel Number.SamePlace v.number? v'.number? := by
  cases h with
  | refl =>
    cases v.number? with
    | none => exact .none
    | some x => exact .some rfl
  | asDouble he => exact .some (Number.samePlace_of_equal he)
  | asInt he => exact .some (Number.samePlace_of_equal he).symm
  | array | object => exact .none

theorem exists_number {x : Number} (hv : v.number? = some x) :
    ∃ x', v'.number? = some x' ∧ x.SamePlace x' := by
  have hrel := h.number?
  rw [hv] at hrel
  generalize v'.number? = o at hrel
  cases hrel with
  | some hx => exact ⟨_, rfl, hx⟩

/-- What counts as a number counts as one at the same place. -/
theorem quantity? : Option.Rel Number.SamePlace v.quantity? v'.quantity? := by
  cases h with
  | refl =>
    cases v.quantity? with
    | none => exact .none
    | some x => exact .some rfl
  | asDouble he => exact .some (Number.samePlace_of_equal he)
  | asInt he => exact .some (Number.samePlace_of_equal he).symm
  | array | object => exact .none

theorem hasType (name : String) : v.hasType name = v'.hasType name := by
  unfold Json.hasType
  cases Kind.ofName? name with
  | none => rfl
  | some k =>
    cases h with
    | refl => rfl
    | asDouble he =>
      have hi := Number.isIntegral_of_samePlace (Number.samePlace_of_equal he)
      cases k with
      | integer => exact hi.symm
      | _ => rfl
    | asInt he =>
      have hi := Number.isIntegral_of_samePlace (Number.samePlace_of_equal he)
      cases k with
      | integer => exact hi
      | _ => rfl
    | array | object => cases k <;> rfl

theorem items?_unique (hu : v.UniqueKeys) :
    Option.Rel (fun values values' : List Json => List.Forall₂ Respelled values values' ∧
      ∀ w ∈ values, w.UniqueKeys) v.items? v'.items? := by
  cases v with
  | array values =>
    obtain ⟨values', rfl, hi⟩ := h.items
    exact .some ⟨hi, uniqueKeysItems_iff.1 hu⟩
  | _ => cases h <;> exact .none

theorem members? : Option.Rel Members.Respelled v.members? v'.members? := by
  cases v with
  | object S =>
    obtain ⟨S', rfl, -⟩ := h.members
    exact .some h
  | _ => cases h <;> exact .none

theorem objects? : Option.Rel (List.Forall₂ Members.Respelled) v.objects? v'.objects? := by
  cases v with
  | array values =>
    obtain ⟨values', rfl, hi⟩ := h.items
    exact rel_mapM hi fun a b hab => hab.members?
  | _ => cases h <;> exact .none

end Respelled

end Json

namespace Members.Respelled

variable {S S' : Members}

theorem entries (h : Members.Respelled S S') : List.Forall₂ (Keyed Json.Respelled) S S' := by
  obtain ⟨T, hT, he⟩ := Json.Respelled.members h
  cases hT
  exact he

/-- **Keys hold respelled values.** -/
theorem get? (h : Members.Respelled S S') (key : String) :
    Option.Rel Json.Respelled (Members.get? S key) (Members.get? S' key) := by
  have he := h.entries
  unfold Members.get?
  clear h
  induction he with
  | nil => exact .none
  | @cons e e' S S' hee' _ ih =>
    obtain ⟨k, v⟩ := e
    obtain ⟨k', v'⟩ := e'
    obtain ⟨rfl, hv⟩ := hee'
    rw [List.lookup_cons, List.lookup_cons]
    cases key == k with
    | true => exact .some hv
    | false => exact ih

theorem has (h : Members.Respelled S S') (key : String) :
    Members.has S key = Members.has S' key := by
  have hv := h.get? key
  unfold Members.has
  generalize Members.get? S key = o, Members.get? S' key = o' at hv
  cases hv <;> rfl

end Members.Respelled

/-! ## Equality -/

namespace Json

variable {v v' w w' : Json}

/-- A number is compared with what the other value counts as. -/
theorem equal_of_number_left {x : Number} (hv : v.number? = some x) :
    v.equal w = w.quantity?.any x.equal := by
  cases v with
  | int | double => cases hv; cases w <;> rfl
  | _ => cases hv

theorem equal_of_number_right {y : Number} (hw : w.number? = some y) :
    v.equal w = v.quantity?.any fun x => x.equal y := by
  cases w with
  | int | double => cases hw; cases v <;> rfl
  | _ => cases hw

/-- Values that are compared alike with respelled ones. -/
def ComparedSame (a a' : Json) : Prop := ∀ b b' : Json, b.Respelled b' → a.equal b = a'.equal b'

theorem equal_array_same {values values' others others' : List Json}
    (h : List.Forall₂ ComparedSame values values') (ho : List.Forall₂ Respelled others others') :
    (Json.array values).equal (.array others) = (Json.array values').equal (.array others') := by
  simp only [equal, equalBy]
  induction h generalizing others others' with
  | nil => cases ho <;> rfl
  | cons ha _ ih =>
    cases ho with
    | nil => rfl
    | cons hb hbs =>
      rw [equalItems, equalItems, ih hbs]
      exact congrArg (· && _) (ha _ _ hb)

theorem equal_object_same {S S' T T' : Members} (h : List.Forall₂ (Keyed ComparedSame) S S')
    (hT : Members.Respelled T T') :
    (Json.object S).equal (.object T) = (Json.object S').equal (.object T') := by
  have hm : Matched False (Keyed ComparedSame) S S' := .of_forall₂ h
  simp only [equal, equalBy, equalMembers_eq, h.length_eq, hT.entries.length_eq]
  congr 1
  refine hm.all_eq ?_
  rintro ⟨key, a⟩ ⟨_, a'⟩ ⟨rfl, ha⟩
  exact rel_any (hT.get? key) ha

namespace Respelled

theorem equal_number_left (h : v.Respelled v') (h' : w.Respelled w') {x : Number}
    (hv : v.number? = some x) : v.equal w = v'.equal w' := by
  obtain ⟨x', hv', hx⟩ := h.exists_number hv
  rw [equal_of_number_left hv, equal_of_number_left hv']
  exact rel_any h'.quantity? fun _ _ hy => hx.equal hy

theorem equal_number_right (h : v.Respelled v') (h' : w.Respelled w') {y : Number}
    (hw : w.number? = some y) : v.equal w = v'.equal w' := by
  obtain ⟨y', hw', hy⟩ := h'.exists_number hw
  rw [equal_of_number_right hw, equal_of_number_right hw']
  exact rel_any h.quantity? fun _ _ hx => hx.equal hy

/-- **Equality does not see the kinds of numbers.** -/
theorem equal (h : v.Respelled v') (h' : w.Respelled w') : v.equal w = v'.equal w' := by
  -- the second value is taken apart as the first one is, so it varies along the induction
  induction v using parts_induction generalizing v' w w' with
  | step v ih =>
    cases v with
    | int | double => exact h.equal_number_left h' rfl
    | array values =>
      obtain ⟨values', rfl, hi⟩ := h.items
      cases w with
      | int | double => exact h.equal_number_right h' rfl
      | array others =>
        obtain ⟨others', rfl, ho⟩ := h'.items
        refine equal_array_same (forall₂_imp_mem hi ?_) ho
        intro a ha a' haa' b b' hb
        exact ih a (partOf_item ha) haa' hb
      | object T =>
        obtain ⟨T', rfl, -⟩ := h'.members
        rfl
      | _ =>
        cases h'
        rfl
    | object S =>
      obtain ⟨S', rfl, hS⟩ := h.members
      cases w with
      | int | double => exact h.equal_number_right h' rfl
      | object T =>
        obtain ⟨T', rfl, -⟩ := h'.members
        refine equal_object_same (forall₂_imp_mem hS ?_) h'
        intro e he e' hee'
        exact ⟨hee'.1, fun b b' hb => ih e.2 (partOf_member he) hee'.2 hb⟩
      | array others =>
        obtain ⟨others', rfl, -⟩ := h'.items
        rfl
      | _ =>
        cases h'
        rfl
    | _ =>
      cases h
      cases w with
      | int | double => exact Respelled.equal_number_right (.refl _) h' rfl
      | array others =>
        obtain ⟨others', rfl, -⟩ := h'.items
        rfl
      | object T =>
        obtain ⟨T', rfl, -⟩ := h'.members
        rfl
      | _ =>
        cases h'
        rfl

theorem any_equal {values values' : List Json} (h : v.Respelled v')
    (h' : List.Forall₂ Respelled values values') : values.any v.equal = values'.any v'.equal := by
  induction h' with
  | nil => rfl
  | cons hw _ ih => rw [List.any_cons, List.any_cons, h.equal hw, ih]

end Respelled

theorem uniqueItems_same {values values' : List Json} (h : List.Forall₂ Respelled values values') :
    uniqueItems values = uniqueItems values' := by
  induction h with
  | nil => rfl
  | @cons v v' values values' hv hi ih =>
    have hm : Matched False Respelled values values' := .of_forall₂ hi
    rw [uniqueItems, uniqueItems, ih]
    congr 1
    refine hm.all_eq ?_
    intro w w' hw
    rw [hv.equal hw]

/-! ### Identity -/

theorem identical_of_number {x x' : Number} (hv : v.number? = some x) (hv' : v'.number? = some x') :
    v.identical v' = x.identical x' := by
  cases v with
  | int | double =>
    cases hv
    cases v' with
    | int | double => cases hv'; rfl
    | _ => cases hv'
  | _ => cases hv

theorem identical_array {values values' : List Json}
    (h : List.Forall₂ (fun w w' => w.identical w' = true) values values') :
    (Json.array values).identical (.array values') = true := by
  simp only [identical, equalBy]
  induction h with
  | nil => rfl
  | cons hw _ ih =>
    rw [equalItems, ih, Bool.and_true]
    exact hw

theorem identical_object {S S' : Members} (hl : S.length = S'.length)
    (h : ∀ e ∈ S, ∃ w, Members.get? S' e.1 = some w ∧ e.2.identical w = true) :
    (Json.object S).identical (.object S') = true := by
  simp only [identical, equalBy, hl, beq_self_eq_true, Bool.true_and, equalMembers_eq,
    List.all_eq_true]
  intro e he
  obtain ⟨w, hw, hew⟩ := h e he
  rw [hw]
  exact hew

/-- **A value is identical with its respellings**, if it has unique keys. -/
theorem Respelled.identical (h : v.Respelled v') (hu : v.UniqueKeys) : v.identical v' = true := by
  induction v using parts_induction generalizing v' with
  | step v ih =>
    cases v with
    | int n =>
      obtain ⟨x', hv', hx⟩ := h.exists_number rfl
      rw [identical_of_number rfl hv']
      exact Number.identical_iff.2 hx
    | double d =>
      obtain ⟨x', hv', hx⟩ := h.exists_number rfl
      rw [identical_of_number rfl hv']
      exact Number.identical_iff.2 hx
    | array values =>
      obtain ⟨values', rfl, hi⟩ := h.items
      refine identical_array (forall₂_imp_mem hi ?_)
      intro w hw w' hww'
      exact ih w (partOf_item hw) hww' (uniqueKeysItems_iff.1 hu w hw)
    | object S =>
      obtain ⟨S', rfl, hS⟩ := h.members
      refine identical_object hS.length_eq ?_
      rintro ⟨key, w⟩ he
      have hrel := Members.Respelled.get? h key
      rw [show Members.get? S key = some w from lookup_of_mem hu.1 he] at hrel
      generalize Members.get? S' key = o at hrel
      cases hrel with
      | some hw => exact ⟨_, rfl, ih w (partOf_member he) hw (uniqueKeysMembers_iff.1 hu.2 _ he)⟩
    | string s =>
      cases h
      exact beq_self_eq_true s
    | bool b =>
      cases h
      exact Number.identical_iff.2 (.refl _)
    | null =>
      cases h
      rfl

end Json

end JsonSchema
