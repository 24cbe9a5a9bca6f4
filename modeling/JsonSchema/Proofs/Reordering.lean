/-
  Values that differ in the order of keys only.

  * `Matched`: lists that are related one to one, whatever the order, or in
    order if that is fixed.
  * `Json.Reordered`: the keys of objects stand in another order, at any depth.
  * `Json.Variant`: a value with unique keys and a reordering of it, which is the
    value itself if the order is fixed.
  * `Members.Variant.get?`: keys hold variants.
  * `Json.Variant.equal`: equality does not see the order of keys.
-/
import JsonSchema.Proofs.Observation
import JsonSchema.Proofs.Subschema
import Mathlib.Data.List.Perm.Basic

namespace JsonSchema

/-! ## Lists in any order -/

section
variable {α β γ δ : Type} {fixed : Prop} {R : α → β → Prop} {Q : γ → δ → Prop} {l l₂ : List α}
  {l' l₂' : List β}

/-- Lists that are related one to one, in some order of the first; in the order that it has, if
that is fixed. -/
def Matched (fixed : Prop) (R : α → β → Prop) (l : List α) (l' : List β) : Prop :=
  ∃ m, l.Perm m ∧ (fixed → l = m) ∧ List.Forall₂ R m l'

namespace Matched

theorem of_forall₂ (h : List.Forall₂ R l l') : Matched fixed R l l' :=
  ⟨l, .refl l, fun _ => rfl, h⟩

theorem forall₂ (h : Matched fixed R l l') (hf : fixed) : List.Forall₂ R l l' := by
  obtain ⟨m, -, hm, hr⟩ := h
  rwa [hm hf]

/-- What is fixed need not be. -/
theorem loosen (h : Matched fixed R l l') : Matched False R l l' := by
  obtain ⟨m, hp, -, hr⟩ := h
  exact ⟨m, hp, False.elim, hr⟩

theorem imp_mem {R' : α → β → Prop} (h : Matched fixed R l l')
    (hR : ∀ a ∈ l, ∀ b, R a b → R' a b) : Matched fixed R' l l' := by
  obtain ⟨m, hp, hm, hr⟩ := h
  refine ⟨m, hp, hm, forall₂_imp_mem hr ?_⟩
  intro a ha
  exact hR a (hp.symm.subset ha)

theorem map {f : α → γ} {g : β → δ} (h : Matched fixed R l l') (hf : ∀ a b, R a b → Q (f a) (g b)) :
    Matched fixed Q (l.map f) (l'.map g) := by
  obtain ⟨m, hp, hm, hr⟩ := h
  refine ⟨m.map f, hp.map f, fun h => by rw [hm h], List.rel_map ?_ hr⟩
  intro a b hab
  exact hf a b hab

theorem append (h : Matched fixed R l l') (h₂ : Matched fixed R l₂ l₂') :
    Matched fixed R (l ++ l₂) (l' ++ l₂') := by
  obtain ⟨m, hp, hm, hr⟩ := h
  obtain ⟨m₂, hp₂, hm₂, hr₂⟩ := h₂
  exact ⟨m ++ m₂, hp.append hp₂, fun hf => by rw [← hm hf, ← hm₂ hf], List.rel_append hr hr₂⟩

theorem filterMap {f : α → Option γ} {g : β → Option δ} (h : Matched fixed R l l')
    (hf : ∀ a b, R a b → Option.Rel Q (f a) (g b)) :
    Matched fixed Q (l.filterMap f) (l'.filterMap g) := by
  obtain ⟨m, hp, hm, hr⟩ := h
  refine ⟨m.filterMap f, hp.filterMap f, fun h => by rw [hm h], List.rel_filterMap ?_ hr⟩
  intro a b hab
  exact hf a b hab

theorem filter {p : α → Bool} {q : β → Bool} (h : Matched fixed R l l')
    (hp : ∀ a b, R a b → p a = q b) : Matched fixed R (l.filter p) (l'.filter q) := by
  obtain ⟨m, hperm, hm, hr⟩ := h
  refine ⟨m.filter p, hperm.filter p, fun hf => by rw [hm hf], List.rel_filter ?_ hr⟩
  intro a b hab
  simp only [hp a b hab]

theorem flatten {ls : List (List α)} {ls' : List (List β)}
    (h : Matched fixed (Matched fixed R) ls ls') : Matched fixed R ls.flatten ls'.flatten := by
  obtain ⟨ms, hp, hms, hr⟩ := h
  have hm : Matched fixed R ms.flatten ls'.flatten := by
    clear hp hms
    induction hr with
    | nil => exact of_forall₂ .nil
    | cons hl _ ih => exact hl.append ih
  obtain ⟨m, hpm, hm, hr⟩ := hm
  exact ⟨m, hp.flatten.trans hpm, fun hf => by rw [hms hf, hm hf], hr⟩

/-- Lists that go item by item with matched ones are matched. -/
theorem alongside {F : α → γ → Prop} {G : β → δ → Prop} {k : List γ} {k' : List δ}
    (h : Matched fixed R l l') (hF : List.Forall₂ F l k) (hG : List.Forall₂ G l' k')
    (hQ : ∀ a b c d, R a b → F a c → G b d → Q c d) : Matched False Q k k' := by
  obtain ⟨m, hp, -, hr⟩ := h
  obtain ⟨k₂, hF₂, hk⟩ := List.perm_comp_forall₂ hp.symm hF
  refine ⟨k₂, hk.symm, False.elim, ?_⟩
  clear hp hF hk
  induction hr generalizing k₂ k' with
  | nil =>
    cases hF₂
    cases hG
    exact .nil
  | cons hab _ ih =>
    cases hF₂ with
    | cons hac hF₂ =>
      cases hG with
      | cons hbd hG => exact .cons (hQ _ _ _ _ hab hac hbd) (ih hG _ hF₂)

theorem length_eq (h : Matched fixed R l l') : l.length = l'.length := by
  obtain ⟨m, hp, -, hr⟩ := h
  rw [hp.length_eq, hr.length_eq]

theorem all_eq {p : α → Bool} {q : β → Bool} (h : Matched fixed R l l')
    (hp : ∀ a b, R a b → p a = q b) : l.all p = l'.all q := by
  obtain ⟨m, hperm, -, hr⟩ := h
  rw [hperm.all_eq]
  clear hperm
  induction hr with
  | nil => rfl
  | cons hab _ ih => rw [List.all_cons, List.all_cons, hp _ _ hab, ih]

theorem flatMap_perm {f : α → List γ} {g : β → List γ} (h : Matched fixed R l l')
    (hf : ∀ a b, R a b → (f a).Perm (g b)) : (l.flatMap f).Perm (l'.flatMap g) := by
  obtain ⟨m, hp, -, hr⟩ := h
  refine (hp.flatMap_right f).trans ?_
  clear hp
  induction hr with
  | nil => exact .refl _
  | cons hab _ ih =>
    rw [List.flatMap_cons, List.flatMap_cons]
    exact (hf _ _ hab).append ih

theorem eq {l l' : List α} (h : Matched fixed Eq l l') (hf : fixed) : l = l' := by
  rw [← List.forall₂_eq_eq_eq]
  exact h.forall₂ hf

theorem perm {l l' : List α} (h : Matched fixed Eq l l') : l.Perm l' := by
  obtain ⟨m, hp, -, hr⟩ := h
  rw [List.forall₂_eq_eq_eq] at hr
  exact hr ▸ hp

/-- In both orders something is found or nothing, though another item may be the first. -/
theorem find? {l l' : List α} (h : Matched fixed Eq l l') (p : α → Bool) :
    Option.Rel (fun a b => fixed → a = b) (l.find? p) (l'.find? p) := by
  have hsome : (l.find? p).isSome = (l'.find? p).isSome := by
    rw [Bool.eq_iff_iff, List.find?_isSome, List.find?_isSome]
    simp only [h.perm.mem_iff]
  have heq : fixed → l.find? p = l'.find? p := fun hf => by rw [h.eq hf]
  generalize l.find? p = o, l'.find? p = o' at hsome heq
  cases o with
  | none =>
    cases o' with
    | none => exact .none
    | some b => cases hsome
  | some a =>
    cases o' with
    | none => cases hsome
    | some b => exact .some fun hf => Option.some.inj (heq hf)

end Matched

/-- Entries of the same key. -/
def Keyed {κ α β : Type} (R : α → β → Prop) (e : κ × α) (e' : κ × β) : Prop :=
  e.1 = e'.1 ∧ R e.2 e'.2

theorem lookup_perm {m : List (String × α)} {l : List (String × α)} (h : l.Perm m)
    (hn : (l.map (·.1)).Nodup) (key : String) : l.lookup key = m.lookup key := by
  have hm : (m.map (·.1)).Nodup := (h.map _).nodup_iff.1 hn
  ext a
  constructor
  · intro ha
    exact lookup_of_mem hm (h.subset (mem_of_lookup ha))
  · intro ha
    exact lookup_of_mem hn (h.symm.subset (mem_of_lookup ha))

namespace Matched

/-- Where no key is repeated, keys hold what is related. -/
theorem lookup {l : List (String × α)} {l' : List (String × β)} (h : Matched fixed (Keyed R) l l')
    (hn : (l.map (·.1)).Nodup) (key : String) : Option.Rel R (l.lookup key) (l'.lookup key) := by
  obtain ⟨m, hp, -, hr⟩ := h
  rw [lookup_perm hp hn]
  clear hp
  induction hr with
  | nil => exact .none
  | @cons e e' m l' he _ ih =>
    obtain ⟨k, a⟩ := e
    obtain ⟨k', b⟩ := e'
    obtain ⟨rfl, hab⟩ := he
    rw [List.lookup_cons, List.lookup_cons]
    cases key == k with
    | true => exact .some hab
    | false => exact ih

theorem keys {κ : Type} {l : List (κ × α)} {l' : List (κ × β)} (h : Matched fixed (Keyed R) l l') :
    Matched fixed Eq (l.map (·.1)) (l'.map (·.1)) :=
  h.map fun _ _ he => he.1

end Matched

end

/-! ## Optional values -/

section
variable {α β γ δ : Type} {R : α → β → Prop} {Q : γ → δ → Prop} {o : Option α} {o' : Option β}

theorem rel_bind (h : Option.Rel R o o') {f : α → Option γ} {g : β → Option δ}
    (hf : ∀ a b, R a b → Option.Rel Q (f a) (g b)) : Option.Rel Q (o.bind f) (o'.bind g) := by
  cases h with
  | none => exact .none
  | some hab => exact hf _ _ hab

theorem rel_map (h : Option.Rel R o o') {f : α → γ} {g : β → δ}
    (hf : ∀ a b, R a b → Q (f a) (g b)) : Option.Rel Q (o.map f) (o'.map g) := by
  cases h with
  | none => exact .none
  | some hab => exact .some (hf _ _ hab)

theorem rel_elim (h : Option.Rel R o o') {P : γ → δ → Prop} {c : γ} {d : δ} (hn : P c d)
    {f : α → γ} {g : β → δ} (hf : ∀ a b, R a b → P (f a) (g b)) : P (o.elim c f) (o'.elim d g) := by
  cases h with
  | none => exact hn
  | some hab => exact hf _ _ hab

theorem rel_any (h : Option.Rel R o o') {p : α → Bool} {q : β → Bool}
    (hp : ∀ a b, R a b → p a = q b) : o.any p = o'.any q := by
  cases h with
  | none => rfl
  | some hab => exact hp _ _ hab

theorem rel_mapM {l : List α} {l' : List β} (h : List.Forall₂ R l l') {f : α → Option γ}
    {g : β → Option δ} (hf : ∀ a b, R a b → Option.Rel Q (f a) (g b)) :
    Option.Rel (List.Forall₂ Q) (l.mapM f) (l'.mapM g) := by
  induction h with
  | nil => exact .some .nil
  | cons hab _ ih =>
    rw [List.mapM_cons, List.mapM_cons]
    refine rel_bind (hf _ _ hab) ?_
    intro c d hcd
    refine rel_bind ih ?_
    intro cs ds hcs
    exact .some (.cons hcd hcs)

theorem rel_getElem? {l : List α} {l' : List β} (h : List.Forall₂ R l l') (i : ℕ) :
    Option.Rel R l[i]? l'[i]? := by
  induction h generalizing i with
  | nil => exact .none
  | cons hab _ ih =>
    cases i with
    | zero => exact .some hab
    | succ i => exact ih i

theorem rel_eq {o o' : Option α} (h : Option.Rel Eq o o') : o = o' := by
  cases h with
  | none => rfl
  | some h => rw [h]

theorem rel_of_eq {o o' : Option α} (h : o = o') : Option.Rel Eq o o' := by
  subst h
  cases o with
  | none => exact .none
  | some a => exact .some rfl

end

/-! ## Values -/

/-- The keys of objects stand in another order, at any depth. -/
inductive Json.Reordered : Json → Json → Prop
  | refl (v : Json) : Reordered v v
  | array {items items' : List Json} : List.Forall₂ Reordered items items' →
      Reordered (.array items) (.array items')
  | object {S T S' : Members} : List.Perm S T → Members.keys T = Members.keys S' →
      List.Forall₂ Reordered (T.map (·.2)) (S'.map (·.2)) → Reordered (.object S) (.object S')

/-- A value with unique keys and a reordering of it, which is the value itself if the order is
fixed. -/
structure Json.Variant (fixed : Prop) (v v' : Json) : Prop where
  unique : v.UniqueKeys
  reordered : v.Reordered v'
  same : fixed → v = v'

/-- Variants of schema objects. -/
abbrev Members.Variant (fixed : Prop) (S S' : Members) : Prop :=
  Json.Variant fixed (.object S) (.object S')

namespace Json

variable {fixed : Prop} {v v' w w' : Json} {items : List Json} {S : Members}

/-- What holds of a value whenever it holds of its parts holds of all. -/
theorem parts_induction {P : Json → Prop} (step : ∀ v, (∀ w, PartOf w v → P w) → P v) (v : Json) :
    P v :=
  step v fun w _ => parts_induction step w
termination_by sizeOf v
decreasing_by exact PartOf.sizeOf_lt ‹_›

theorem forall₂_keyed {R : Json → Json → Prop} {T S' : Members}
    (hk : Members.keys T = Members.keys S')
    (hr : List.Forall₂ R (T.map (·.2)) (S'.map (·.2))) : List.Forall₂ (Keyed R) T S' := by
  induction T generalizing S' with
  | nil =>
    cases S' with
    | nil => exact .nil
    | cons => cases hk
  | cons e T ih =>
    cases S' with
    | nil => cases hk
    | cons e' S' =>
      obtain ⟨he, hk⟩ := List.cons.inj hk
      cases hr with
      | cons hv hr => exact .cons ⟨he, hv⟩ (ih hk hr)

namespace Variant

theorem refl (h : v.UniqueKeys) : Variant fixed v v := ⟨h, .refl v, fun _ => rfl⟩

/-- What is fixed need not be. -/
theorem loosen (h : Variant fixed v v') : Variant False v v' := ⟨h.unique, h.reordered, False.elim⟩

/-- The variants of an array are arrays of variants. -/
theorem array (h : Variant fixed (.array items) w) :
    ∃ items', w = .array items' ∧ List.Forall₂ (Variant fixed) items items' := by
  have hu : ∀ v ∈ items, v.UniqueKeys := uniqueKeysItems_iff.1 h.unique
  have hrefl : List.Forall₂ (Variant fixed) items items :=
    List.forall₂_same.2 fun v hv => refl (hu v hv)
  by_cases hf : fixed
  · exact ⟨items, (h.same hf).symm, hrefl⟩
  · cases h.reordered with
    | refl => exact ⟨items, rfl, hrefl⟩
    | array hr =>
      refine ⟨_, rfl, forall₂_imp_mem hr ?_⟩
      intro v hv v' hvv'
      exact ⟨hu v hv, hvv', fun h => absurd h hf⟩

/-- The variants of an object hold variants, key by key. -/
theorem object (h : Variant fixed (.object S) w) :
    ∃ S', w = .object S' ∧ Matched fixed (Keyed (Variant fixed)) S S' := by
  have hu : ∀ e ∈ S, e.2.UniqueKeys := uniqueKeysMembers_iff.1 h.unique.2
  have hrefl : Matched fixed (Keyed (Variant fixed)) S S :=
    .of_forall₂ (List.forall₂_same.2 fun e he => ⟨rfl, refl (hu e he)⟩)
  by_cases hf : fixed
  · exact ⟨S, (h.same hf).symm, hrefl⟩
  · cases h.reordered with
    | refl => exact ⟨S, rfl, hrefl⟩
    | object hp hk hr =>
      refine ⟨_, rfl, _, hp, fun h => absurd h hf, forall₂_imp_mem (forall₂_keyed hk hr) ?_⟩
      intro e he e' hee'
      exact ⟨hee'.1, hu e (hp.symm.subset he), hee'.2, fun h => absurd h hf⟩

/-! ### What is seen of a value -/

theorem string? (h : Variant fixed v v') : v.string? = v'.string? := by
  cases h.reordered <;> rfl

theorem number? (h : Variant fixed v v') : v.number? = v'.number? := by
  cases h.reordered <;> rfl

theorem isTrue (h : Variant fixed v v') : v.isTrue = v'.isTrue := by
  cases h.reordered <;> rfl

theorem hasType (h : Variant fixed v v') (name : String) : v.hasType name = v'.hasType name := by
  cases h.reordered with
  | refl => rfl
  | array | object =>
    unfold Json.hasType
    cases Kind.ofName? name with
    | none => rfl
    | some k => cases k <;> rfl

theorem items? (h : Variant fixed v v') :
    Option.Rel (List.Forall₂ (Variant fixed)) v.items? v'.items? := by
  cases v with
  | array items =>
    obtain ⟨items', rfl, hr⟩ := h.array
    exact .some hr
  | object S =>
    obtain ⟨S', rfl, -⟩ := h.object
    exact .none
  | _ =>
    cases h.reordered
    exact .none

theorem members? (h : Variant fixed v v') :
    Option.Rel (Members.Variant fixed) v.members? v'.members? := by
  cases v with
  | object S =>
    obtain ⟨S', rfl, -⟩ := h.object
    exact .some h
  | array items =>
    obtain ⟨items', rfl, -⟩ := h.array
    exact .none
  | _ =>
    cases h.reordered
    exact .none

theorem strings? (h : Variant fixed v v') : v.strings? = v'.strings? := by
  cases v with
  | array items =>
    obtain ⟨items', rfl, hr⟩ := h.array
    have hs := rel_mapM hr fun a b hab => rel_of_eq (hab.string?)
    rw [List.forall₂_eq_eq_eq] at hs
    exact rel_eq hs
  | object S =>
    obtain ⟨S', rfl, -⟩ := h.object
    rfl
  | _ =>
    cases h.reordered
    rfl

theorem objects? (h : Variant fixed v v') :
    Option.Rel (List.Forall₂ (Members.Variant fixed)) v.objects? v'.objects? := by
  cases v with
  | array items =>
    obtain ⟨items', rfl, hr⟩ := h.array
    exact rel_mapM hr fun a b hab => hab.members?
  | object S =>
    obtain ⟨S', rfl, -⟩ := h.object
    exact .none
  | _ =>
    cases h.reordered
    exact .none

end Variant

end Json

namespace Members.Variant

variable {fixed : Prop} {S S' : Members}

theorem matched (h : Members.Variant fixed S S') :
    Matched fixed (Keyed (Json.Variant fixed)) S S' := by
  obtain ⟨T, hT, hm⟩ := Json.Variant.object h
  cases hT
  exact hm

/-- **Keys hold variants.** -/
theorem get? (h : Members.Variant fixed S S') (key : String) :
    Option.Rel (Json.Variant fixed) (Members.get? S key) (Members.get? S' key) :=
  h.matched.lookup h.unique.1 key

theorem has (h : Members.Variant fixed S S') (key : String) :
    Members.has S key = Members.has S' key := by
  have hv := h.get? key
  unfold Members.has
  generalize Members.get? S key = o, Members.get? S' key = o' at hv
  cases hv <;> rfl

end Members.Variant

/-! ## Equality -/

namespace Json

variable {numbers : Number → Number → Bool} {fixed : Prop} {v v' w w' : Json}

theorem equalMembers_eq (S T : Members) : equalMembers numbers S T =
    S.all fun (key, a) => (Members.get? T key).any (equalBy numbers a) := by
  induction S with
  | nil => rfl
  | cons e S ih =>
    obtain ⟨key, a⟩ := e
    rw [equalMembers, ih, List.all_cons]
    dsimp only
    cases Members.get? T key <;> rfl

/-- Values that are compared alike with variants. -/
def ComparedAlike (numbers : Number → Number → Bool) (a a' : Json) : Prop :=
  ∀ b b', Variant False b b' → equalBy numbers a b = equalBy numbers a' b'

theorem equalItems_congr {items items' others others' : List Json}
    (h : List.Forall₂ (ComparedAlike numbers) items items')
    (h' : List.Forall₂ (Variant False) others others') :
    equalItems numbers items others = equalItems numbers items' others' := by
  induction h generalizing others others' with
  | nil => cases h' <;> rfl
  | cons ha _ ih =>
    cases h' with
    | nil => rfl
    | cons hb hbs => rw [equalItems, equalItems, ha _ _ hb, ih hbs]

theorem equalMembers_congr {S S' T T' : Members}
    (h : Matched False (Keyed (ComparedAlike numbers)) S S') (hT : Members.Variant False T T') :
    equalMembers numbers S T = equalMembers numbers S' T' := by
  rw [equalMembers_eq, equalMembers_eq]
  refine h.all_eq ?_
  rintro ⟨key, a⟩ ⟨key', a'⟩ ⟨rfl, ha⟩
  exact rel_any (hT.get? key) ha

/-- Equality under any equality of numbers does not see the order of keys. -/
theorem equalBy_congr (h : Variant False v v') (h' : Variant False w w') :
    equalBy numbers v w = equalBy numbers v' w' := by
  -- the second value is taken apart as the first one is, so it varies along the induction
  induction v using parts_induction generalizing v' w w' with
  | step v ih =>
    cases v with
    | array items =>
      obtain ⟨items', rfl, hi⟩ := h.array
      cases w with
      | array others =>
        obtain ⟨others', rfl, ho⟩ := h'.array
        refine equalItems_congr (forall₂_imp_mem hi ?_) ho
        intro a ha a' haa' b b' hb
        exact ih a (partOf_item ha) haa' hb
      | object T =>
        obtain ⟨T', rfl, -⟩ := h'.object
        rfl
      | _ =>
        cases h'.reordered
        rfl
    | object S =>
      obtain ⟨S', rfl, hS⟩ := h.object
      cases w with
      | object T =>
        obtain ⟨T', rfl, hT⟩ := h'.object
        have hmembers : equalMembers numbers S T = equalMembers numbers S' T' := by
          refine equalMembers_congr (hS.imp_mem ?_) h'
          intro e he e' hee'
          exact ⟨hee'.1, fun b b' hb => ih e.2 (partOf_member he) hee'.2 hb⟩
        simp only [equalBy, hS.length_eq, hT.length_eq, hmembers]
      | array others =>
        obtain ⟨others', rfl, -⟩ := h'.array
        rfl
      | _ =>
        cases h'.reordered
        rfl
    | _ =>
      cases h.reordered
      cases w with
      | array others =>
        obtain ⟨others', rfl, -⟩ := h'.array
        rfl
      | object T =>
        obtain ⟨T', rfl, -⟩ := h'.object
        rfl
      | _ =>
        cases h'.reordered
        rfl

/-- **Equality does not see the order of keys.** -/
theorem Variant.equal {fixed' : Prop} (h : Variant fixed v v') (h' : Variant fixed' w w') :
    v.equal w = v'.equal w' :=
  equalBy_congr h.loosen h'.loosen

theorem Variant.any_equal {fixed' : Prop} {values values' : List Json} (h : Variant fixed v v')
    (h' : List.Forall₂ (Variant fixed') values values') :
    values.any v.equal = values'.any v'.equal := by
  induction h' with
  | nil => rfl
  | cons hw _ ih => rw [List.any_cons, List.any_cons, h.equal hw, ih]

theorem uniqueItems_congr {items items' : List Json}
    (h : List.Forall₂ (Variant fixed) items items') : uniqueItems items = uniqueItems items' := by
  induction h with
  | nil => rfl
  | @cons v v' items items' hv hi ih =>
    rw [uniqueItems, uniqueItems, ih]
    congr 1
    have hm : Matched False (Variant fixed) items items' := .of_forall₂ hi
    refine hm.all_eq ?_
    intro w w' hw
    rw [hv.equal hw]

end Json

end JsonSchema
