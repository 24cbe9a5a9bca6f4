/-
  Places in a value.

  * `Json.parts`: the items of an array and the members of an object, each with
    the segment by which it is called.
  * `Json.child?`, `Json.at?`: what a segment, and a list of segments, lead to;
    a segment is a key of an object or the decimal index of an item.
  * `child?_of_mem_parts`: the segment of a part leads to it, as long as no
    object holds a key twice.
  * `depth_lt_of_mem_parts`: parts are less deeply nested.
-/
import JsonSchema.Reference
import Mathlib.Data.List.Nodup
import Mathlib.Order.Basic

namespace JsonSchema

/-! ## Indices -/

/-- The text of a number consists of its digits. -/
theorem indexDigits?_toString (n : ℕ) : indexDigits? (toString n) = some (Nat.toDigits 10 n) := by
  unfold indexDigits?
  simp only [Nat.toString_eq_repr, Nat.toList_repr]
  rw [if_pos]
  refine ⟨Nat.toDigits_ne_nil, List.all_eq_true.2 ?_⟩
  intro c hc
  have hd := Nat.isDigit_of_mem_toDigits (by decide) (by decide) hc
  simp only [isJsonDigit, Bool.and_eq_true, decide_eq_true_eq, Char.le_def]
  simpa [Char.isDigit] using hd

/-- The digits of a number spell it. -/
theorem digitsValue_toDigits (n : ℕ) : digitsValue (Nat.toDigits 10 n) = n :=
  Nat.ofDigitChars_ten_toDigits

/-! ## Parts -/

/-- Where no key is repeated, every entry is found by its key. -/
theorem lookup_of_mem {α : Type} {l : List (String × α)} (h : (l.map (·.1)).Nodup) {key : String}
    {a : α} (hm : (key, a) ∈ l) : l.lookup key = some a := by
  induction l with
  | nil => cases hm
  | cons entry l ih =>
    obtain ⟨k, b⟩ := entry
    simp only [List.map_cons, List.nodup_cons] at h
    rcases List.mem_cons.1 hm with he | ht
    · cases he; simp
    · have hk : key ≠ k := by
        intro he
        exact h.1 (List.mem_map.2 ⟨(key, a), ht, he⟩)
      rw [List.lookup_cons, beq_eq_false_iff_ne.2 hk]
      exact ih h.2 ht

namespace Json

/-- The immediate parts of a value and what they are called. -/
def parts : Json → List (String × Json)
  | .object members => members
  | .array items => items.zipIdx.map fun (v, i) => (toString i, v)
  | _ => []

/-- The parts of an array are its items, called by their indices. -/
theorem mem_parts_array {items : List Json} {part : String} {w : Json} :
    (part, w) ∈ (array items).parts ↔ ∃ i : ℕ, items[i]? = some w ∧ toString i = part := by
  simp only [parts, List.mem_map, Prod.exists, Prod.mk.injEq, List.mk_mem_zipIdx_iff_getElem?]
  constructor
  · rintro ⟨x, i, hx, rfl, rfl⟩
    exact ⟨i, hx, rfl⟩
  · rintro ⟨i, hw, rfl⟩
    exact ⟨w, i, hw, rfl, rfl⟩

/-- What a segment leads to. -/
def child? : Json → String → Option Json
  | .object members, key => Members.get? members key
  | .array items, index => (indexDigits? index).bind fun digits => items[digitsValue digits]?
  | _, _ => none

/-- What segments lead to, one after the other. -/
def at? (v : Json) : List String → Option Json
  | [] => some v
  | segment :: rest => (v.child? segment).bind fun w => w.at? rest

theorem at?_append (v : Json) (path rest : List String) :
    v.at? (path ++ rest) = (v.at? path).bind fun w => w.at? rest := by
  induction path generalizing v with
  | nil => rfl
  | cons segment path ih =>
    simp only [List.cons_append, at?, Option.bind_assoc]
    congr 1
    funext w
    exact ih w

theorem at?_push {root v w : Json} {path : List String} {part : String}
    (h : root.at? path = some v) (hp : v.child? part = some w) :
    root.at? (path ++ [part]) = some w := by
  simp [at?_append, h, at?, hp]

/-- **The segment of a part leads to the part.** -/
theorem child?_of_mem_parts {v w : Json} (hv : v.UniqueKeys) {part : String}
    (h : (part, w) ∈ v.parts) : v.child? part = some w := by
  cases v with
  | object members => exact lookup_of_mem hv.1 h
  | array items =>
    obtain ⟨i, hw, rfl⟩ := mem_parts_array.1 h
    simp only [child?, indexDigits?_toString, Option.bind_some, digitsValue_toDigits]
    exact hw
  | _ => simp [parts] at h

theorem uniqueKeysItems_iff {items : List Json} :
    UniqueKeysItems items ↔ ∀ v ∈ items, v.UniqueKeys := by
  induction items with
  | nil => simp [UniqueKeysItems]
  | cons item items ih => simp [UniqueKeysItems, ih]

theorem uniqueKeysMembers_iff {members : Members} :
    UniqueKeysMembers members ↔ ∀ m ∈ members, m.2.UniqueKeys := by
  induction members with
  | nil => simp [UniqueKeysMembers]
  | cons member members ih => simp [UniqueKeysMembers, ih]

theorem uniqueKeys_of_mem_parts {v w : Json} (hv : v.UniqueKeys) {part : String}
    (h : (part, w) ∈ v.parts) : w.UniqueKeys := by
  cases v with
  | object members => exact uniqueKeysMembers_iff.1 hv.2 _ h
  | array items =>
    obtain ⟨i, hw, -⟩ := mem_parts_array.1 h
    exact uniqueKeysItems_iff.1 hv w (List.mem_of_getElem? hw)
  | _ => simp [parts] at h

/-! ## Depth -/

theorem depth_lt_depthItems {items : List Json} {v : Json} (h : v ∈ items) :
    v.depth < depthItems items := by
  induction items with
  | nil => cases h
  | cons item items ih =>
    rcases List.mem_cons.1 h with rfl | h
    · simp only [depthItems]; omega
    · have := ih h
      simp only [depthItems]; omega

theorem depth_lt_depthMembers {members : Members} {m : String × Json} (h : m ∈ members) :
    m.2.depth < depthMembers members := by
  induction members with
  | nil => cases h
  | cons member members ih =>
    rcases List.mem_cons.1 h with rfl | h
    · simp only [depthMembers]; omega
    · have := ih h
      simp only [depthMembers]; omega

theorem depth_lt_of_mem_parts {v w : Json} {part : String} (h : (part, w) ∈ v.parts) :
    w.depth < v.depth := by
  cases v with
  | object members => exact depth_lt_depthMembers h
  | array items =>
    obtain ⟨i, hw, -⟩ := mem_parts_array.1 h
    exact depth_lt_depthItems (List.mem_of_getElem? hw)
  | _ => simp [parts] at h

end Json

end JsonSchema
