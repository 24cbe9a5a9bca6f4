/-
  IPv4 addresses are dotted quads.

  * `Ipv4.IsPart`: one to three digits of ASCII, of value at most 255.
  * `Ipv4.spells_octet`: the branches of an octet, which overlap, come to the
    parts.
  * `Ipv4.IsDottedQuad`: four parts with single dots between them.
  * `Ipv4.accepts_iff`: the tree for addresses matches the dotted quads.
  * `Ipv4.accepts_eq_matchesAll`: so does the expression that an address as it
    is written is read as.
  * `Ipv4.format_accepts_dottedQuads`: what the format accepts.
-/
import JsonSchema.Proofs.Language
import JsonSchema.Format
import JsonSchema.Regex
import Mathlib.Data.List.Basic

namespace JsonSchema.Ipv4

open Regex

/-! ## Characters -/

variable {u : List Char} {x y z low high : Char} {test : Single}

theorem le_iff_toNat_le : low ≤ high ↔ low.toNat ≤ high.toNat := Iff.rfl

theorem spells_char : (char x).Spells u ↔ u = [x] := by
  simp only [char, Node.Spells, Single.accepts, Single.sameLetter, CaseRule.family, CaseRule.fold]
  constructor
  · rintro ⟨y, hy, rfl⟩
    simpa [Char.toNat_inj] using hy
  · rintro rfl
    exact ⟨x, by simp, rfl⟩

theorem accepts_range : (Single.set .exact [.range low.toNat high.toNat] false).accepts x = true ↔
    low ≤ x ∧ x ≤ high := by
  simp only [Single.accepts, Single.setHolds, SetItem.holds, List.any_cons, List.any_nil,
    Bool.or_false, Bool.bne_false, Bool.and_eq_true, decide_eq_true_eq, le_iff_toNat_le]

theorem spells_digit : (digit low high).Spells u ↔ ∃ x, (low ≤ x ∧ x ≤ high) ∧ u = [x] := by
  simp only [digit, Node.Spells, accepts_range]

/-- One character or none. -/
theorem spells_optional {node : Node} (h : node.single? = some test) :
    (optional node).Spells u ↔ u = [] ∨ node.Spells u := by
  rw [optional, Node.spells_repeated h, Node.spells_of_single? h]
  simp only [Option.mem_def, Option.some.injEq, forall_eq', Nat.zero_le, true_and]
  constructor
  · rintro ⟨hu, hlength⟩
    match u, hlength with
    | [], _ => exact Or.inl rfl
    | [x], _ => exact Or.inr ⟨x, hu x List.mem_cons_self, rfl⟩
  · rintro (rfl | ⟨x, hx, rfl⟩)
    · simp
    · simpa using hx

/-! ## Parts -/

/-- A part of a dotted quad: one to three digits of ASCII, of value at most 255. -/
structure IsPart (part : List Char) : Prop where
  digits : ∀ c ∈ part, '0' ≤ c ∧ c ≤ '9'
  nonempty : 1 ≤ part.length
  short : part.length ≤ 3
  value : digitsValue part ≤ 255

/-- The branches of an octet, given the test for a first digit of a number below 200. -/
def octetBranches (first : Single) : Node :=
  .alternatives [
    .concat [char '2', char '5', digit '0' '5'],
    .concat [char '2', digit '0' '4', digit '0' '9'],
    .concat [optional (.single first), digit '0' '9', optional (digit '0' '9')]]

/-- The branches, spelled out: 250 to 255, 200 to 249, and what has a first digit that may be
left out. -/
theorem spells_octetBranches {first : Single} : (octetBranches first).Spells u ↔
    (∃ z, ('0' ≤ z ∧ z ≤ '5') ∧ u = ['2', '5', z]) ∨
      (∃ y z, ('0' ≤ y ∧ y ≤ '4') ∧ ('0' ≤ z ∧ z ≤ '9') ∧ u = ['2', y, z]) ∨
      ∃ front y back, (front = [] ∨ ∃ x, first.accepts x = true ∧ front = [x]) ∧
        ('0' ≤ y ∧ y ≤ '9') ∧ (back = [] ∨ ∃ z, ('0' ≤ z ∧ z ≤ '9') ∧ back = [z]) ∧
        u = front ++ y :: back := by
  have hback : (optional (digit '0' '9')).Spells = fun v =>
      v = [] ∨ ∃ z, ('0' ≤ z ∧ z ≤ '9') ∧ v = [z] := by
    funext v
    rw [spells_optional rfl, spells_digit]
  have hfront : (optional (.single first)).Spells = fun v =>
      v = [] ∨ ∃ x, first.accepts x = true ∧ v = [x] := by
    funext v
    rw [spells_optional rfl]
    rfl
  simp only [octetBranches, Node.alternatives, Node.Spells, Node.spells_concat_cons,
    Node.spells_concat_nil, spells_char, spells_digit, hfront, hback]
  refine or_congr ?_ (or_congr ?_ ?_)
  · constructor
    · rintro ⟨_, _, rfl, rfl, _, _, rfl, rfl, _, _, rfl, ⟨z, hz, rfl⟩, rfl⟩
      exact ⟨z, hz, rfl⟩
    · rintro ⟨z, hz, rfl⟩
      exact ⟨_, _, rfl, rfl, _, _, rfl, rfl, [z], [], rfl, ⟨z, hz, rfl⟩, rfl⟩
  · constructor
    · rintro ⟨_, _, rfl, rfl, _, _, rfl, ⟨y, hy, rfl⟩, _, _, rfl, ⟨z, hz, rfl⟩, rfl⟩
      exact ⟨y, z, hy, hz, rfl⟩
    · rintro ⟨y, z, hy, hz, rfl⟩
      exact ⟨_, _, rfl, rfl, [y], [z], rfl, ⟨y, hy, rfl⟩, [z], [], rfl, ⟨z, hz, rfl⟩, rfl⟩
  · constructor
    · rintro ⟨front, _, rfl, hfront, _, _, rfl, ⟨y, hy, rfl⟩, back, _, rfl, hback, rfl⟩
      exact ⟨front, y, back, hfront, hy, hback, by simp⟩
    · rintro ⟨front, y, back, hfront, hy, hback, rfl⟩
      exact ⟨front, _, rfl, hfront, [y], back, rfl, ⟨y, hy, rfl⟩, back, [], by simp, hback, rfl⟩

theorem isPart_one : IsPart [x] ↔ '0' ≤ x ∧ x ≤ '9' := by
  constructor
  · intro h
    exact h.digits x List.mem_cons_self
  · intro hx
    refine ⟨by simpa using hx, by simp, by simp, ?_⟩
    simp only [le_iff_toNat_le, Char.reduceToNat] at hx
    simp only [digitsValue, List.foldl_cons, List.foldl_nil, Char.reduceToNat]
    omega

theorem isPart_two : IsPart [x, y] ↔ ('0' ≤ x ∧ x ≤ '9') ∧ '0' ≤ y ∧ y ≤ '9' := by
  constructor
  · intro h
    exact ⟨h.digits x (by simp), h.digits y (by simp)⟩
  · intro h
    refine ⟨by simpa using h, by simp, by simp, ?_⟩
    simp only [le_iff_toNat_le, Char.reduceToNat] at h
    simp only [digitsValue, List.foldl_cons, List.foldl_nil, Char.reduceToNat]
    omega

/-- Three digits may be too much. -/
theorem isPart_three : IsPart [x, y, z] ↔
    (('0' ≤ x ∧ x ≤ '9') ∧ ('0' ≤ y ∧ y ≤ '9') ∧ '0' ≤ z ∧ z ≤ '9') ∧
      10 * (10 * (x.toNat - 48) + (y.toNat - 48)) + (z.toNat - 48) ≤ 255 := by
  constructor
  · intro h
    exact ⟨by simpa using h.digits, by simpa [digitsValue] using h.value⟩
  · rintro ⟨hdigits, hvalue⟩
    exact ⟨by simpa using hdigits, by simp, by simp, by simpa [digitsValue] using hvalue⟩

/-- **The branches of an octet come to the parts.** -/
theorem spells_octet {first : Single}
    (h : ∀ x, first.accepts x = true ↔ '0' ≤ x ∧ x ≤ '1') :
    (octetBranches first).Spells u ↔ IsPart u := by
  simp only [spells_octetBranches, h]
  constructor
  · rintro (⟨z, hz, rfl⟩ | ⟨y, z, hy, hz, rfl⟩ | ⟨front, y, back, hfront, hy, hback, rfl⟩)
    · rw [isPart_three]
      simp only [le_iff_toNat_le, Char.reduceToNat] at hz ⊢
      omega
    · rw [isPart_three]
      simp only [le_iff_toNat_le, Char.reduceToNat] at hy hz ⊢
      omega
    · rcases hfront with rfl | ⟨x, hx, rfl⟩ <;> rcases hback with rfl | ⟨z, hz, rfl⟩
      · exact isPart_one.2 hy
      · exact isPart_two.2 ⟨hy, hz⟩
      · refine isPart_two.2 ⟨?_, hy⟩
        simp only [le_iff_toNat_le, Char.reduceToNat] at hx ⊢
        omega
      · refine isPart_three.2 ?_
        simp only [le_iff_toNat_le, Char.reduceToNat] at hx hy hz ⊢
        omega
  · intro hu
    match u, hu.nonempty, hu.short with
    | [x], _, _ => exact Or.inr (Or.inr ⟨[], x, [], Or.inl rfl, isPart_one.1 hu, Or.inl rfl, rfl⟩)
    | [x, y], _, _ =>
      obtain ⟨hx, hy⟩ := isPart_two.1 hu
      exact Or.inr (Or.inr ⟨[], x, [y], Or.inl rfl, hx, Or.inr ⟨y, hy, rfl⟩, rfl⟩)
    | [x, y, z], _, _ =>
      obtain ⟨⟨hx, hy, hz⟩, hvalue⟩ := isPart_three.1 hu
      -- a first digit 2 leaves room for a second one up to 5
      by_cases hx1 : x ≤ '1'
      · exact Or.inr (Or.inr
          ⟨[x], y, [z], Or.inr ⟨x, ⟨hx.1, hx1⟩, rfl⟩, hy, Or.inr ⟨z, hz, rfl⟩, rfl⟩)
      · simp only [le_iff_toNat_le, Char.reduceToNat] at hx hx1 hy hz hvalue
        obtain rfl : x = '2' := Char.toNat_inj.1 (by simp only [Char.reduceToNat]; omega)
        simp only [Char.reduceToNat] at hvalue
        by_cases hy4 : y ≤ '4'
        · exact Or.inr (Or.inl ⟨y, z, ⟨hy.1, hy4⟩, hz, rfl⟩)
        · simp only [le_iff_toNat_le, Char.reduceToNat] at hy4
          obtain rfl : y = '5' := Char.toNat_inj.1 (by simp only [Char.reduceToNat]; omega)
          simp only [Char.reduceToNat] at hvalue
          refine Or.inl ⟨z, ⟨hz.1, ?_⟩, rfl⟩
          simp only [le_iff_toNat_le, Char.reduceToNat]
          omega

/-! ## Addresses -/

/-- Four parts with single dots between them, and nothing before or behind them. -/
def IsDottedQuad (text : String) : Prop :=
  ∃ parts : List String, parts.length = 4 ∧ (∀ part ∈ parts, IsPart part.toList) ∧
    text = ".".intercalate parts

/-- Four trees that stand for the parts, with dots between them, stand for the dotted quads. -/
theorem spells_quad {a b c d : Node} (ha : ∀ u, a.Spells u ↔ IsPart u)
    (hb : ∀ u, b.Spells u ↔ IsPart u) (hc : ∀ u, c.Spells u ↔ IsPart u)
    (hd : ∀ u, d.Spells u ↔ IsPart u) {text : String} :
    (Node.concat [a, char '.', b, char '.', c, char '.', d]).Spells text.toList ↔
      IsDottedQuad text := by
  simp only [Node.spells_concat_cons, Node.spells_concat_nil, spells_char, ha, hb, hc, hd]
  constructor
  · rintro ⟨a, _, ht, ha, _, _, rfl, rfl, b, _, rfl, hb, _, _, rfl, rfl, c, _, rfl, hc,
      _, _, rfl, rfl, d, _, rfl, hd, rfl⟩
    refine ⟨[.ofList a, .ofList b, .ofList c, .ofList d], rfl, by simp [ha, hb, hc, hd], ?_⟩
    rw [← String.toList_inj, ht, String.toList_intercalate]
    simp [List.intercalate]
  · rintro ⟨parts, hlength, hparts, rfl⟩
    obtain ⟨a, b, c, d, rfl⟩ := List.length_eq_four.1 hlength
    simp only [List.forall_mem_cons] at hparts
    obtain ⟨ha, hb, hc, hd, -⟩ := hparts
    refine ⟨a.toList, _, ?_, ha, _, _, rfl, rfl, b.toList, _, rfl, hb, _, _, rfl, rfl,
      c.toList, _, rfl, hc, _, _, rfl, rfl, d.toList, [], rfl, hd, rfl⟩
    rw [String.toList_intercalate]
    simp [List.intercalate]

theorem accepts_iff (text : String) : accepts text = true ↔ IsDottedQuad text := by
  have hoctet : ∀ u, octet.Spells u ↔ IsPart u := fun u => spells_octet fun x => accepts_range
  rw [accepts, Node.matchesAll_iff rfl]
  exact spells_quad hoctet hoctet hoctet hoctet

example : accepts "01.002.250.255" = true ∧ accepts "1.2.3.256" = false := by decide +kernel

/-- A part of an address, written as a regular expression. -/
def octetSource : String := "(25[0-5]|2[0-4][0-9]|[01]?[0-9][0-9]?)"

/-- An address, written as a regular expression. -/
def source : String := "\\.".intercalate (List.replicate 4 octetSource)

theorem accepts_zeroOrOne : (Single.set .exact [.code '0'.toNat, .code '1'.toNat] false).accepts x =
    true ↔ '0' ≤ x ∧ x ≤ '1' := by
  simp only [Single.accepts, Single.setHolds, SetItem.holds, List.any_cons, List.any_nil,
    Bool.or_false, Bool.bne_false, Bool.or_eq_true, beq_iff_eq, le_iff_toNat_le, Char.reduceToNat]
  omega

/-- An octet as it is written, with a group around it. -/
def writtenOctet (group : ℕ) : Node :=
  .capture group (octetBranches (.set .exact [.code '0'.toNat, .code '1'.toNat] false))

/-- The tree of the written expression. -/
def writtenAddress : Node :=
  .concat [writtenOctet 1, char '.', writtenOctet 2, char '.', writtenOctet 3, char '.',
    writtenOctet 4]

theorem root_source :
    (Pattern.ofSource source).expression.toOption.map (·.root) = some writtenAddress := by
  decide +kernel

/-- **An address as it is written is read as an expression that matches the same texts.** -/
theorem accepts_eq_matchesAll : ∃ e, (Pattern.ofSource source).expression = .ok e ∧
    ∀ text : String, accepts text = e.root.matchesAll text.toList := by
  obtain ⟨e, he, hroot⟩ := Option.map_eq_some_iff.1 root_source
  have hread : (Pattern.ofSource source).expression = .ok e := by
    cases h : (Pattern.ofSource source).expression with
    | error defect =>
      rw [h] at he
      cases he
    | ok e' =>
      rw [h] at he
      cases he
      rfl
  refine ⟨e, hread, ?_⟩
  intro text
  have hoctet : ∀ group u, (writtenOctet group).Spells u ↔ IsPart u :=
    fun _ _ => spells_octet fun _ => accepts_zeroOrOne
  rw [Bool.eq_iff_iff, accepts_iff, hroot, Node.matchesAll_iff rfl]
  exact (spells_quad (hoctet 1) (hoctet 2) (hoctet 3) (hoctet 4)).symm

/-- **The format accepts the dotted quads, and no other texts.** -/
theorem format_accepts_dottedQuads (text : String) : ∃ checker,
    Registry.builtIn.get? "ipv4" = some checker ∧
      (checker (.string text) = true ↔ IsDottedQuad text) :=
  ⟨Checker.ofText accepts, rfl, accepts_iff text⟩

end JsonSchema.Ipv4
