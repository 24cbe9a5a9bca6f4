/-
  Division by positive numbers.

  * `Number.toDouble_positive`: a positive number is too large for a double, or
    it becomes a positive double; it never shrinks to zero.
  * `NumberLimits.violations_eq`: the limits on a number are checked without an
    arithmetic fault.  A divisor counts only if it is positive, and a quotient
    that overflows is an answer.
-/
import JsonSchema.Rule
import Mathlib.Algebra.Order.Ring.Int

namespace JsonSchema

/-! ## Rounding away from zero -/

theorem powerOfTwo_pos (n : ℕ) : 0 < powerOfTwo n := Nat.pow_pos (by decide)

namespace Double

theorem one_pos : 0 < one := powerOfTwo_pos _

theorem lastPlace_pos (units : ℕ) : 0 < lastPlace units := powerOfTwo_pos _

theorem lastPlace_le {units : ℕ} (h : units ≠ 0) : lastPlace units ≤ units :=
  (Nat.pow_le_pow_right (by decide) (Nat.sub_le _ _)).trans (Nat.log2_self_le h)

theorem le_roundHalfEven (numerator denominator : ℕ) :
    numerator / denominator ≤ roundHalfEven numerator denominator := by
  unfold roundHalfEven
  dsimp only
  split_ifs <;> omega

/-- A whole number other than zero is not rounded to zero. -/
theorem ofInt_ne_zero {n : ℤ} (hn : n ≠ 0) (negative : Bool) (h : Representable 0) :
    ofInt n ≠ .finite negative 0 h := by
  have hs : n.natAbs * one ≠ 0 := Nat.mul_ne_zero (Int.natAbs_ne_zero.2 hn) one_pos.ne'
  have hle := le_roundHalfEven (n.natAbs * one) (lastPlace (n.natAbs * one))
  have hq : 0 < n.natAbs * one / lastPlace (n.natAbs * one) :=
    Nat.div_pos (lastPlace_le hs) (lastPlace_pos _)
  have hpos := Nat.mul_pos (hq.trans_le hle) (lastPlace_pos (n.natAbs * one))
  unfold ofInt ofRatio ofUnits
  simp only [Nat.div_one, Nat.one_mul]
  split_ifs
  · intro he
    injection he with _ h0
    exact hpos.ne' h0
  · simp

/-- The divisors by which a quotient exists. -/
theorem divide_isSome {a b : Double} (hb : ∀ negative h, b ≠ .finite negative 0 h) :
    ∃ q, a.divide b = some q := by
  cases b with
  | nan => cases a <;> exact ⟨_, rfl⟩
  | infinite => cases a <;> exact ⟨_, rfl⟩
  | finite negative units h =>
    cases units with
    | zero => exact absurd rfl (hb negative h)
    | succ n => cases a <;> exact ⟨_, rfl⟩

end Double

/-! ## Positive divisors -/

namespace Number

theorem place?_int (n : ℤ) : (int n).place? = some (.units (n * Double.one)) := rfl

theorem isPositive_int {n : ℤ} : (int n).isPositive = true ↔ 0 < n := by
  have hone : (0 : ℤ) < Double.one := by exact_mod_cast Double.one_pos
  rw [isPositive, less, compare?, place?_int, place?_int]
  generalize (Double.one : ℤ) = one at hone ⊢
  rw [zero_mul]
  have h : (Place.compare (.units 0) (.units (n * one)) = .lt) ↔ 0 < n * one := Int.compare_eq_lt
  simpa [mul_pos_iff_of_pos_right hone] using h

theorem isPositive_ne_zero {d : Double} (h : (double d).isPositive = true) (negative : Bool)
    (h0 : Double.Representable 0) : d ≠ .finite negative 0 h0 := by
  rintro rfl
  rw [isPositive, less, compare?, place?_int] at h
  generalize (Double.one : ℤ) = one at h
  cases negative <;> simp [place?, Place.compare] at h

/-- An integer becomes the nearest double unless that is infinite. -/
theorem toDouble_int (n : ℤ) : (int n).toDouble = .error .overflow ∨
    (int n).toDouble = .ok (Double.ofInt n) := by
  rw [toDouble]
  generalize Double.ofInt n = d
  cases d with
  | infinite => exact Or.inl rfl
  | _ => exact Or.inr rfl

/-- A positive number is too large for a double, or it becomes one other than zero. -/
theorem toDouble_positive {n : Number} (h : n.isPositive = true) :
    n.toDouble = .error .overflow ∨
      ∃ d, n.toDouble = .ok d ∧ ∀ negative h0, d ≠ .finite negative 0 h0 := by
  cases n with
  | double d => exact Or.inr ⟨d, rfl, isPositive_ne_zero h⟩
  | int n =>
    have hz := Double.ofInt_ne_zero (isPositive_int.1 h).ne'
    rcases toDouble_int n with ho | ho
    · exact Or.inl ho
    · exact Or.inr ⟨_, ho, hz⟩

/-- A quotient by a positive number exists, or it overflows. -/
theorem divide_positive (n : Number) {divisor : Number} (h : divisor.isPositive = true) :
    n.divide divisor = .error .overflow ∨ ∃ q, n.divide divisor = .ok q := by
  have ha : n.toDouble = .error .overflow ∨ ∃ a, n.toDouble = .ok a := by
    cases n with
    | double d => exact Or.inr ⟨d, rfl⟩
    | int n =>
      rcases toDouble_int n with h | h
      · exact Or.inl h
      · exact Or.inr ⟨_, h⟩
  rcases ha with ha | ⟨a, ha⟩
  · exact Or.inl (by simp only [divide, ha]; rfl)
  · rcases toDouble_positive h with hb | ⟨b, hb, hb0⟩
    · exact Or.inl (by simp only [divide, ha, hb]; rfl)
    · obtain ⟨q, hq⟩ := Double.divide_isSome (a := a) hb0
      refine Or.inr ⟨q, ?_⟩
      simp only [divide, ha, hb, bind, Except.bind, hq]

/-- Whether a number is a multiple of a positive one is always decided. -/
theorem isMultipleOf_isOk (n : Number) {divisor : Number} (h : divisor.isPositive = true) :
    ∃ multiple, n.isMultipleOf divisor = .ok multiple := by
  have hd := divide_positive n h
  unfold isMultipleOf
  split
  · rw [if_neg (isPositive_int.1 h).ne']
    exact ⟨_, rfl⟩
  · rcases hd with hd | ⟨q, hd⟩
    · rw [hd]
      exact ⟨_, rfl⟩
    · rw [hd]
      exact ⟨_, rfl⟩

end Number

/-! ## Limits -/

namespace NumberLimits

/-- What a number violates by its multiples, without the cause of a fault. -/
def multiples (l : NumberLimits) (n : Number) : List Violation :=
  (l.multipleOf.bind fun divisor => (multipleViolations n divisor).toOption).getD []

/-- What a number violates by being too small. -/
def tooSmall (l : NumberLimits) (n : Number) : List Violation :=
  match l.minimum with
  | some bound => minimumViolations n bound l.exclusiveMinimum
  | none => []

/-- What a number violates by being too large. -/
def tooLarge (l : NumberLimits) (n : Number) : List Violation :=
  match l.maximum with
  | some bound => maximumViolations n bound l.exclusiveMaximum
  | none => []

/-- What a number violates. -/
def violated (l : NumberLimits) (n : Number) : List Violation :=
  l.multiples n ++ l.tooSmall n ++ l.tooLarge n

theorem multipleViolations_isOk (n divisor : Number) :
    ∃ violations, multipleViolations n divisor = .ok violations := by
  unfold multipleViolations
  split_ifs with h
  · obtain ⟨multiple, hm⟩ := n.isMultipleOf_isOk h
    rw [hm]
    exact ⟨_, rfl⟩
  · exact ⟨_, rfl⟩

/-- **Limits on a number are checked without a fault.** -/
theorem violations_eq (l : NumberLimits) (n : Number) : l.violations n = .ok (l.violated n) := by
  unfold violations violated multiples
  cases l.multipleOf with
  | none => rfl
  | some divisor =>
    obtain ⟨multiples, hm⟩ := multipleViolations_isOk n divisor
    simp only [hm, Option.bind_some]
    rfl

end NumberLimits

end JsonSchema
