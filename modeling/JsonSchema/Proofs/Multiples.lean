/-
  Which numbers a divisor accepts.

  * `Number.isMultipleOf_finite`: of two numbers that become integral doubles,
    not both integers, one is a multiple of the other if their quotient rounds
    to a whole number.
  * `Number.Accepts`: a schema that asks for multiples of a number accepts
    another.
  * `multiples_by_quotient`: integers are judged by divisibility, and equal
    doubles by the rounded quotient, whichever of the two is a double.
  * `rounded_quotient_is_whole`: the two judgements differ.
-/
import JsonSchema.Proofs.Equality
import JsonSchema.Proofs.Rounding
import JsonSchema.Proofs.Uniqueness

namespace JsonSchema

namespace Number

variable {value divisor : Number} {n : ℤ} {m units units' : ℕ} {sign sign' : Bool}
  {hu : Double.Representable units} {hu' : Double.Representable units'}

/-! ## Integers as doubles -/

theorem unlessInfinite_finite (sign : Bool) (units : ℕ) (hr : Double.Representable units) :
    unlessInfinite (.finite sign units hr) = .ok (.finite sign units hr) := rfl

/-- An integer that some double is equal to is on the grid. -/
theorem representable_of_equal {d : Double} (h : (double d).equal (.int n) = true) :
    Double.Representable (n.natAbs * Double.one) := by
  obtain ⟨_, units, hu, -, hunits⟩ := exists_finite_of_samePlace (samePlace_of_equal h).symm
  exact hunits ▸ hu

/-- A number that is equal to an integer becomes a double with its units. -/
theorem toDouble_of_equal (h : value.equal (.int n) = true)
    (hn : Double.Representable (n.natAbs * Double.one)) :
    ∃ negative units hr, value.toDouble = .ok (.finite negative units hr) ∧
      units = n.natAbs * Double.one := by
  have hplace := samePlace_of_equal h
  cases value with
  | int i =>
    have hscaled : i * (Double.one : ℤ) = n * Double.one := by
      simpa only [SamePlace, place?, Option.some.injEq, Place.units.injEq] using hplace
    obtain rfl := mul_right_cancel₀ (by exact_mod_cast Double.one_pos.ne') hscaled
    refine ⟨decide (i < 0), _, hn, ?_, rfl⟩
    rw [toDouble, Double.ofInt_eq_ofUnits hn, Double.ofUnits_eq_finite hn, unlessInfinite_finite]
  | double d =>
    obtain ⟨negative, units, hr, rfl, hunits⟩ := exists_finite_of_samePlace hplace.symm
    exact ⟨negative, units, hr, rfl, hunits⟩

/-- A positive integer becomes a double that is equal to one, or it is too large. -/
theorem toDouble_natCast (hm : 0 < m) : (int m).toDouble = .error .overflow ∨
    ∃ k units hu, 0 < k ∧ units = k * Double.one ∧
      (int m).toDouble = .ok (.finite false units hu) ∧
      (double (.finite false units hu)).equal (.int k) = true := by
  have hpositive : (int m).isPositive = true := isPositive_int.2 (by exact_mod_cast hm)
  have hsign : decide ((m : ℤ) < 0) = false := decide_eq_false (by omega)
  rcases toDouble_positive hpositive with hlarge | ⟨d, hd, hne⟩
  · exact .inl hlarge
  · right
    rcases Double.ofInt_eq m with ⟨negative, h⟩ | ⟨units, hu, h, k, hk⟩
    · rw [toDouble, h] at hd
      cases hd
    · rw [toDouble, h, unlessInfinite_finite, hsign] at hd
      obtain rfl := Except.ok.inj hd
      have hkpos : 0 < k := by
        refine Nat.pos_of_ne_zero ?_
        rintro rfl
        rw [Nat.mul_zero] at hk
        subst hk
        exact hne _ _ rfl
      rw [Nat.mul_comm] at hk
      refine ⟨k, units, hu, hkpos, hk, ?_, equal_iff.2 ⟨.units units, rfl, ?_⟩⟩
      · rw [toDouble, h, unlessInfinite_finite, hsign]
      · rw [place?_int, hk, Nat.cast_mul]

/-! ## Multiples by rounding -/

section
variable (hmixed : ∀ i j, ¬(value = .int i ∧ divisor = .int j))
  (ha : value.toDouble = .ok (.finite sign units hu))

include hmixed

theorem isMultipleOf_eq_divide : value.isMultipleOf divisor = match value.divide divisor with
    | .ok quotient => .ok quotient.isIntegral
    | .error .overflow => .ok false
    | .error .divisionByZero => .error .divisionByZero := by
  unfold isMultipleOf
  split
  · next i j => exact absurd ⟨rfl, rfl⟩ (hmixed i j)
  · rfl

include ha

/-- Unless both numbers are integers, the rounded quotient decides. -/
theorem isMultipleOf_finite (hb : divisor.toDouble = .ok (.finite sign' units' hu'))
    (hle : Double.one ≤ units') :
    value.isMultipleOf divisor = .ok (decide (Double.RoundsToWhole units units')) := by
  have hpos : 0 < units' := Double.one_pos.trans_le hle
  have hquotient : value.divide divisor = .ok (.ofRatio (sign != sign') units units') := by
    rw [divide, ha, hb]
    cases units' with
    | zero => exact absurd hpos (Nat.lt_irrefl 0)
    | succ => rfl
  have hwhole := Double.isIntegral_ofRatio hpos hu (Nat.mul_le_mul_left units hle) (sign != sign')
  rw [isMultipleOf_eq_divide hmixed, hquotient]
  exact congrArg Except.ok (Bool.eq_iff_iff.2 (hwhole.trans decide_eq_true_iff.symm))

/-- A double is no multiple of an integer that is too large. -/
theorem isMultipleOf_overflow (hb : divisor.toDouble = .error .overflow) :
    value.isMultipleOf divisor = .ok false := by
  rw [isMultipleOf_eq_divide hmixed, divide, ha, hb]
  rfl

end

/-! ## Schemas that ask for multiples -/

/-- A number as a value. -/
def json : Number → Json
  | .int n => .int n
  | .double d => .double d

/-- A document that asks for multiples of a number. -/
def document (divisor : Number) : Members := [("multipleOf", divisor.json)]

/-- The schema that asks for multiples of one number accepts another. -/
def Accepts (options : Options) (divisor value : Number) : Prop :=
  ∃ schema, (Schema.build (.object divisor.document) options).schema = .ok schema ∧
    (schema.validate value.json).valid = true

variable {registry : Registry} {options : Options}

/-- The limits on numbers of the document. -/
def limits (divisor : Number) : NumberLimits := ⟨some divisor, none, none, false, false⟩

theorem violated_limits_eq_nil_iff (hdivisor : divisor.isPositive = true) :
    divisor.limits.violated value = [] ↔ value.isMultipleOf divisor = .ok true := by
  obtain ⟨multiple, hmultiple⟩ := value.isMultipleOf_isOk hdivisor
  have hviolated : divisor.limits.violated value =
      violationIf (!multiple) (.multipleOf divisor) := by
    simp [NumberLimits.violated, NumberLimits.multiples, NumberLimits.tooSmall,
      NumberLimits.tooLarge, limits, NumberLimits.multipleViolations, hdivisor, hmultiple,
      Except.map, Except.toOption]
  rw [hviolated, hmultiple]
  cases multiple <;> simp [violationIf]

theorem validate?_document (value divisor : Number) (registry : Registry) (options : Options) :
    (divisor.document.compiled registry options).validate? value.json =
      .ok (.merge [(Context.start options.verbose).check value.json
        (divisor.limits.violated value)]) := by
  have hroot : (divisor.document.compiled registry options).program.root =
      .combined [.number divisor.limits] := by cases divisor <;> rfl
  have hchecked (c : Context) : checkNumber divisor.limits c value.json value =
      (.ok (c.check value.json (divisor.limits.violated value)) : Except Fault Result) := by
    rw [checkNumber, NumberLimits.violations_eq]
    rfl
  have hnumber : value.json.number? = some value := by cases value <;> rfl
  rw [Schema.validate?, hroot, Program.evaluate, Rule.check, Rule.checkAll, Rule.checkAll,
    Rule.check]
  simp only [hnumber, hchecked]
  rfl

/-- What a schema accepts is what counts as a multiple. -/
theorem accepts_iff (hr : Registry.build options.formats = .ok registry)
    (hd : 1 ≤ options.maxReferenceDepth) (hdivisor : divisor.isPositive = true) :
    divisor.Accepts options value ↔ value.isMultipleOf divisor = .ok true := by
  have hsteps : divisor.document.steps registry = [] := by cases divisor <;> rfl
  have hbuild := build_of_steps_eq_nil hr hd hsteps
  have hvalid : ((divisor.document.compiled registry options).validate value.json).valid = true ↔
      divisor.limits.violated value = [] := by
    rw [Schema.validate, validate?_document]
    cases divisor.limits.violated value <;> simp [Context.check, Result.merge]
  rw [← violated_limits_eq_nil_iff hdivisor, ← hvalid]
  constructor
  · rintro ⟨schema, hschema, hvalid⟩
    obtain rfl := Except.ok.inj (hschema.symm.trans hbuild)
    exact hvalid
  · exact fun h => ⟨_, hbuild, h⟩

theorem isPositive_of_equal (hm : 0 < m) (h : divisor.equal (.int m) = true) :
    divisor.isPositive = true := by
  rw [isPositive, (SamePlace.refl (int 0)).less (samePlace_of_equal h), ← isPositive,
    isPositive_int]
  exact_mod_cast hm

section
variable (hmixed : ∀ i j, ¬(value = .int i ∧ divisor = .int j))
  (hvalue : value.equal (.int n) = true) (hn : Double.Representable (n.natAbs * Double.one))
  (hr : Registry.build options.formats = .ok registry) (hd : 1 ≤ options.maxReferenceDepth)

include hmixed hvalue hn hr hd

/-- Unless both numbers are integers, the divisor that is left of rounding accepts what is close
enough to a multiple. -/
theorem accepts_iff_roundsToWhole (hdivisor : divisor.isPositive = true) (hm : 0 < m)
    (hb : divisor.toDouble = .ok (.finite sign' units' hu')) (hunits' : units' = m * Double.one) :
    divisor.Accepts options value ↔ Double.RoundsToWhole n.natAbs m := by
  obtain ⟨negative, units, hu, ha, hunits⟩ := toDouble_of_equal hvalue hn
  have hle : Double.one ≤ units' := hunits' ▸ Nat.le_mul_of_pos_left _ hm
  rw [accepts_iff hr hd hdivisor, isMultipleOf_finite hmixed ha hb hle, Except.ok.injEq,
    decide_eq_true_iff, hunits, hunits', Double.roundsToWhole_mul Double.one_pos]

theorem accepts_iff_of_equal (hm : 0 < m) (hdivisor : divisor.equal (.int m) = true)
    (hrep : Double.Representable (m * Double.one)) :
    divisor.Accepts options value ↔ Double.RoundsToWhole n.natAbs m := by
  obtain ⟨negative, units', hu', hb, hunits'⟩ := toDouble_of_equal hdivisor hrep
  exact accepts_iff_roundsToWhole hmixed hvalue hn hr hd (isPositive_of_equal hm hdivisor) hm hb
    hunits'

end

end Number

/-- **A multiple is judged by its value only if both numbers are integers; a double is judged by
its rounded quotient.**  For a positive integer and an integer that some double is equal to, asking
for multiples of the one accepts the other just if it divides.  If the divisor, the value or both
are doubles that are equal to them, what is accepted is what lies so close to a multiple that the
quotient is rounded to a whole number.  A divisor to which no double is equal judges doubles as the
integral double does to which it is rounded; if it is too large for that, it accepts none.  All
multiples are close enough, and up to `2 ^ 53` nothing else is; but from `2 ^ 52` times the divisor
on everything is. -/
theorem multiples_by_quotient {n : ℤ} {m : ℕ} {a : Double} {registry : Registry}
    {options : Options} (hm : 0 < m) (ha : (Number.double a).equal (.int n) = true)
    (hr : Registry.build options.formats = .ok registry) (hd : 1 ≤ options.maxReferenceDepth) :
    ((Number.int m).Accepts options (.int n) ↔ (m : ℤ) ∣ n) ∧
      (∀ b : Double, (Number.double b).equal (.int m) = true →
        ((Number.double b).Accepts options (.int n) ↔ Double.RoundsToWhole n.natAbs m) ∧
        ((Number.double b).Accepts options (.double a) ↔ Double.RoundsToWhole n.natAbs m) ∧
        ((Number.int m).Accepts options (.double a) ↔ Double.RoundsToWhole n.natAbs m) ∧
        (n.natAbs ≤ 2 ^ 53 → (Double.RoundsToWhole n.natAbs m ↔ (m : ℤ) ∣ n))) ∧
      ((Number.int m).toDouble = .error .overflow ∧ ¬(Number.int m).Accepts options (.double a) ∨
        ∃ (b : Double) (k : ℕ), (Number.int m).toDouble = .ok b ∧ 0 < k ∧
          (Number.double b).equal (.int k) = true ∧
          ((Number.int m).Accepts options (.double a) ↔ Double.RoundsToWhole n.natAbs k)) ∧
      ((m : ℤ) ∣ n ∨ 2 ^ 52 * m ≤ n.natAbs → Double.RoundsToWhole n.natAbs m) := by
  have hn := Number.representable_of_equal ha
  have hpositive : (Number.int m).isPositive = true :=
    Number.isPositive_int.2 (by exact_mod_cast hm)
  have hdouble : ∀ i j, ¬(Number.double a = .int i ∧ Number.int m = .int j) := by simp
  refine ⟨?_, fun b hb => ?_, ?_, ?_⟩
  · have hm0 : (m : ℤ) ≠ 0 := by exact_mod_cast hm.ne'
    rw [Number.accepts_iff hr hd hpositive, Number.isMultipleOf, if_neg hm0, Except.ok.injEq,
      beq_iff_eq, Int.dvd_iff_emod_eq_zero]
  · have hrep := Number.representable_of_equal hb
    rw [Int.natAbs_natCast] at hrep
    have hself (i : ℤ) : (Number.int i).equal (.int i) = true :=
      Number.equal_iff.2 ⟨_, rfl, rfl⟩
    refine ⟨?_, ?_, ?_, fun hle => ?_⟩
    · exact Number.accepts_iff_of_equal (by simp) (hself n) hn hr hd hm hb hrep
    · exact Number.accepts_iff_of_equal (by simp) ha hn hr hd hm hb hrep
    · exact Number.accepts_iff_of_equal hdouble ha hn hr hd hm (hself m) hrep
    · rw [Double.roundsToWhole_iff_dvd hm hrep hle, Int.natCast_dvd]
  · obtain ⟨_, _, _, hfinite, -⟩ := Number.toDouble_of_equal ha hn
    rcases Number.toDouble_natCast hm with hlarge | ⟨k, units, hu, hk, hunits, hb, hequal⟩
    · left
      rw [Number.accepts_iff hr hd hpositive,
        Number.isMultipleOf_overflow hdouble hfinite hlarge]
      exact ⟨hlarge, by simp⟩
    · right
      exact ⟨_, k, hb, hk, hequal,
        Number.accepts_iff_roundsToWhole hdouble ha hn hr hd hpositive hk hb hunits⟩
  · rintro (h | h)
    · exact .of_dvd hm (Int.natCast_dvd.1 h)
    · exact .of_large hm h

/-! ### Multiples of three -/

theorem representable_three : Double.Representable (3 * Double.one) := by decide +kernel

theorem representable_six : Double.Representable (6 * Double.one) := by decide +kernel

theorem multiples_by_quotient_six :
    (Number.double (.whole 6 representable_six)).equal (.int 6) = true ∧
      (Number.double (.whole 3 representable_three)).equal (.int 3) = true ∧
      (Number.int 3).Accepts .default (.int 6) ∧
      (Number.int 3).Accepts .default (.double (.whole 6 representable_six)) ∧
      (Number.double (.whole 3 representable_three)).Accepts .default (.int 6) := by
  have hsix := Number.equal_symm (Number.equal_whole 6 representable_six)
  have hthree := Number.equal_symm (Number.equal_whole 3 representable_three)
  have hr : Registry.build Options.default.formats = .ok .builtIn := rfl
  obtain ⟨hints, hdoubles, -, hwhole⟩ :=
    multiples_by_quotient (m := 3) (by decide) hsix hr (by decide)
  obtain ⟨hbyDouble, -, hbyInt, -⟩ := hdoubles _ hthree
  have hdvd : ((3 : ℕ) : ℤ) ∣ 6 := by decide
  have hrounds := hwhole (.inl hdvd)
  exact ⟨hsix, hthree, hints.2 hdvd, hbyInt.2 hrounds, hbyDouble.2 hrounds⟩

theorem representable_large : Double.Representable (2 ^ 60 * Double.one) := by decide +kernel

theorem rounded_quotient_is_whole :
    ∃ a : Double, (Number.double a).equal (.int (2 ^ 60)) = true ∧ ¬(3 : ℤ) ∣ 2 ^ 60 ∧
      ¬(Number.int 3).Accepts .default (.int (2 ^ 60)) ∧
      (Number.int 3).Accepts .default (.double a) := by
  have hr : Registry.build Options.default.formats = .ok .builtIn := rfl
  have hequal : (Number.double (.whole (2 ^ 60) representable_large)).equal (.int (2 ^ 60)) =
      true := by decide +kernel
  have hlarge : Double.Representable ((2 ^ 60 : ℤ).natAbs * Double.one) := by decide +kernel
  have hthree : (Number.int 3).equal (.int (3 : ℕ)) = true := by decide +kernel
  have hpositive : (Number.int 3).isPositive = true := by decide +kernel
  have hint : (Number.int (2 ^ 60)).isMultipleOf (.int 3) = .ok false := rfl
  refine ⟨_, hequal, by decide, ?_, ?_⟩
  · rw [Number.accepts_iff hr (by decide) hpositive, hint]
    simp
  · rw [Number.accepts_iff_of_equal (by simp) hequal hlarge hr (by decide) (by decide) hthree
      representable_three]
    decide +kernel

end JsonSchema
