/-
  When the rounded quotient of two doubles is a whole number.

  * `distanceToMultiple`: how far a number is from the nearest multiple of
    another.
  * `Double.roundHalfEven_near`, `Double.roundHalfEven_eq_of_even`: rounding is
    to a nearest whole number, and of two to the even one.
  * `Double.RoundsToWhole`: the distance makes no more than half a last place of
    the quotient.
  * `Double.isIntegral_ofRatio`: just then the rounded quotient is whole.
  * `Double.ofInt_eq_finite`: an integer that has a double becomes it.
  * `Double.roundsToWhole_iff_dvd`: up to `2 ^ 53`, only multiples round to a
    whole number.
-/
import JsonSchema.Proofs.Division
import Mathlib.Algebra.Ring.Parity
import Mathlib.Data.Nat.Log
import Mathlib.Data.Nat.Prime.Basic

namespace JsonSchema

/-! ## Nearest multiples -/

/-- The distance from a number to the nearest multiple of another. -/
def distanceToMultiple (n m : ℕ) : ℕ := min (n % m) (m - n % m)

section
variable {n m : ℕ}

theorem two_mul_distanceToMultiple_le (hm : 0 < m) : 2 * distanceToMultiple n m ≤ m := by
  have hr := Nat.mod_lt n hm
  unfold distanceToMultiple
  omega

theorem distanceToMultiple_eq_zero_iff (hm : 0 < m) : distanceToMultiple n m = 0 ↔ m ∣ n := by
  have hr := Nat.mod_lt n hm
  rw [Nat.dvd_iff_mod_eq_zero, distanceToMultiple]
  omega

theorem distanceToMultiple_mul (n m c : ℕ) :
    distanceToMultiple (n * c) (m * c) = distanceToMultiple n m * c := by
  unfold distanceToMultiple
  rw [Nat.mul_mod_mul_right, ← Nat.sub_mul, Nat.mul_min_mul_right]

/-- No multiple is nearer. -/
theorem distanceToMultiple_le (hm : 0 < m) {k t : ℕ} (hlow : n ≤ k * m + t)
    (hhigh : k * m ≤ n + t) : distanceToMultiple n m ≤ t := by
  have hn := Nat.div_add_mod' n m
  have hr := Nat.mod_lt n hm
  unfold distanceToMultiple
  rcases Nat.lt_or_ge (n / m) k with hk | hk
  · have hmul := Nat.mul_le_mul_right m (Nat.succ_le_of_lt hk)
    rw [Nat.succ_mul] at hmul
    omega
  · have hmul := Nat.mul_le_mul_right m hk
    omega

/-- Some multiple is that near. -/
theorem exists_distanceToMultiple (hm : 0 < m) :
    ∃ k, n ≤ k * m + distanceToMultiple n m ∧ k * m ≤ n + distanceToMultiple n m := by
  have hn := Nat.div_add_mod' n m
  have hr := Nat.mod_lt n hm
  unfold distanceToMultiple
  rcases Nat.le_total (n % m) (m - n % m) with h | h
  · exact ⟨n / m, by omega, by omega⟩
  · refine ⟨n / m + 1, ?_, ?_⟩ <;> rw [Nat.succ_mul] <;> omega

end

theorem powerOfTwo_dvd {i j : ℕ} (h : i ≤ j) : powerOfTwo i ∣ powerOfTwo j := Nat.pow_dvd_pow 2 h

/-- A power of two is an even multiple of all smaller ones. -/
theorem exists_even_mul_powerOfTwo {i j : ℕ} (h : i < j) :
    ∃ t, Even t ∧ 0 < t ∧ powerOfTwo j = t * powerOfTwo i := by
  refine ⟨2 ^ (j - i), even_two.pow_of_ne_zero (by omega), Nat.two_pow_pos _, ?_⟩
  change 2 ^ j = 2 ^ (j - i) * 2 ^ i
  rw [← Nat.pow_add, Nat.sub_add_cancel h.le]

namespace Double

/-! ## Rounding a half to even -/

section
variable {n d q : ℕ}

/-- Rounding is to a nearest whole number. -/
theorem roundHalfEven_near (hd : 0 < d) :
    2 * n ≤ 2 * (roundHalfEven n d * d) + d ∧ 2 * (roundHalfEven n d * d) ≤ 2 * n + d := by
  have hn := Nat.div_add_mod' n d
  have hr := Nat.mod_lt n hd
  unfold roundHalfEven
  dsimp only
  split_ifs with h h'
  · omega
  · rw [Nat.succ_mul (n / d)]
    omega
  · have htie : 2 * (n % d) = d := by omega
    rcases Nat.mod_two_eq_zero_or_one (n / d) with he | ho
    · rw [he, Nat.add_zero]
      omega
    · rw [ho, Nat.succ_mul (n / d)]
      omega

/-- Rounding does not pass a whole number. -/
theorem roundHalfEven_le (hd : 0 < d) (h : n ≤ q * d) : roundHalfEven n d ≤ q := by
  by_contra! hq
  have hmul := Nat.mul_le_mul_right d (Nat.succ_le_of_lt hq)
  rw [Nat.succ_mul] at hmul
  have hnear := (roundHalfEven_near (n := n) hd).2
  omega

/-- Rounding is to the even one of the nearest whole numbers. -/
theorem roundHalfEven_eq_of_even (hd : 0 < d) (hq : Even q) (hlow : 2 * n ≤ 2 * (q * d) + d)
    (hhigh : 2 * (q * d) ≤ 2 * n + d) : roundHalfEven n d = q := by
  have hn := Nat.div_add_mod' n d
  have hr := Nat.mod_lt n hd
  have heven := Nat.even_iff.1 hq
  -- the floor is the number itself or the one before it
  have hle : n / d ≤ q := by
    by_contra! h
    have hmul := Nat.mul_le_mul_right d (Nat.succ_le_of_lt h)
    rw [Nat.succ_mul] at hmul
    omega
  have hge : q ≤ n / d + 1 := by
    by_contra! h
    have hmul := Nat.mul_le_mul_right d (Nat.succ_le_of_lt h)
    rw [Nat.succ_mul, Nat.succ_mul] at hmul
    omega
  unfold roundHalfEven
  dsimp only
  rcases hge.eq_or_lt with rfl | hlt
  · rw [Nat.succ_mul (n / d)] at hlow hhigh
    split_ifs <;> omega
  · obtain rfl : n / d = q := by omega
    split_ifs <;> omega

theorem roundHalfEven_mul (hd : 0 < d) (q : ℕ) : roundHalfEven (q * d) d = q := by
  unfold roundHalfEven
  dsimp only
  rw [Nat.mul_mod_left, Nat.mul_div_cancel _ hd, if_pos (by omega)]

/-- An even number divides what is rounded if a multiple of it is among the nearest. -/
theorem dvd_roundHalfEven_iff (hd : 0 < d) {t : ℕ} (ht : Even t) (htpos : 0 < t) :
    t ∣ roundHalfEven n d ↔ 2 * distanceToMultiple n (t * d) ≤ d := by
  have htd := Nat.mul_pos htpos hd
  constructor
  · rintro ⟨k, hk⟩
    obtain ⟨hlow, hhigh⟩ := roundHalfEven_near (n := n) hd
    rw [hk, show t * k * d = k * (t * d) by ac_rfl] at hlow hhigh
    have hle : distanceToMultiple n (t * d) ≤ d / 2 :=
      distanceToMultiple_le htd (k := k) (by omega) (by omega)
    omega
  · intro h
    obtain ⟨k, hlow, hhigh⟩ := exists_distanceToMultiple (n := n) htd
    rw [show k * (t * d) = k * t * d by ac_rfl] at hlow hhigh
    rw [roundHalfEven_eq_of_even hd (ht.mul_left k) (by omega) (by omega)]
    exact Nat.dvd_mul_left t k

end

/-! ## Last places -/

section
variable {u v : ℕ}

theorem log2_le_log2 (h : u ≤ v) : u.log2 ≤ v.log2 := by
  rw [Nat.log2_eq_log_two, Nat.log2_eq_log_two]
  exact Nat.log_mono_right h

theorem le_log2_of_powerOfTwo_le {exponent : ℕ} (h : powerOfTwo exponent ≤ u) :
    exponent ≤ u.log2 :=
  (Nat.le_log2 ((powerOfTwo_pos exponent).trans_le h).ne').2 h

theorem lastPlace_dvd_lastPlace (h : u ≤ v) : lastPlace u ∣ lastPlace v :=
  powerOfTwo_dvd (Nat.sub_le_sub_right (log2_le_log2 h) 52)

theorem Representable.dvd (h : Representable u) : lastPlace u ∣ u := Nat.dvd_of_mod_eq_zero h.2

/-- The last place makes a part of `2 ^ 52` of a magnitude, unless it is the least one. -/
theorem lastPlace_le_or (u : ℕ) : lastPlace u = 1 ∨ 2 ^ 52 * lastPlace u ≤ u := by
  rcases Nat.le_total u.log2 52 with h | h
  · left
    rw [lastPlace, Nat.sub_eq_zero_of_le h]
    rfl
  · right
    have hu : u ≠ 0 := by
      rintro rfl
      exact absurd h (by decide)
    calc 2 ^ 52 * 2 ^ (u.log2 - 52)
      _ = 2 ^ u.log2 := by rw [← Nat.pow_add, Nat.add_sub_cancel' h]
      _ ≤ u := Nat.log2_self_le hu

/-- A last place is a multiple of one, or one is an even multiple of it. -/
theorem one_dvd_lastPlace_or (u : ℕ) :
    one ∣ lastPlace u ∨ ∃ t, Even t ∧ 0 < t ∧ one = t * lastPlace u := by
  rcases Nat.lt_or_ge (u.log2 - 52) 1074 with h | h
  · exact .inr (exists_even_mul_powerOfTwo h)
  · exact .inl (powerOfTwo_dvd h)

end

/-! ## Rounded quotients -/

/-- A quotient rounded to the grid of doubles. -/
def roundedQuotient (n d : ℕ) : ℕ := roundHalfEven n (d * lastPlace (n / d)) * lastPlace (n / d)

section
variable {n d t units : ℕ} (hd : 0 < d)

include hd

theorem roundedQuotient_le (hdvd : lastPlace (n / d) ∣ units) (h : n ≤ units * d) :
    roundedQuotient n d ≤ units := by
  have hp := lastPlace_pos (n / d)
  obtain ⟨q, rfl⟩ := hdvd
  have hn : n ≤ q * (d * lastPlace (n / d)) := by
    rwa [Nat.mul_comm (lastPlace _), Nat.mul_assoc, Nat.mul_comm (lastPlace _)] at h
  rw [Nat.mul_comm _ q]
  exact Nat.mul_le_mul_right _ (roundHalfEven_le (Nat.mul_pos hd hp) hn)

/-- Rounding does not leave the grid. -/
theorem lastPlace_dvd_roundedQuotient : lastPlace (roundedQuotient n d) ∣ roundedQuotient n d := by
  -- the next power of two is not passed
  have hlt : n / d < powerOfTwo ((n / d).log2 + 1) := Nat.lt_log2_self
  have hn : n ≤ powerOfTwo ((n / d).log2 + 1) * d :=
    calc n
      _ ≤ d * (n / d + 1) := (Nat.lt_mul_div_succ _ hd).le
      _ ≤ d * powerOfTwo ((n / d).log2 + 1) := Nat.mul_le_mul_left d hlt
      _ = powerOfTwo ((n / d).log2 + 1) * d := Nat.mul_comm _ _
  rcases (roundedQuotient_le hd (powerOfTwo_dvd (by omega)) hn).eq_or_lt with heq | hlt
  · rw [heq, lastPlace, show (powerOfTwo ((n / d).log2 + 1)).log2 = _ from Nat.log2_two_pow]
    exact powerOfTwo_dvd (Nat.sub_le _ _)
  · refine Dvd.dvd.trans ?_ (Nat.dvd_mul_left (lastPlace (n / d)) _)
    rcases Nat.eq_zero_or_pos (roundedQuotient n d) with h0 | hpos
    · rw [h0]
      exact powerOfTwo_dvd (Nat.zero_le _)
    · have hlog := (Nat.log2_lt hpos.ne').2 hlt
      exact powerOfTwo_dvd (by omega)

/-- A quotient within the doubles is rounded to a double. -/
theorem representable_roundedQuotient (hunits : Representable units) (h : n ≤ units * d) :
    Representable (roundedQuotient n d) := by
  have hdiv : n / d ≤ units := Nat.div_le_of_le_mul (by rwa [Nat.mul_comm])
  have hle := roundedQuotient_le hd ((lastPlace_dvd_lastPlace hdiv).trans hunits.dvd) h
  exact ⟨hle.trans_lt hunits.1, Nat.mod_eq_zero_of_dvd (lastPlace_dvd_roundedQuotient hd)⟩

/-- The rounded quotient is a multiple of one just if the dividend is close enough to a multiple
of the divisor. -/
theorem one_dvd_roundedQuotient_iff : one ∣ roundedQuotient n d ↔
    2 * distanceToMultiple n (d * one) ≤ d * lastPlace (n / d) := by
  have hp := lastPlace_pos (n / d)
  rcases one_dvd_lastPlace_or (n / d) with hone | ⟨t, ht, htpos, hone⟩
  · -- there is no place for a fractional part
    refine iff_of_true (hone.trans (Nat.dvd_mul_left _ _)) ?_
    calc 2 * distanceToMultiple n (d * one)
      _ ≤ d * one := two_mul_distanceToMultiple_le (Nat.mul_pos hd one_pos)
      _ ≤ d * lastPlace (n / d) := Nat.mul_le_mul_left d (Nat.le_of_dvd hp hone)
  · have hstep : t * (d * lastPlace (n / d)) = d * one := by rw [hone, Nat.mul_left_comm]
    calc one ∣ roundedQuotient n d
      _ ↔ t * lastPlace (n / d) ∣ roundedQuotient n d := by rw [← hone]
      _ ↔ t ∣ roundHalfEven n (d * lastPlace (n / d)) := Nat.mul_dvd_mul_iff_right hp
      _ ↔ 2 * distanceToMultiple n (d * one) ≤ d * lastPlace (n / d) := by
        rw [dvd_roundHalfEven_iff (Nat.mul_pos hd hp) ht htpos, hstep]

end

/-! ## Quotients of doubles -/

/-- The distance of the dividend to the nearest multiple of the divisor makes no more than half a
last place of the quotient. -/
def RoundsToWhole (a b : ℕ) : Prop :=
  2 * (distanceToMultiple a b * one) ≤ b * lastPlace (a * one / b)

instance (a b : ℕ) : Decidable (RoundsToWhole a b) := inferInstanceAs (Decidable (_ ≤ _))

section
variable {a b c units : ℕ}

theorem RoundsToWhole.of_dvd (hb : 0 < b) (h : b ∣ a) : RoundsToWhole a b := by
  rw [RoundsToWhole, (distanceToMultiple_eq_zero_iff hb).2 h, Nat.zero_mul, Nat.mul_zero]
  exact Nat.zero_le _

/-- A quotient from `2 ^ 52` on has no place for a fractional part. -/
theorem RoundsToWhole.of_large (hb : 0 < b) (h : 2 ^ 52 * b ≤ a) : RoundsToWhole a b := by
  have hplace : one ≤ lastPlace (a * one / b) := by
    have hquotient : 2 ^ 52 * one ≤ a * one / b := by
      rw [Nat.le_div_iff_mul_le hb, Nat.mul_right_comm]
      exact Nat.mul_le_mul_right one h
    have hpower : 2 ^ 52 * one = powerOfTwo 1126 := by decide +kernel
    rw [hpower] at hquotient
    have hlog := le_log2_of_powerOfTwo_le hquotient
    exact Nat.le_of_dvd (lastPlace_pos _) (powerOfTwo_dvd (by omega))
  calc 2 * (distanceToMultiple a b * one)
    _ = 2 * distanceToMultiple a b * one := (Nat.mul_assoc _ _ _).symm
    _ ≤ b * one := Nat.mul_le_mul_right one (two_mul_distanceToMultiple_le hb)
    _ ≤ b * lastPlace (a * one / b) := Nat.mul_le_mul_left b hplace

/-- Only the ratio counts. -/
theorem roundsToWhole_mul (hc : 0 < c) : RoundsToWhole (a * c) (b * c) ↔ RoundsToWhole a b := by
  unfold RoundsToWhole
  generalize one = one
  rw [distanceToMultiple_mul, Nat.mul_right_comm a, Nat.mul_div_mul_right _ _ hc,
    Nat.mul_right_comm _ c, ← Nat.mul_assoc 2, Nat.mul_right_comm b]
  exact Nat.mul_le_mul_right_iff hc

theorem ofUnits_eq_finite (h : Representable units) (negative : Bool) :
    ofUnits negative units = .finite negative units h := dif_pos h

theorem ofRatio_eq_ofUnits (negative : Bool) (a b : ℕ) :
    ofRatio negative a b = ofUnits negative (roundedQuotient (a * one) b) := rfl

/-- **The rounded quotient is whole just if the dividend is close enough to a multiple.** -/
theorem isIntegral_ofRatio (hb : 0 < b) (hunits : Representable units) (h : a * one ≤ units * b)
    (negative : Bool) : (ofRatio negative a b).isIntegral = true ↔ RoundsToWhole a b := by
  have hr := representable_roundedQuotient hb hunits h
  rw [ofRatio_eq_ofUnits, ofUnits_eq_finite hr, isIntegral, beq_iff_eq,
    ← Nat.dvd_iff_mod_eq_zero, one_dvd_roundedQuotient_iff hb, distanceToMultiple_mul,
    RoundsToWhole]

end

/-! ## Integers -/

section
variable {n m : ℕ}

/-- A double is not as large as there are units in one. -/
theorem Representable.lt_one (h : Representable (m * one)) : m < one := by
  have hthreshold : threshold = powerOfTwo 1024 * one := by decide +kernel
  have hlt : m * one < powerOfTwo 1024 * one := h.1.trans_eq hthreshold
  have hdvd : powerOfTwo 1024 ∣ one := powerOfTwo_dvd (by decide)
  exact (Nat.lt_of_mul_lt_mul_right hlt).trans_le (Nat.le_of_dvd one_pos hdvd)

/-- The distance from `2 ^ 53` to the nearest multiple of a power of two is not one. -/
theorem distanceToMultiple_ne_one {place exponent : ℕ} (h : m * place = powerOfTwo exponent) :
    distanceToMultiple (2 ^ 53) m ≠ 1 := by
  intro hdist
  have hmpos : 0 < m := by
    refine Nat.pos_of_ne_zero ?_
    rintro rfl
    rw [Nat.zero_mul] at h
    exact (powerOfTwo_pos exponent).ne h
  rcases Nat.even_or_odd m with heven | hodd
  · have hmod := Nat.mod_mod_of_dvd (2 ^ 53) heven.two_dvd
    have hm := Nat.even_iff.1 heven
    unfold distanceToMultiple at hdist
    omega
  · -- one is the only odd divisor of a power of two
    have hcoprime : m.Coprime (2 ^ exponent) :=
      Nat.Coprime.pow_right exponent (Nat.coprime_two_right.2 hodd)
    obtain rfl : m = 1 := hcoprime.eq_one_of_dvd ⟨place, h.symm⟩
    have hle := two_mul_distanceToMultiple_le (n := 2 ^ 53) Nat.one_pos
    omega

/-- **Up to `2 ^ 53`, nothing but multiples round to a whole number.** -/
theorem roundsToWhole_iff_dvd (hm : 0 < m) (hrep : Representable (m * one)) (hn : n ≤ 2 ^ 53) :
    RoundsToWhole n m ↔ m ∣ n := by
  refine ⟨fun h => ?_, RoundsToWhole.of_dvd hm⟩
  rw [← distanceToMultiple_eq_zero_iff hm]
  by_contra hdist
  have hone := one_pos
  have hlt := hrep.lt_one
  rw [RoundsToWhole] at h
  have hdistOne : one ≤ distanceToMultiple n m * one :=
    Nat.le_mul_of_pos_left one (Nat.pos_of_ne_zero hdist)
  rcases lastPlace_le_or (n * one / m) with hplace | hplace
  · -- a quotient of the least last place is too small
    rw [hplace, Nat.mul_one] at h
    omega
  · -- of what is allowed, the distance makes all or nothing
    have hscaled : 2 ^ 52 * (m * lastPlace (n * one / m)) ≤ n * one :=
      calc 2 ^ 52 * (m * lastPlace (n * one / m))
        _ = 2 ^ 52 * lastPlace (n * one / m) * m := by rw [Nat.mul_comm m, Nat.mul_assoc]
        _ ≤ n * one / m * m := Nat.mul_le_mul_right m hplace
        _ ≤ n * one := Nat.div_mul_le_self _ _
    have hnone : n * one ≤ 2 ^ 53 * one := Nat.mul_le_mul_right one hn
    have hall : m * lastPlace (n * one / m) = 2 * one := by omega
    have hn' : n = 2 ^ 53 := Nat.eq_of_mul_eq_mul_right hone (by omega)
    have hdist' : distanceToMultiple n m = 1 :=
      Nat.eq_of_mul_eq_mul_right hone (by omega)
    have htwo : 2 * one = powerOfTwo 1075 := by decide +kernel
    rw [hn'] at hdist'
    exact distanceToMultiple_ne_one (hall.trans htwo) hdist'

theorem roundedQuotient_one (h : lastPlace n ∣ n) : roundedQuotient n 1 = n := by
  obtain ⟨q, hq⟩ := h
  have hrounded : roundHalfEven n (lastPlace n) = q := by
    have hmul := roundHalfEven_mul (lastPlace_pos n) q
    rwa [Nat.mul_comm, ← hq] at hmul
  rw [roundedQuotient, Nat.div_one, Nat.one_mul, hrounded, Nat.mul_comm, ← hq]

end

/-- An integer that is equal to a double keeps its units. -/
theorem ofInt_eq_ofUnits {n : ℤ} (h : Representable (n.natAbs * one)) :
    ofInt n = ofUnits (n < 0) (n.natAbs * one) := by
  rw [ofInt, ofRatio_eq_ofUnits, roundedQuotient_one h.dvd]

/-- An integer becomes an integral double, or it is too large. -/
theorem ofInt_eq (n : ℤ) : (∃ negative, ofInt n = .infinite negative) ∨
    ∃ units hr, ofInt n = .finite (n < 0) units hr ∧ one ∣ units := by
  have hdvd : one ∣ roundedQuotient (n.natAbs * one) 1 := by
    rw [one_dvd_roundedQuotient_iff Nat.one_pos, Nat.one_mul, Nat.one_mul,
      (distanceToMultiple_eq_zero_iff one_pos).2 (Nat.dvd_mul_left _ _)]
    exact Nat.zero_le _
  rw [ofInt, ofRatio_eq_ofUnits]
  by_cases hr : Representable (roundedQuotient (n.natAbs * one) 1)
  · exact .inr ⟨_, hr, ofUnits_eq_finite hr _, hdvd⟩
  · exact .inl ⟨_, dif_neg hr⟩

end Double

end JsonSchema
