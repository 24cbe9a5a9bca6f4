/-
  Doubles: the 64-bit binary floating-point numbers of JSON text, exactly.

  * `Double`: not-a-number, the two infinities, and the finite values, each a
    sign and a count of units of `2 ^ -1074` (the distance between the two
    smallest doubles).  Counting units makes comparison with an integer a
    comparison of integers.
  * `Representable`: the counts that a double can hold, that is those with at
    most 53 significant bits below the overflow threshold.
  * `Double.ofRatio`: the double nearest to a quotient of natural numbers, of
    two equally near ones the one with the even last bit.
  * `Double.divide`: the rounded quotient of two doubles.
-/

namespace JsonSchema

/-- A power of two. -/
def powerOfTwo (exponent : Nat) : Nat := Nat.pow 2 exponent

/-- How many units of the smallest double make up one. -/
def Double.one : Nat := powerOfTwo 1074

/-- The first magnitude, in units, that is too large for a double. -/
def Double.threshold : Nat := powerOfTwo 2098

/-- The place value of the last of the 53 significant bits of a magnitude, in units. -/
def Double.lastPlace (units : Nat) : Nat := powerOfTwo (units.log2 - 52)

/-- A magnitude in units that some double has. -/
def Double.Representable (units : Nat) : Prop :=
  units < Double.threshold ∧ units % Double.lastPlace units = 0

instance (units : Nat) : Decidable (Double.Representable units) :=
  inferInstanceAs (Decidable (_ ∧ _))

/-- A double.  Zero has a sign; there is one not-a-number. -/
inductive Double where
  | nan
  | infinite (negative : Bool)
  | finite (negative : Bool) (units : Nat) (representable : Double.Representable units)
deriving DecidableEq

namespace Double

/-- The double of a magnitude on the grid; what lies beyond the threshold is infinite. -/
def ofUnits (negative : Bool) (units : Nat) : Double :=
  if h : Representable units then .finite negative units h else .infinite negative

/-- `numerator / denominator` rounded to a whole number, a half to the even neighbour. -/
def roundHalfEven (numerator denominator : Nat) : Nat :=
  let quotient := numerator / denominator
  let twice := 2 * (numerator % denominator)
  if twice < denominator then quotient
  else if denominator < twice then quotient + 1
  else quotient + quotient % 2

/-- The double nearest to `numerator / denominator`.  The exact quotient in units fixes the
last place that is kept, and rounding is to a multiple of that place. -/
def ofRatio (negative : Bool) (numerator denominator : Nat) : Double :=
  let scaled := numerator * one
  let place := lastPlace (scaled / denominator)
  ofUnits negative (roundHalfEven scaled (denominator * place) * place)

/-- The double nearest to an integer, infinite beyond the threshold. -/
def ofInt (n : Int) : Double := ofRatio (n < 0) n.natAbs 1

/-- A finite value without a fractional part. -/
def isIntegral : Double → Bool
  | .finite _ units _ => units % one == 0
  | _ => false

/-- The sign, also of zero and infinity. -/
def isNegative : Double → Bool
  | .nan => false
  | .infinite negative => negative
  | .finite negative _ _ => negative

/-- The rounded quotient by a divisor that is not zero; `none` for a zero divisor. -/
def divide (dividend divisor : Double) : Option Double :=
  let negative := dividend.isNegative != divisor.isNegative
  match dividend, divisor with
  | _, .finite _ 0 _ => none
  | .nan, _ => some .nan
  | _, .nan => some .nan
  | .infinite _, .infinite _ => some .nan
  | .infinite _, .finite .. => some (.infinite negative)
  | .finite .., .infinite _ => some (ofUnits negative 0)
  | .finite _ a _, .finite _ b _ => some (ofRatio negative a b)

end Double

end JsonSchema
