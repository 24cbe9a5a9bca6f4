/-
  Decimal text of doubles.

  * `Double.ofDecimal`: the double nearest to `digits * 10 ^ exponent`.
  * `Double.shortest`: the fewest significant digits that read back to the
    same double, and of those the nearest.
  * `Layout`, `Double.render`: where positional notation ends and how an
    exponent is written.
-/
import JsonSchema.Number.Double

namespace JsonSchema

/-- The decimal digits of a natural number, most significant first. -/
def decimalDigits (n : Nat) : List Char := Nat.toDigits 10 n

/-- A power of ten. -/
def powerOfTen (exponent : Nat) : Nat := Nat.pow 10 exponent

namespace Double

/-! ## Reading -/

/-- Beyond this power of ten every non-zero decimal overflows or vanishes. -/
def exponentBound : Int := 400

/-- The double nearest to `digits * 10 ^ exponent`. -/
def ofDecimal (negative : Bool) (digits : Nat) (exponent : Int) : Double :=
  if digits = 0 then ofUnits negative 0
  else
    let magnitude := (decimalDigits digits).length + exponent
    if magnitude > exponentBound then .infinite negative
    else if magnitude < -exponentBound then ofUnits negative 0
    else match exponent with
      | .ofNat e => ofRatio negative (digits * powerOfTen e) 1
      | .negSucc e => ofRatio negative digits (powerOfTen (e + 1))

/-! ## The fewest digits -/

/-- A decimal `digits * 10 ^ exponent`. -/
structure Decimal where
  digits : Nat
  exponent : Int
deriving DecidableEq

/-- The same decimal without trailing zeros; `fuel` bounds how many are dropped. -/
def Decimal.strip (fuel : Nat) (d : Decimal) : Decimal :=
  match fuel with
  | 0 => d
  | fuel + 1 => if d.digits % 10 = 0 then Decimal.strip fuel ⟨d.digits / 10, d.exponent + 1⟩ else d

/-- Four times the bounds of the interval of reals that round to a magnitude, in units, and
whether the bounds belong to it.  Below a power of two the neighbour is half as far away. -/
def roundingInterval (units : Nat) : Nat × Nat × Bool :=
  let place := lastPlace units
  let below := if units = powerOfTwo 52 * place ∧ 1 < place then place else 2 * place
  (4 * units - below, 4 * units + 2 * place, units / place % 2 == 0)

/-- The greatest `k` with `10 ^ k` at most the given positive number of units. -/
def decimalExponent (units : Nat) : Int :=
  if one ≤ units then (decimalDigits (units / one)).length - 1
  else (decimalDigits (units * powerOfTen 400 / one)).length - 401

/-- `x` units, as the fraction of `10 ^ k` it makes up: numerator and denominator. -/
def inPowersOfTen (x : Nat) (k : Int) : Nat × Nat :=
  match k with
  | .ofNat e => (x, one * powerOfTen e)
  | .negSucc e => (x * powerOfTen (e + 1), one)

/-- Of the two neighbours of a magnitude on the grid of `10 ^ k`, the one that lies in the
rounding interval; of two the nearer, and of two equally near ones the even one. -/
def neighbour? (units : Nat) (k : Int) : Option Decimal :=
  let (low, high, closed) := roundingInterval units
  let (value, place) := inPowersOfTen (4 * units) k
  let (lower, _) := inPowersOfTen low k
  let (upper, _) := inPowersOfTen high k
  let place := 4 * place
  let floor := value / place
  let inside (c : Nat) : Bool :=
    let x := c * place
    if closed then lower ≤ x && x ≤ upper else lower < x && x < upper
  match inside floor, inside (floor + 1) with
  | true, true =>
    let twice := 2 * (value - floor * place)
    some ⟨if twice < place ∨ (twice = place ∧ floor % 2 = 0) then floor else floor + 1, k⟩
  | true, false => some ⟨floor, k⟩
  | false, true => some ⟨floor + 1, k⟩
  | false, false => none

/-- The fewest digits that read back, trying one digit, two digits and so on up to 17, which
always suffice. -/
def shortest (units : Nat) : Decimal :=
  if units = 0 then ⟨0, 0⟩
  else
    let top := decimalExponent units
    let found := (List.range 17).findSome? fun n : Nat => neighbour? units (top - n)
    (found.getD ⟨0, 0⟩).strip 20

/-! ## Layout -/

/-- How a decimal is laid out: from `positionalFrom` up to `positionalBelow`, as powers of ten,
in positional notation, otherwise with an exponent of at least `exponentWidth` digits. -/
structure Layout where
  positionalFrom : Int
  positionalBelow : Int
  exponentWidth : Nat

/-- Doubles keep a fractional part in positional notation, which reaches from `0.0001` up to
sixteen digits; exponents are signed and have two digits or more. -/
def layout : Layout := ⟨-4, 16, 2⟩

/-- Digits padded on the left with zeros to a width. -/
def padLeft (width : Nat) (digits : List Char) : List Char :=
  List.replicate (width - digits.length) '0' ++ digits

/-- A decimal in positional notation, with at least one digit after the point. -/
def positional (d : Decimal) : List Char :=
  let digits := decimalDigits d.digits
  match d.exponent with
  | .ofNat e => digits ++ List.replicate e '0' ++ ['.', '0']
  | .negSucc e =>
    let digits := padLeft (e + 2) digits
    digits.take (digits.length - (e + 1)) ++ '.' :: digits.drop (digits.length - (e + 1))

/-- A decimal as one digit, the other digits after a point, and a power of ten. -/
def scientific (l : Layout) (d : Decimal) (power : Int) : List Char :=
  let fraction := match decimalDigits d.digits with
    | [] => []
    | [first] => [first]
    | first :: rest => first :: '.' :: rest
  let sign := if power < 0 then '-' else '+'
  fraction ++ 'e' :: sign :: padLeft l.exponentWidth (decimalDigits power.natAbs)

/-- A decimal under a layout. -/
def Decimal.render (l : Layout) (d : Decimal) : List Char :=
  let power := d.exponent + (decimalDigits d.digits).length - 1
  if d.digits = 0 ∨ (l.positionalFrom ≤ power ∧ power < l.positionalBelow) then positional d
  else scientific l d power

/-- The shortest text that reads back to the double. -/
def render : Double → String
  | .nan => "nan"
  | .infinite negative => if negative then "-inf" else "inf"
  | .finite negative units _ =>
    let text := (shortest units).render layout
    String.ofList (if negative then '-' :: text else text)

end Double

end JsonSchema
