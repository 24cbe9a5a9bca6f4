/-
  Numbers: integers of any size and doubles, two kinds of one domain.

  * `Number.compare?`: the exact order; nothing compares with not-a-number.
  * `Number.divide`: the rounded quotient, with its two causes of failure.
  * `Number.isMultipleOf`: exact for two integers, otherwise whether the
    rounded quotient is a whole number.
-/
import JsonSchema.Number.Decimal

namespace JsonSchema

/-- A JSON number keeps the kind it was written in. -/
inductive Number where
  | int (n : Int)
  | double (d : Double)
deriving DecidableEq

namespace Number

instance : Coe Nat Number := ⟨fun n => .int n⟩

/-! ## Order -/

/-- A place on the number line, in units of the smallest double. -/
inductive Place where
  | below
  | units (count : Int)
  | above
deriving DecidableEq

/-- Where a number lies; not-a-number lies nowhere. -/
def place? : Number → Option Place
  | .int n => some (.units (n * Double.one))
  | .double .nan => none
  | .double (.infinite negative) => some (if negative then .below else .above)
  | .double (.finite negative units _) =>
    some (.units (if negative then -(units : Int) else units))

/-- The order of places. -/
def Place.compare : Place → Place → Ordering
  | .units a, .units b => Ord.compare a b
  | .below, .below => .eq
  | .below, _ => .lt
  | _, .below => .gt
  | .above, .above => .eq
  | .above, _ => .gt
  | _, .above => .lt

/-- The exact order of two numbers; `none` if one of them is not-a-number. -/
def compare? (a b : Number) : Option Ordering := do
  return Place.compare (← a.place?) (← b.place?)

/-- Numerical equality across kinds. -/
def equal (a b : Number) : Bool := a.compare? b == some .eq

/-- Strictly less. -/
def less (a b : Number) : Bool := a.compare? b == some .lt

/-- Less or equal. -/
def atMost (a b : Number) : Bool := a.less b || a.equal b

/-- A number above zero. -/
def isPositive (a : Number) : Bool := less (.int 0) a

/-! ## Division -/

/-- Why a quotient does not exist. -/
inductive ArithmeticFault where
  | overflow
  | divisionByZero
deriving DecidableEq, Repr

/-- A double that is not beyond the largest. -/
def unlessInfinite : Double → Except ArithmeticFault Double
  | .infinite _ => .error .overflow
  | d => .ok d

/-- The nearest double; an integer beyond the largest double overflows. -/
def toDouble : Number → Except ArithmeticFault Double
  | .double d => .ok d
  | .int n => unlessInfinite (Double.ofInt n)

/-- The quotient of two numbers, each first rounded to a double. -/
def divide (dividend divisor : Number) : Except ArithmeticFault Double := do
  let a ← dividend.toDouble
  let b ← divisor.toDouble
  match a.divide b with
  | some q => .ok q
  | none => .error .divisionByZero

/-- Whether a number is a multiple of a divisor.  A quotient beyond all doubles is none. -/
def isMultipleOf : (value divisor : Number) → Except ArithmeticFault Bool
  | .int v, .int d => if d = 0 then .error .divisionByZero else .ok (v % d == 0)
  | value, divisor => match value.divide divisor with
    | .ok quotient => .ok quotient.isIntegral
    | .error .overflow => .ok false
    | .error .divisionByZero => .error .divisionByZero

/-- The shortest text of a number. -/
def render : Number → String
  | .int n => toString n
  | .double d => d.render

end Number

end JsonSchema
