/-
  Equality of JSON values.

  * `Json.equal`: numbers by value across kinds, with `true` and `false`
    standing for one and zero; arrays item by item; objects key by key, in any
    order.  Not-a-number equals nothing.
  * `Json.identical`: the same, but not-a-number equals itself.
  * `uniqueItems`: no two items of a list are equal.
-/
import JsonSchema.Json

namespace JsonSchema

/-- Numerical equality under which not-a-number equals itself. -/
def Number.identical (a b : Number) : Bool :=
  a.equal b || (a == .double .nan && b == .double .nan)

namespace Json

/-- The number that a value counts as in comparisons. -/
def quantity? : Json → Option Number
  | .bool b => some (.int (if b then 1 else 0))
  | v => v.number?

/-- Equality of values that are neither arrays nor objects. -/
def equalScalars (numbers : Number → Number → Bool) (a b : Json) : Bool :=
  match a, b with
  | .null, .null => true
  | .string s, .string t => s == t
  | a, b => match a.quantity?, b.quantity? with
    | some x, some y => numbers x y
    | _, _ => false

mutual

/-- Equality of values under an equality of numbers. -/
def equalBy (numbers : Number → Number → Bool) : Json → Json → Bool
  | .array a, .array b => equalItems numbers a b
  | .object a, .object b => a.length == b.length && equalMembers numbers a b
  | a, b => equalScalars numbers a b
termination_by structural a => a

/-- Items equal one by one. -/
def equalItems (numbers : Number → Number → Bool) : List Json → List Json → Bool
  | [], [] => true
  | a :: as, b :: bs => equalBy numbers a b && equalItems numbers as bs
  | _, _ => false
termination_by structural as => as

/-- Every member has a partner of its key among the others, with an equal value. -/
def equalMembers (numbers : Number → Number → Bool) :
    List (String × Json) → List (String × Json) → Bool
  | [], _ => true
  | (key, a) :: rest, others =>
    (match Members.get? others key with
      | some b => equalBy numbers a b
      | none => false) && equalMembers numbers rest others
termination_by structural members => members

end

/-- Equality of values, under which not-a-number equals nothing. -/
def equal (a b : Json) : Bool := equalBy Number.equal a b

/-- Equality of values, under which not-a-number equals itself. -/
def identical (a b : Json) : Bool := equalBy Number.identical a b

end Json

/-- No two items of a list are equal. -/
def uniqueItems : List Json → Bool
  | [] => true
  | item :: rest => rest.all (fun other => !item.equal other) && uniqueItems rest

end JsonSchema
