/-
  JSON values.

  * `Json`: null, booleans, integers of any size, doubles, strings, arrays and
    objects.  Integers and doubles are different kinds of value.
  * `Members`: the members of an object in the order of its text.
  * `Members.insert`: a repeated key keeps the first place and the last value.
  * `Json.UniqueKeys`: no object of a value holds a key twice.
-/
import JsonSchema.Number

namespace JsonSchema

/-- A JSON value. -/
inductive Json where
  | null
  | bool (b : Bool)
  | int (n : Int)
  | double (d : Double)
  | string (s : String)
  | array (items : List Json)
  | object (members : List (String × Json))

instance : Inhabited Json := ⟨.null⟩

/-- The members of an object. -/
abbrev Members := List (String × Json)

namespace Members

/-- The value of a key. -/
def get? (members : Members) (key : String) : Option Json := members.lookup key

/-- A key is present. -/
def has (members : Members) (key : String) : Bool := (members.get? key).isSome

/-- The keys in order. -/
def keys (members : Members) : List String := members.map (·.1)

/-- Sets a key: a new one goes to the end, a known one keeps its place. -/
def insert (members : Members) (key : String) (value : Json) : Members :=
  match members with
  | [] => [(key, value)]
  | (k, v) :: rest => if k = key then (k, value) :: rest else (k, v) :: Members.insert rest key value

end Members

namespace Json

/-- The number that a value is; booleans are none. -/
def number? : Json → Option Number
  | .int n => some (.int n)
  | .double d => some (.double d)
  | _ => none

/-- The text that a value is. -/
def string? : Json → Option String
  | .string s => some s
  | _ => none

/-- The members, if the value is an object. -/
def members? : Json → Option Members
  | .object members => some members
  | _ => none

/-- The texts of an array that holds nothing else. -/
def strings? : Json → Option (List String)
  | .array items => items.mapM string?
  | _ => none

/-- The value `true` itself. -/
def isTrue : Json → Bool
  | .bool b => b
  | _ => false

/-! ## Keys -/

mutual

/-- No object inside the value, itself included, holds a key twice. -/
def UniqueKeys : Json → Prop
  | .array items => UniqueKeysItems items
  | .object members => (Members.keys members).Nodup ∧ UniqueKeysMembers members
  | _ => True
termination_by structural v => v

/-- The condition on each item of an array. -/
def UniqueKeysItems : List Json → Prop
  | [] => True
  | item :: rest => item.UniqueKeys ∧ UniqueKeysItems rest
termination_by structural items => items

/-- The condition on each member of an object. -/
def UniqueKeysMembers : List (String × Json) → Prop
  | [] => True
  | (_, value) :: rest => value.UniqueKeys ∧ UniqueKeysMembers rest
termination_by structural members => members

end

/-! ## Depth -/

mutual

/-- How deeply values are nested: none for scalars and empty containers. -/
def depth : Json → Nat
  | .array items => depthItems items
  | .object members => depthMembers members
  | _ => 0
termination_by structural v => v

/-- The depth of an array with the given items. -/
def depthItems : List Json → Nat
  | [] => 0
  | item :: rest => max (item.depth + 1) (depthItems rest)
termination_by structural items => items

/-- The depth of an object with the given members. -/
def depthMembers : List (String × Json) → Nat
  | [] => 0
  | (_, value) :: rest => max (value.depth + 1) (depthMembers rest)
termination_by structural members => members

end

end Json

end JsonSchema
