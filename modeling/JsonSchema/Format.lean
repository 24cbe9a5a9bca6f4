/-
  Formats: named checks on values.

  * `Checker`: a check; values of a type that it does not describe pass.
  * `Registry`: the checks by name; `Registry.builtIn` knows IPv4 and IPv6.
  * `Registry.build`: other checks on top, which replace those of their name.
    A name that is given without a check is refused.
-/
import JsonSchema.Json
import JsonSchema.Format.Ipv4
import JsonSchema.Format.Ipv6

namespace JsonSchema

/-- A check on values. -/
abbrev Checker := Json → Bool

/-- A check on texts; any other value passes. -/
def Checker.ofText (accepts : String → Bool) : Checker
  | .string s => accepts s
  | _ => true

/-- Checks by name, in order. -/
abbrev Registry := List (String × Checker)

namespace Registry

/-- The checks that are always known. -/
def builtIn : Registry :=
  [("ipv4", Checker.ofText Ipv4.accepts), ("ipv6", Checker.ofText Ipv6.accepts)]

/-- The check of a name. -/
def get? (r : Registry) (name : String) : Option Checker := r.lookup name

/-- Sets the check of a name. -/
def insert (r : Registry) (name : String) (checker : Checker) : Registry :=
  match r with
  | [] => [(name, checker)]
  | (n, c) :: rest =>
    if n = name then (n, checker) :: rest else (n, c) :: Registry.insert rest name checker

/-- The names in order of their characters. -/
def sortedNames (r : Registry) : List String := (r.map (·.1)).mergeSort fun a b => !(b < a)

/-- A name came without a check. -/
structure NoCheck where
  name : String
deriving DecidableEq, Repr

/-- The report of a name without a check. -/
def NoCheck.message (e : NoCheck) : String :=
  "Format checker for '" ++ e.name ++ "' is not callable"

/-- Adds checks in order; the first name without one is refused. -/
def extend (r : Registry) : List (String × Option Checker) → Except NoCheck Registry
  | [] => .ok r
  | (name, some checker) :: rest => extend (r.insert name checker) rest
  | (name, none) :: _ => .error ⟨name⟩

/-- The built-in checks with others on top. -/
def build (extra : List (String × Option Checker)) : Except NoCheck Registry :=
  builtIn.extend extra

end Registry

end JsonSchema
