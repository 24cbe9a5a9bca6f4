/-
  Where an evaluation stands.

  * `Context`: the path from the value under validation to the part that is
    looked at, and the references being followed.
  * `Context.push`, `Context.follow`: one step down, and one reference more.
    What is done under the new context leaves the old one as it was.
  * `Context.fail`: the result for violations by the value at hand.
-/
import JsonSchema.Pointer
import JsonSchema.Result

namespace JsonSchema

/-- A reference being followed, and the path at which it was met. -/
structure Frame where
  reference : String
  path : List String
deriving DecidableEq, Repr

/-- The place of an evaluation. -/
structure Context where
  path : List String
  active : List Frame
  verbose : Bool
deriving DecidableEq, Repr

namespace Context

/-- The place where a validation begins. -/
def start (verbose : Bool) : Context := ⟨[], [], verbose⟩

/-- One step down, to a member or an item. -/
def push (c : Context) (part : String) : Context := { c with path := c.path ++ [part] }

/-- One step up; at the top there is none. -/
def pop (c : Context) : Context := { c with path := c.path.dropLast }

/-- The frame of a reference at this place. -/
def frame (c : Context) (reference : String) : Frame := ⟨reference, c.path⟩

/-- One reference more is followed. -/
def follow (c : Context) (reference : String) : Context :=
  { c with active := c.active ++ [c.frame reference] }

/-- The reference is being followed from this very place. -/
def isFollowing (c : Context) (reference : String) : Bool := c.active.contains (c.frame reference)

/-- The place as a pointer. -/
def pointer (c : Context) : String := Pointer.ofParts c.path

/-- The description of a place. -/
def display (c : Context) : String :=
  "ValidationContext(path=" ++ c.pointer ++ ", references=" ++ toString c.active.length ++ ")"

/-- An error at this place. -/
def error (c : Context) (value : Json) (v : Violation) (causes : List ValidationError) :
    ValidationError :=
  .mk c.pointer value v causes

/-- The result for violations by the value at this place. -/
def check (c : Context) (value : Json) (violations : List Violation) : Result :=
  ⟨violations.isEmpty, violations.map fun v => c.error value v []⟩

/-- The result for one violation. -/
def fail (c : Context) (value : Json) (v : Violation) : Result := c.check value [v]

/-- The errors of branches, which are only kept on demand. -/
def causes (c : Context) (branches : List Result) : List ValidationError :=
  if c.verbose then branches.flatMap (·.errors) else []

/-- The result for a combinator that is not met, with the results of its branches. -/
def failWith (c : Context) (value : Json) (v : Violation) (branches : List Result) : Result :=
  .failure [c.error value v (c.causes branches)]

end Context

end JsonSchema
