/-
  Evaluation of rules.

  * `Rule.check`: evaluates a rule on a value.  References are handed to a
    function, so that the recursion is on the rule alone; the monad is free, so
    that the same evaluator can be run plainly, strictly, or with a trace.
  * `Program.enter`: follows a reference under two guards.  A reference that is
    being followed from the same place is a cycle, and no more than `limit`
    references may be followed at a time.
  * `Program.evaluate`: a rule of a program on a value.

  The recursion through references is on the number of references that may
  still be followed.  The stack on which the calls are made is taken as
  unbounded.  If it ran out before `limit` is reached, the innermost reference
  with room for it would be reported as too deep, with the number of references
  being followed in place of `limit`; there is no such case here.
-/
import JsonSchema.Context
import JsonSchema.Program

namespace JsonSchema

/-- What would be wrong with the evaluator itself. -/
inductive Fault where
  /-- a reference without a rule is followed -/
  | danglingReference (reference : String)
  /-- a quotient that the rules for numbers do not provide for -/
  | arithmetic (fault : Number.ArithmeticFault)
deriving DecidableEq, Repr

/-- How references are followed. -/
abbrev Follow (m : Type → Type) := String → Context → Json → m Result

/-- A part of a value that no other rule is for, and the violation that it is if it is forbidden. -/
structure Extra where
  part : String
  value : Json
  violation : Violation

namespace Extra

/-- The items of an array from an index on. -/
def ofItems (index : Nat) : List Json → List Extra
  | [] => []
  | item :: rest => ⟨toString index, item, .additionalItem index⟩ :: ofItems (index + 1) rest

/-- Members of an object. -/
def ofMembers (members : Members) : List Extra :=
  members.map fun (name, v) => ⟨name, v, .additionalProperty name⟩

end Extra

/-- Members whose keys are neither declared nor matched by a pattern. -/
def undeclared (declared : List (String × Rule)) (patterned : List (Pattern × Rule))
    (members : Members) : Members :=
  members.filter fun (name, _) =>
    (declared.lookup name).isNone && !patterned.any fun (p, _) => p.searches name

/-- The result of exactly one branch. -/
def exactlyOne (c : Context) (value : Json) (results : List Result) : Result :=
  let passing := results.countP (·.valid)
  if passing = 1 then .success
  else c.failWith value (.oneOf passing) (results.filter (!·.valid))

variable {m : Type → Type} [Monad m] [MonadExceptOf Fault m]

/-- The result of limits on a number. -/
def checkNumber (limits : NumberLimits) (c : Context) (value : Json) (n : Number) : m Result :=
  match limits.violations n with
  | .ok violations => pure (c.check value violations)
  | .error fault => throw (.arithmetic fault)

mutual

/-- The result of a rule on the value at a place. -/
def Rule.check (follow : Follow m) : Rule → Context → Json → m Result
  | .combined rules, c, v => do return .merge (← Rule.checkAll follow rules c v)
  | .allOf branches, c, v => do return .merge (← Rule.checkAll follow branches c v)
  | .anyOf branches, c, v => Rule.checkAny follow branches c v []
  | .oneOf branches, c, v => do return exactlyOne c v (← Rule.checkAll follow branches c v)
  | .not rule, c, v => do
    let result ← rule.check follow c v
    return if result.valid then c.fail v .not else .success
  | .type name, c, v => pure (c.check v (violationIf (!v.hasType name) (.unmatchingType name)))
  | .enum values, c, v => pure (c.check v (violationIf (!values.any v.equal) (.enum values)))
  | .text limits, c, v => match v with
    | .string s => pure (c.check v (limits.violations s))
    | _ => pure .success
  | .number limits, c, v => match v.number? with
    | some n => checkNumber limits c v n
    | none => pure .success
  | .array limits items, c, v => match v with
    | .array values => do
      let results ← items.check follow c values
      return .merge (c.check v (limits.violations values) :: results)
    | _ => pure .success
  | .object limits properties, c, v => match v with
    | .object members => do
      let result ← properties.check follow c members
      return .merge [c.check v (limits.violations members), result]
    | _ => pure (c.check v limits.violationsOfOther)
  | .dependentRule key rule, c, v => match v with
    | .object members => if Members.has members key then rule.check follow c v else pure .success
    | _ => pure .success
  | .dependentKeys key names, c, v => match v with
    | .object members =>
      if Members.has members key then
        pure (c.check v ((names.filter fun name => !Members.has members name).map
          (.dependencyMissing key)))
      else pure .success
    | _ => pure .success
  | .format name checker, c, v => pure (c.check v (violationIf (!checker v) (.invalidFormat name)))
  | .reference reference, c, v => follow reference c v
  | .invalid problem, c, v => pure (c.fail v problem.violation)
termination_by structural r => r

/-- The results of rules on one value. -/
def Rule.checkAll (follow : Follow m) : List Rule → Context → Json → m (List Result)
  | [], _, _ => pure []
  | rule :: rest, c, v => do
    let result ← rule.check follow c v
    return result :: (← Rule.checkAll follow rest c v)
termination_by structural rs => rs

/-- The result of the first branch that is met; if none is, all have failed, as `failed` in
reverse before them. -/
def Rule.checkAny (follow : Follow m) :
    List Rule → Context → Json → (failed : List Result) → m Result
  | [], c, v, failed => pure (c.failWith v .anyOf failed.reverse)
  | rule :: rest, c, v, failed => do
    let result ← rule.check follow c v
    if result.valid then pure .success
    else Rule.checkAny follow rest c v (result :: failed)
termination_by structural rs => rs

/-- The results of the rules on the items of an array. -/
def ItemRules.check (follow : Follow m) : ItemRules → Context → List Json → m (List Result)
  | .unchecked, _, _ => pure []
  | .every rule, c, values =>
    values.zipIdx.mapM fun (v, i) => rule.check follow (c.push (toString i)) v
  | .positional rules beyond, c, values => do
    let results ← ItemRules.checkPositions follow rules c 0 values
    return results ++
      (← beyond.check follow c (Extra.ofItems rules.length (values.drop rules.length)))
termination_by structural r => r

/-- The results of rules on the items from an index on, each on its own. -/
def ItemRules.checkPositions (follow : Follow m) :
    List Rule → Context → Nat → List Json → m (List Result)
  | rule :: rest, c, i, v :: values => do
    let result ← rule.check follow (c.push (toString i)) v
    return result :: (← ItemRules.checkPositions follow rest c (i + 1) values)
  | _, _, _, _ => pure []
termination_by structural rs => rs

/-- The results on what no other rule is for. -/
def Additional.check (follow : Follow m) : Additional → Context → List Extra → m (List Result)
  | .allowed, _, _ => pure []
  | .forbidden, c, extras =>
    pure (extras.map fun e => (c.push e.part).fail e.value e.violation)
  | .governed rule, c, extras =>
    extras.mapM fun e => rule.check follow (c.push e.part) e.value
termination_by structural a => a

/-- The result of the rules on the properties of an object.  A malformed pattern is the only
thing that is reported. -/
def PropertyRules.check (follow : Follow m) : PropertyRules → Context → Members → m Result
  | .unchecked, _, _ => pure .success
  | .checked declared patterned beyond, c, members => do
    let first ← PropertyRules.checkDeclared follow declared c members
    match ← PropertyRules.checkPatterned follow patterned c members with
    | .error source => pure (c.fail (.object members) (.invalidPattern source))
    | .ok second =>
      let third ← beyond.check follow c
        (Extra.ofMembers (undeclared declared patterned members))
      return .merge (first ++ second ++ third)
termination_by structural r => r

/-- The results of rules by key on the members that are present. -/
def PropertyRules.checkDeclared (follow : Follow m) :
    List (String × Rule) → Context → Members → m (List Result)
  | [], _, _ => pure []
  | (key, rule) :: rest, c, members => do
    let here ← match Members.get? members key with
      | some v => do pure [← rule.check follow (c.push key) v]
      | none => pure []
    return here ++ (← PropertyRules.checkDeclared follow rest c members)
termination_by structural rs => rs

/-- The results of rules by pattern on the members whose keys match, or the first pattern that is
malformed. -/
def PropertyRules.checkPatterned (follow : Follow m) :
    List (Pattern × Rule) → Context → Members → m (Except String (List Result))
  | [], _, _ => pure (.ok [])
  | (p, rule) :: rest, c, members =>
    if p.isWellFormed then do
      let here ← (members.filter fun (name, _) => p.searches name).mapM fun (name, v) =>
        rule.check follow (c.push name) v
      return (← PropertyRules.checkPatterned follow rest c members).map (here ++ ·)
    else pure (.error p.source)
termination_by structural rs => rs

end

/-! ## References -/

/-- Follows a reference, if it may be followed; `remaining` is how many more may be. -/
def Program.enter (p : Program) (limit : Nat) : (remaining : Nat) → Follow m
  | remaining, reference, c, v =>
    if c.isFollowing reference then pure (c.fail v (.referenceCycle reference))
    else match remaining with
      | 0 => pure (c.fail v (.referenceDepth reference limit))
      | remaining + 1 => match p.target? reference with
        | some rule => rule.check (p.enter limit remaining) (c.follow reference) v
        | none => throw (.danglingReference reference)

/-- The result of a rule of a program at a place. -/
def Program.evaluate (p : Program) (limit : Nat) (rule : Rule) (c : Context) (v : Json) :
    m Result :=
  rule.check (p.enter limit (limit - c.active.length)) c v

end JsonSchema
