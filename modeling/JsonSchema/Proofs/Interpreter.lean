/-
  Direct interpretation of schema objects.

  * `Check`: what a schema asks of a value at a place.  There is one combinator
    for each kind of keyword.
  * `Members.Sub`: a schema object inside another, and smaller for it.
  * `Members.interpret`: walks a schema object, keyword by keyword.  Nothing is
    compiled, and nothing is remembered.
  * `Members.pursue`: what becomes of a reference: it is looked up in the
    document each time that it is met, and what is found there is interpreted
    anew, under the guards of an evaluation.
  * `Members.interpretation`: the interpretation of a whole document.
-/
import JsonSchema.Proofs.Plan
import JsonSchema.Proofs.Subschema

namespace JsonSchema

/-! ## Checks -/

/-- What is asked of a value at a place. -/
abbrev Check (m : Type → Type) := Context → Json → m Result

/-- What becomes of items or properties that no other check is for. -/
inductive Rest (m : Type → Type) where
  | allowed
  | forbidden
  | governed (check : Check m)

section
variable {m : Type → Type} [Monad m]

/-- The results on what no other check is for. -/
def Rest.results : Rest m → Context → List Extra → m (List Result)
  | allowed, _, _ => pure []
  | forbidden, c, extras => pure (extras.map fun e => (c.push e.part).fail e.value e.violation)
  | governed check, c, extras => extras.mapM fun e => check (c.push e.part) e.value

namespace Check

/-- Nothing is asked. -/
def anything : Check m := fun _ _ => pure .success

/-- No more is asked than what a value violates. -/
def violations (violated : Json → List Violation) : Check m := fun c v =>
  pure (c.check v (violated v))

/-- All checks are to be passed. -/
def all (checks : List (Check m)) : Check m := fun c v => do
  return .merge (← checks.mapM fun check => check c v)

/-- One check is to be passed. -/
def any (checks : List (Check m)) : Check m := fun c v =>
  firstMet (c.failWith v .anyOf) (checks.map fun check => check c v) []

/-- One check is to be passed, and no other. -/
def one (checks : List (Check m)) : Check m := fun c v => do
  return exactlyOne c v (← checks.mapM fun check => check c v)

/-- The check is not to be passed. -/
def negation (check : Check m) : Check m := fun c v => do
  let result ← check c v
  return if result.valid then c.fail v .not else .success

/-- The value is of a type. -/
def hasType (name : String) : Check m :=
  violations fun v => violationIf (!v.hasType name) (.unmatchingType name)

/-- The value is of a type, or of one of several types. -/
def ofType (type : Json) : Check m :=
  match type with
  | .string name => hasType name
  | v => match v.strings? with
    | some names => any (names.map hasType)
    | none => violations fun _ => [.invalidType type]

/-- The value is one of those listed. -/
def enum (values : List Json) : Check m :=
  violations fun v => violationIf (!values.any v.equal) (.enum values)

/-- A text is within limits. -/
def text (limits : TextLimits) : Check m := fun c v =>
  match v with
  | .string s => pure (c.check v (limits.violations s))
  | _ => pure .success

/-- A number is within limits. -/
def number [MonadExceptOf Fault m] (limits : NumberLimits) : Check m := fun c v =>
  match v.number? with
  | some n => checkNumber limits c v n
  | none => pure .success

/-- A format that is known is met. -/
def format (registry : Registry) (name : String) : Check m :=
  match registry.get? name with
  | some checker => violations fun v => violationIf (!checker v) (.invalidFormat name)
  | none => violations fun _ => [.formatUnsupported name]

/-! ### Arrays -/

/-- The results of one check on all items. -/
def onItems (check : Check m) (c : Context) (values : List Json) : m (List Result) :=
  values.zipIdx.mapM fun (v, i) => check (c.push (toString i)) v

/-- The results of a check for each position, and of what becomes of the items beyond. -/
def onPositions (checks : List (Check m)) (beyond : Rest m) (c : Context) (values : List Json) :
    m (List Result) := do
  let results ← (checks.zip values.zipIdx).mapM fun (check, v, i) => check (c.push (toString i)) v
  return results ++
    (← beyond.results c (Extra.ofItems checks.length (values.drop checks.length)))

/-- An array is within limits, and so are its items. -/
def array (limits : ItemLimits) (items : Context → List Json → m (List Result)) : Check m :=
  fun c v => match v with
  | .array values => do
    return .merge (c.check v (limits.violations values) :: (← items c values))
  | _ => pure .success

/-! ### Objects -/

/-- The results of checks by key. -/
def onKeys (checks : List (String × Check m)) (c : Context) (members : Members) :
    m (List Result) :=
  (checks.filterMap fun (key, check) =>
    (Members.get? members key).map fun v => check (c.push key) v).mapM id

/-- The results of checks by pattern, or the first pattern that is malformed. -/
def onMatches (c : Context) (members : Members) :
    List (Pattern × Check m) → m (Except String (List Result))
  | [] => pure (.ok [])
  | (p, check) :: rest =>
    if p.isWellFormed then do
      let here ← (members.filter fun (name, _) => p.searches name).mapM fun (name, v) =>
        check (c.push name) v
      return (← onMatches c members rest).map (here ++ ·)
    else pure (.error p.source)

/-- The properties that no check is for, by key or by pattern. -/
def others (keys : List String) (patterns : List Pattern) (members : Members) : List Extra :=
  Extra.ofMembers (members.filter fun (name, _) =>
    !keys.contains name && !patterns.any fun p => p.searches name)

/-- The result on the properties of an object. -/
def onProperties (declared : List (String × Check m)) (patterned : List (Pattern × Check m))
    (beyond : Rest m) (c : Context) (members : Members) : m Result := do
  let first ← onKeys declared c members
  match ← onMatches c members patterned with
  | .error source => return c.fail (.object members) (.invalidPattern source)
  | .ok second =>
    let third ← beyond.results c (others (declared.map (·.1)) (patterned.map (·.1)) members)
    return .merge (first ++ second ++ third)

/-- An object is within limits, and so are its properties.  Anything else has none of those that
are required. -/
def object (limits : PropertyLimits) (properties : Context → Members → m Result) : Check m :=
  fun c v => match v with
  | .object members => do
    return .merge [c.check v (limits.violations members), ← properties c members]
  | _ => pure (c.check v limits.violationsOfOther)

/-- A check on the objects that have a key. -/
def having (key : String) (check : Check m) : Check m := fun c v =>
  match v with
  | .object members => if Members.has members key then check c v else pure .success
  | _ => pure .success

/-- The object has all of the keys. -/
def keys (key : String) (names : List String) : Check m :=
  violations fun v => match v with
    | .object members => (names.filter fun name => !Members.has members name).map
      (.dependencyMissing key)
    | _ => []

end Check

end

/-! ## Smaller schemas -/

namespace Members

/-- A schema object that is smaller than another. -/
abbrev Sub (S : Members) := { T : Members // sizeOf T < sizeOf S }

variable (S : Members) (key : String)

/-- The schema that a key holds. -/
def sub? : Option S.Sub :=
  (S.schema? key).pmap Subtype.mk fun _ h => (inside_of_schema? h).sizeOf_lt

/-- The schemas that a key lists. -/
def subs? : Option (List S.Sub) :=
  (S.schemas? key).pmap (fun Ts h => Ts.pmap Subtype.mk h) fun _ h _ hT =>
    (inside_of_schemas? h hT).sizeOf_lt

/-- The schemas that a key holds by name. -/
def namedSubs : List (String × S.Sub) :=
  (S.named key).pmap (fun e h => (e.1, ⟨e.2, h⟩)) fun _ h => (inside_of_named h).sizeOf_lt

/-- The dependencies by key. -/
def dependencies : Members := (S.schema? "dependencies").getD []

theorem inside_of_mem_dependencies {T : Members} {e : String × Json} (h : e ∈ S.dependencies)
    (hT : e.2.members? = some T) : T.Inside S := by
  obtain ⟨key, needs⟩ := e
  replace hT : needs.members? = some T := hT
  unfold dependencies at h
  cases hU : S.schema? "dependencies" with
  | none =>
    rw [hU] at h
    cases h
  | some U =>
    rw [hU, eq_object_of_members? hT] at h
    exact inside_of_mem_schema? hU h

/-- The dependencies by key, each with the schema that it is, if it is one. -/
def dependencySubs : List (String × Json × Option S.Sub) :=
  S.dependencies.pmap (fun e h => (e.1, e.2, e.2.members?.pmap Subtype.mk h)) fun _ h _ hT =>
    (S.inside_of_mem_dependencies h hT).sizeOf_lt

section
variable {α : Type} (f : Members → α)

theorem map_sub? : ((S.sub? key).map fun T => f T.1) = (S.schema? key).map f := by
  simp only [sub?, Option.map_pmap, Option.pmap_eq_map]

theorem map_subs? :
    ((S.subs? key).map fun Ts => Ts.map fun T => f T.1) = (S.schemas? key).map (·.map f) := by
  simp only [subs?, Option.map_pmap, List.map_pmap, List.pmap_eq_map, Option.pmap_eq_map]

theorem map_namedSubs :
    ((S.namedSubs key).map fun (name, T) => (name, f T.1)) =
      (S.named key).map fun (name, T) => (name, f T) := by
  simp only [namedSubs, List.map_pmap, List.pmap_eq_map]

theorem map_dependencySubs {β : Type} (g : String → Json → Option α → β) :
    (S.dependencySubs.map fun (key, needs, T) => g key needs (T.map fun T => f T.1)) =
      S.dependencies.map fun (key, needs) => g key needs (needs.members?.map f) := by
  simp only [dependencySubs, List.map_pmap, Option.map_pmap, Option.pmap_eq_map, List.pmap_eq_map]

end

/-! ## Interpretation -/

variable {m : Type → Type} [Monad m]

/-- What a key says about the rest. -/
def rest (check : Option (Check m)) : Rest m :=
  match check with
  | some check => .governed check
  | none => match S.get? key with
    | some (.bool false) => .forbidden
    | _ => .allowed

/-- What is asked of items: one schema for all, or one for each position. -/
def onItems (every : Option (Check m)) (positions : Option (List (Check m))) (beyond : Rest m) :
    Context → List Json → m (List Result) :=
  match every, positions with
  | some check, _ => Check.onItems check
  | none, some checks => Check.onPositions checks beyond
  | none, none => fun _ _ => pure []

/-- What is asked of properties, if any of the keywords on them is there. -/
def onProperties (declared patterned : List (String × Check m)) (beyond : Rest m) :
    Context → Members → m Result :=
  if S.hasPropertyRules then
    Check.onProperties declared (patterned.map fun (source, check) => (.ofSource source, check))
      beyond
  else fun _ _ => pure .success

/-- What a dependency asks of the objects that have the key. -/
def onDependency (key : String) (needs : Json) (schema : Option (Check m)) : Check m :=
  match schema with
  | some check => .having key check
  | none => (needs.strings?).elim .anything fun names => .having key (.keys key names)

variable [MonadExceptOf Fault m] (registry : Registry) (follow : Follow m)

/-- What a schema object asks of a value, keyword by keyword. -/
def interpret (S : Members) : Check m :=
  let check (T : S.Sub) : Check m := interpret T.1
  let rest (key : String) : Rest m := S.rest key ((S.sub? key).map check)
  let named (key : String) : List (String × Check m) :=
    (S.namedSubs key).map fun (name, T) => (name, check T)
  .all [
    (S.string? "$ref").elim .anything follow,
    (S.get? "type").elim .anything .ofType,
    ((S.subs? "allOf").map (·.map check)).elim .anything .all,
    ((S.subs? "anyOf").map (·.map check)).elim .anything .any,
    ((S.subs? "oneOf").map (·.map check)).elim .anything .one,
    ((S.sub? "not").map check).elim .anything .negation,
    ((S.get? "enum").bind (·.items?)).elim .anything .enum,
    .text S.textLimits,
    .number S.numberLimits,
    .array S.itemLimits (onItems ((S.sub? "items").map check)
      ((S.subs? "items").map (·.map check)) (rest "additionalItems")),
    .object S.propertyLimits (S.onProperties (named "properties") (named "patternProperties")
      (rest "additionalProperties")),
    .all (S.dependencySubs.map fun (key, needs, T) => onDependency key needs (T.map check)),
    (S.string? "format").elim .anything (.format registry)]
termination_by sizeOf S
decreasing_by exact T.2

/-- The interpretation of a schema object in terms of those of its subschemas. -/
theorem interpret_eq (S : Members) : S.interpret registry follow =
    .all [
      (S.string? "$ref").elim .anything follow,
      (S.get? "type").elim .anything .ofType,
      ((S.schemas? "allOf").map (·.map (interpret registry follow))).elim .anything .all,
      ((S.schemas? "anyOf").map (·.map (interpret registry follow))).elim .anything .any,
      ((S.schemas? "oneOf").map (·.map (interpret registry follow))).elim .anything .one,
      ((S.schema? "not").map (interpret registry follow)).elim .anything .negation,
      ((S.get? "enum").bind (·.items?)).elim .anything .enum,
      .text S.textLimits,
      .number S.numberLimits,
      .array S.itemLimits (onItems ((S.schema? "items").map (interpret registry follow))
        ((S.schemas? "items").map (·.map (interpret registry follow)))
        (S.rest "additionalItems" ((S.schema? "additionalItems").map (interpret registry follow)))),
      .object S.propertyLimits (S.onProperties
        ((S.named "properties").map fun (name, T) => (name, T.interpret registry follow))
        ((S.named "patternProperties").map fun (name, T) => (name, T.interpret registry follow))
        (S.rest "additionalProperties"
          ((S.schema? "additionalProperties").map (interpret registry follow)))),
      .all (S.dependencies.map fun (key, needs) =>
        onDependency key needs (needs.members?.map (interpret registry follow))),
      (S.string? "format").elim .anything (.format registry)] := by
  rw [interpret]
  simp only [map_sub?, map_subs?, map_namedSubs]
  rw [map_dependencySubs S (interpret registry follow) onDependency]

/-- What becomes of a reference; `remaining` is how many more may be followed.  It is looked up
in the document, and the schema object found there is interpreted anew. -/
def pursue (document : Members) (limit : ℕ) : (remaining : ℕ) → Follow m
  | remaining, reference, c, v => match resolve (some document) reference with
    | .error _ => throw (.danglingReference reference)
    | .ok .remote => pure (c.fail v (.remoteReference reference))
    | .ok (.notFound segment) => pure (c.fail v (.referenceNotFound reference segment))
    | .ok (.found target) =>
      if c.isFollowing reference then pure (c.fail v (.referenceCycle reference))
      else match remaining with
        | 0 => pure (c.fail v (.referenceDepth reference limit))
        | remaining + 1 =>
          target.interpret registry (document.pursue limit remaining) (c.follow reference) v

/-- The result of interpreting a document on a value. -/
def interpretation (document : Members) (verbose : Bool) (limit : ℕ) (v : Json) :
    Except Fault Result :=
  document.interpret registry (document.pursue registry limit limit) (.start verbose) v

end Members

end JsonSchema
