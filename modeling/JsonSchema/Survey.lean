/-
  The survey of a schema: which references it meets, in which order, and what
  else there is to report.

  * `Step`: something met in the rules of a schema object.
  * `Rule.steps`: the steps of a rule, in the order of its keywords.
  * `survey`: takes step after step.  The first time that a reference is met it
    is resolved, and the steps of its target come next; later it is passed
    over.  The survey stops at what keeps the schema from being compiled.

  Every resolution takes one reference off those that are pending, so the
  survey ends.
-/
import JsonSchema.Keywords
import JsonSchema.Reference
import JsonSchema.Event

namespace JsonSchema

/-! ## Steps -/

/-- What a survey meets. -/
inductive Step where
  | reference (reference : String)
  | event (e : Event)
  | defect (d : Regex.Defect)

/-- The steps of a pattern, which reports in its own way that it is malformed. -/
def Pattern.steps (report : String → Event) (p : Pattern) : List Step :=
  match p.expression with
  | .ok _ => []
  | .error .malformed => [.event (report p.source)]
  | .error defect => [.defect defect]

/-- The steps of a problem.  References report when they are resolved. -/
def Problem.steps : Problem → List Step
  | invalidType type => [.event (.invalidType type)]
  | formatUnsupported format => [.event (.unsupportedFormat format)]
  | _ => []

mutual

/-- The steps of a rule. -/
def Rule.steps : Rule → List Step
  | .combined rules => Rule.stepsOfAll rules
  | .allOf branches => Rule.stepsOfAll branches
  | .anyOf branches => Rule.stepsOfAll branches
  | .oneOf branches => Rule.stepsOfAll branches
  | .not rule => rule.steps
  | .text limits => (limits.pattern.map (Pattern.steps .malformedPattern)).getD []
  | .array _ items => items.steps
  | .object _ properties => properties.steps
  | .dependentRule _ rule => rule.steps
  | .reference reference => [.reference reference]
  | .invalid problem => problem.steps
  | _ => []
termination_by structural r => r

/-- The steps of rules. -/
def Rule.stepsOfAll : List Rule → List Step
  | [] => []
  | r :: rest => r.steps ++ Rule.stepsOfAll rest
termination_by structural rs => rs

/-- The steps of the rules on items. -/
def ItemRules.steps : ItemRules → List Step
  | .unchecked => []
  | .every rule => rule.steps
  | .positional rules beyond => Rule.stepsOfAll rules ++ beyond.steps
termination_by structural r => r

/-- The steps of what becomes of the rest. -/
def Additional.steps : Additional → List Step
  | .governed rule => rule.steps
  | _ => []
termination_by structural a => a

/-- The steps of the rules on properties: the patterns are looked at after their rules. -/
def PropertyRules.steps : PropertyRules → List Step
  | .unchecked => []
  | .checked declared patterned beyond =>
    PropertyRules.stepsOfPatterned patterned ++
      patterned.flatMap (fun (p, _) => p.steps .malformedPropertyPattern) ++
      PropertyRules.stepsOfDeclared declared ++ beyond.steps
termination_by structural r => r

/-- The steps of rules by key. -/
def PropertyRules.stepsOfDeclared : List (String × Rule) → List Step
  | [] => []
  | (_, r) :: rest => r.steps ++ PropertyRules.stepsOfDeclared rest
termination_by structural rs => rs

/-- The steps of rules by pattern. -/
def PropertyRules.stepsOfPatterned : List (Pattern × Rule) → List Step
  | [] => []
  | (_, r) :: rest => r.steps ++ PropertyRules.stepsOfPatterned rest
termination_by structural rs => rs

end

/-- Schema objects as a survey reads them: references are not resolved yet. -/
def Environment.unresolved (registry : Registry) : Environment := ⟨registry, .reference⟩

/-- The steps of a schema object. -/
def Members.steps (members : Members) (registry : Registry) : List Step :=
  Rule.stepsOfAll (members.rules (.unresolved registry))

/-! ## The survey -/

/-- Why a schema cannot be compiled. -/
inductive CompileError where
  | pattern (defect : Regex.Defect)
  | lookup (e : LookupError)
deriving DecidableEq, Repr

/-- What the references that have been met turned out to be, in the order of meeting. -/
abbrev References := List (String × Resolution)

/-- What a survey has found. -/
structure Survey where
  references : References
  events : List Event
  failure : Option CompileError

namespace Survey

/-- Nothing to report. -/
def empty : Survey := ⟨[], [], none⟩

/-- The schema cannot be compiled. -/
def failed (e : CompileError) : Survey := ⟨[], [], some e⟩

/-- An event before all others. -/
def report (e : Event) (s : Survey) : Survey := { s with events := e :: s.events }

/-- A resolved reference before all others. -/
def enter (reference : String) (r : Resolution) (s : Survey) : Survey :=
  { s with references := (reference, r) :: s.references }

end Survey

/-- The report of a resolved reference. -/
def Resolution.event (reference : String) : Resolution → Event
  | .remote => .remote reference
  | .notFound segment => .notFound reference segment
  | .found _ => .resolved reference

/-- The steps that follow a resolved reference. -/
def Resolution.steps (registry : Registry) : Resolution → List Step
  | .found target => target.steps registry
  | _ => []

/-- The references that are pending after one of them has been met. -/
def without (r : String) (pending : List String) : List String := pending.filter (· ≠ r)

/-- Meeting a pending reference leaves fewer. -/
theorem length_without_lt {r : String} {pending : List String} (h : r ∈ pending) :
    (without r pending).length < pending.length :=
  List.length_filter_lt_length_iff_exists.2 ⟨r, h, by simp⟩

/-- Takes all steps; `pending` are the references that have not been met. -/
def survey (document : Option Members) (registry : Registry) (pending : List String) :
    List Step → Survey
  | [] => .empty
  | .event e :: rest => (survey document registry pending rest).report e
  | .defect d :: _ => .failed (.pattern d)
  | .reference r :: rest =>
    if r ∈ pending then match resolve document r with
      | .error e => .failed (.lookup e)
      | .ok resolution =>
        (((survey document registry (without r pending)
          (resolution.steps registry ++ rest)).report (resolution.event r)).enter r resolution)
    else survey document registry pending rest
termination_by steps => (pending.length, steps.length)
decreasing_by
  · exact Prod.Lex.right _ (Nat.lt_succ_self _)
  · exact Prod.Lex.left _ _ (length_without_lt ‹_›)
  · exact Prod.Lex.right _ (Nat.lt_succ_self _)

end JsonSchema
