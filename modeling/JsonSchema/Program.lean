/-
  Compiled schemas.

  * `Program`: the rule of a document and the rules that its references stand
    for, each compiled once and shared by all that mention the reference.
  * `Session`: a compiler at work: the document that references are looked up
    in, and what they turned out to be.
  * `Session.compile`: compiles a document, from a clean table.
  * `Session.compileRules`: compiles one more schema object against the
    document of the session.
-/
import JsonSchema.Survey

namespace JsonSchema

/-- A compiled document.  The references are in the order of meeting, and the first one is the
document itself. -/
structure Program where
  root : Rule
  references : List (String × Rule)

/-- The rule that a reference stands for. -/
def Program.target? (p : Program) (reference : String) : Option Rule :=
  p.references.lookup reference

/-- The reference to the whole document. -/
def rootReference : String := "#"

/-- The rule at a mention of a reference, once it is known what that turned out to be. -/
def References.mention (table : References) (reference : String) : Rule :=
  match table.lookup reference with
  | some .remote => .invalid (.remoteReference reference)
  | some (.notFound segment) => .invalid (.referenceNotFound reference segment)
  | _ => .reference reference

/-- The rule that a reference stands for. -/
def Resolution.rule (env : Environment) (reference : String) : Resolution → Rule
  | .remote => .invalid (.remoteReference reference)
  | .notFound segment => .invalid (.referenceNotFound reference segment)
  | .found target => target.rule env

/-! ## Sessions -/

/-- A compiler at work. -/
structure Session where
  registry : Registry
  document : Option Members
  references : References

namespace Session

/-- Before the first document. -/
def start (registry : Registry) : Session := ⟨registry, none, []⟩

/-- A document is taken up, and nothing but the document itself can be referred to yet. -/
def takeUp (s : Session) (document : Members) : Session :=
  ⟨s.registry, some document, [(rootReference, .found document)]⟩

/-- How schema objects are read, given what references turned out to be. -/
def environment (s : Session) : Environment := ⟨s.registry, s.references.mention⟩

/-- The references of the document and of a schema object that have not been met. -/
def pending (s : Session) (members : Members) : List String :=
  ((s.document.map Members.references).getD [] ++ Members.references members).filter fun r =>
    (s.references.lookup r).isNone

/-- The survey of a schema object. -/
def survey (s : Session) (members : Members) : Survey :=
  JsonSchema.survey s.document s.registry (s.pending members) (members.steps s.registry)

/-- What a survey has found is added to the table. -/
def add (s : Session) (found : Survey) : Session :=
  { s with references := s.references ++ found.references }

/-- The program of a document, given what its references turned out to be. -/
def program (s : Session) (document : Members) : Program where
  root := document.rule s.environment
  references := s.references.map fun (reference, r) => (reference, r.rule s.environment reference)

end Session

/-- What a compilation leaves: the session, the reports, and the result. -/
structure Compiled (α : Type) where
  session : Session
  events : List Event
  result : Except CompileError α

namespace Session

/-- The result of a survey, unless it failed. -/
def conclude {α : Type} (s : Session) (found : Survey) (result : Session → α) : Compiled α :=
  let s := s.add found
  ⟨s, found.events, match found.failure with
    | some e => .error e
    | none => .ok (result s)⟩

/-- Compiles a document. -/
def compile (s : Session) (document : Members) : Compiled Program :=
  let s := s.takeUp document
  let compiled := s.conclude (s.survey document) (·.program document)
  { compiled with events := .compiling (document.get? "title") :: compiled.events }

/-- Compiles one more schema object. -/
def compileRules (s : Session) (members : Members) : Compiled (List Rule) :=
  s.conclude (s.survey members) fun s => members.rules s.environment

end Session

end JsonSchema
