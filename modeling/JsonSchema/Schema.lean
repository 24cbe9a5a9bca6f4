/-
  Schemas.

  * `Options`: what a schema may be given besides its document.
  * `Schema.build`: compiles a document, or tells why it cannot be used; the
    reports of what happens come with it in either case.
  * `Schema.validate`: the result for a value.
  * `Schema.title`, `Schema.types`, …: what the document says about itself.
-/
import JsonSchema.Evaluation

namespace JsonSchema

/-- What a schema may be given besides its document. -/
structure Options where
  formats : List (String × Option Checker)
  verbose : Bool
  maxReferenceDepth : Int

/-- How deeply references are nested unless told otherwise. -/
def defaultReferenceDepth : Int := 64

/-- Nothing but the document. -/
def Options.default : Options := ⟨[], false, defaultReferenceDepth⟩

/-- Why a schema cannot be used. -/
inductive SchemaError where
  | documentNotObject (document : Json)
  | formatWithoutCheck (e : Registry.NoCheck)
  | depthNotPositive (depth : Int)
  | notCompiled (e : CompileError)

/-- A compiled schema.  At most `depth` references are followed at a time. -/
structure Schema where
  document : Members
  registry : Registry
  verbose : Bool
  depth : Nat
  program : Program

/-! ## Reports -/

/-- What a document that is no object is called in a report. -/
def Json.kindWord : Json → String
  | .null => "NoneType"
  | .bool _ => "bool"
  | .int _ => "int"
  | .double _ => "float"
  | .string _ => "str"
  | .array _ => "list"
  | .object _ => "dict"

/-- The report of a failed look-up. -/
def LookupError.message : LookupError → String
  | .indexTooLong digits => digitLimitMessage digits
  | .noDocument => "'NoneType' object has no attribute 'get'"

/-- The report of a failed compilation. -/
def CompileError.message : CompileError → String
  | .pattern defect => defect.message
  | .lookup e => e.message

/-- The report of an unusable schema. -/
def SchemaError.message : SchemaError → String
  | .documentNotObject document =>
    "Schema document must be an object, got " ++ document.kindWord
  | .formatWithoutCheck e => e.message
  | .depthNotPositive depth => "max_reference_depth must be positive, got " ++ toString depth
  | .notCompiled e => e.message

/-! ## Construction -/

/-- The text that a member of the document holds. -/
def Members.string? (members : Members) (key : String) : Option String :=
  (members.get? key).bind (·.string?)

/-- What making a schema leaves: the reports, and the schema. -/
structure Built where
  events : List Event
  schema : Except SchemaError Schema

/-- The schema of a document. -/
def Schema.build (document : Json) (options : Options) : Built :=
  match document, Registry.build options.formats with
  | .object members, .ok registry =>
    if options.maxReferenceDepth < 1 then ⟨[], .error (.depthNotPositive options.maxReferenceDepth)⟩
    else
      let compiled := (Session.start registry).compile members
      match compiled.result with
      | .error e => ⟨compiled.events, .error (.notCompiled e)⟩
      | .ok program =>
        ⟨compiled.events ++ [.compiled (Members.string? members "title") options.verbose],
          .ok ⟨members, registry, options.verbose, options.maxReferenceDepth.toNat, program⟩⟩
  | .object _, .error e => ⟨[], .error (.formatWithoutCheck e)⟩
  | document, _ => ⟨[], .error (.documentNotObject document)⟩

namespace Schema

/-- The result for a value, or a fault of the evaluator. -/
def validate? (s : Schema) (v : Json) : Except Fault Result :=
  s.program.evaluate s.depth s.program.root (.start s.verbose) v

/-- The result for a value.  A fault would count as a rejection. -/
def validate (s : Schema) (v : Json) : Result :=
  match s.validate? v with
  | .ok result => result
  | .error _ => .failure []

/-! ## What the document says about itself -/

/-- The title. -/
def title (s : Schema) : Option String := s.document.string? "title"

/-- The description. -/
def description (s : Schema) : Option String := s.document.string? "description"

/-- The names that a `type` keyword gives. -/
def typeNames : Option Json → List String
  | some (.string name) => [name]
  | some (.array items) => items.filterMap (·.string?)
  | _ => []

/-- The names of known types that the document gives. -/
def types (s : Schema) : List String :=
  (typeNames (s.document.get? "type")).filter fun name => (Kind.ofName? name).isSome

/-- The properties that the document declares. -/
def properties (s : Schema) : Option Members := (s.document.get? "properties").bind (·.members?)

/-- The description of a schema. -/
def display (s : Schema) : String := "Schema(title=" ++ Event.titleLiteral s.title ++ ")"

end Schema

end JsonSchema
