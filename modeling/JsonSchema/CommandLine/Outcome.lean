/-
  Outcomes: what a command leads to.

  * `Request.perform`: validates the contents of two files.  The outcome is a
    log and a verdict, unless something comes up that no log entry is for.
  * `Command.perform`: the outcome of any command.
  * `Outcome.status`: the exit status, zero exactly when nothing is wrong.
-/
import JsonSchema.CommandLine.Command
import JsonSchema.CommandLine.File

namespace JsonSchema.CommandLine

/-! ## Logs -/

/-- A line of a log. -/
structure Entry where
  level : Level
  message : String
deriving DecidableEq, Repr

/-- The text of a line. -/
def Entry.render (e : Entry) : String := e.level.name ++ ": " ++ e.message ++ "\n"

/-- Only a verbose log holds debugging entries. -/
def logged (verbose : Bool) (events : List Event) : List Entry :=
  (events.map fun e => ⟨e.level, e.message⟩).filter fun e => verbose || e.level != .debug

/-! ## Outcomes -/

/-- What comes up although no log entry is for it. -/
inductive Abort where
  /-- a file is not named by a text -/
  | unnamedFile
  | directory (name : String)
  | undecodable (bytes : List Nat) (defect : Text.Utf8.Malformed)
  | tooManyDigits (digits : Nat)
  | pattern (defect : Regex.Defect)

/-- The report of what comes up. -/
def Abort.message : Abort → String
  | unnamedFile => "expected str, bytes or os.PathLike object, not list"
  | directory name => "[Errno 21] Is a directory: " ++ Text.Quoted.quote name
  | undecodable bytes defect => defect.message bytes
  | tooManyDigits digits => digitLimitMessage digits
  | pattern defect => defect.message

/-- What a command leads to. -/
inductive Outcome where
  | shown (text : String)
  | misused
  | reported (accepted : Bool) (log : List Entry)
  | aborted (why : Abort)

/-- The exit status. -/
def Outcome.status : Outcome → Nat
  | shown _ => 0
  | misused => 2
  | reported accepted _ => if accepted then 0 else 1
  | aborted _ => 1

/-! ## Validation -/

/-- The outcome of a file that holds no value. -/
def LoadError.outcome (name : String) : LoadError → Outcome
  | missing => .reported false [⟨.error, "File not found: " ++ normalize name⟩]
  | directory => .aborted (.directory (normalize name))
  | undecodable bytes defect => .aborted (.undecodable bytes defect)
  | unreadable _ (.tooManyDigits digits) => .aborted (.tooManyDigits digits)
  | unreadable text e =>
    let label := "Failed to parse JSON in " ++ normalize name ++ ": "
    .reported false [⟨.error, e.message text label⟩]

/-- A number in a pattern is out of range. -/
def outOfRange : SchemaError → Option Regex.Defect
  | .notCompiled (.pattern .countTooLarge) => some .countTooLarge
  | .notCompiled (.pattern .codeTooLarge) => some .codeTooLarge
  | .notCompiled (.pattern .lookBehindTooWide) => some .lookBehindTooWide
  | _ => none

/-- The outcome of a schema that cannot be used, after a log. -/
def unusable (log : List Entry) (e : SchemaError) : Outcome :=
  match outOfRange e with
  | some defect => .aborted (.pattern defect)
  | none => .reported false (log ++ [⟨.error, "Invalid schema: " ++ e.message⟩])

/-- The entries for a result. -/
def verdict (r : Result) : List Entry :=
  if r.valid then [⟨.info, "Validation successful!"⟩]
  else ⟨.error, "Validation failed:"⟩ ::
    r.errors.map fun e => ⟨.error, "  - " ++ e.display⟩

namespace Request

/-- How the schema of a request is made. -/
def options (r : Request) : Options := ⟨[], r.verbose, r.maxReferenceDepth⟩

/-- The outcome for the values of the two files. -/
def judge (r : Request) (data document : Json) : Outcome :=
  let built := Schema.build document r.options
  let log := logged r.verbose built.events
  match built.schema with
  | .error e => unusable log e
  | .ok schema =>
    let result := schema.validate data
    .reported result.valid (log ++ verdict result)

/-- The outcome, given the contents of files by name.  The data is read first. -/
def perform (r : Request) (read : String → Content) : Outcome :=
  match load (read r.dataFile), r.schemaFile with
  | .error e, _ => e.outcome r.dataFile
  | .ok _, none => .aborted .unnamedFile
  | .ok data, some schemaFile => match load (read schemaFile) with
    | .error e => e.outcome schemaFile
    | .ok document => r.judge data document

end Request

/-! ## Commands -/

/-- The name and version of the program. -/
def versionText : String := "draft4-validate 1.0.0\n"

/-- How the program is used. -/
def usageText : String :=
  "usage: draft4-validate [-h] [--max-reference-depth N] [--verbose] [--version]\n" ++
  "                       data_file schema_file\n"

/-- What the program is for and what its arguments mean. -/
def helpText : String :=
  usageText ++
  "\nValidate a JSON file against a draft-4 JSON schema.\n" ++
  "\npositional arguments:\n" ++
  "  data_file             Path to the JSON data file to validate\n" ++
  "  schema_file           Path to the JSON schema file\n" ++
  "\noptions:\n" ++
  "  -h, --help            show this help message and exit\n" ++
  "  --max-reference-depth N\n" ++
  "                        Maximum number of nested $ref evaluations (default:\n" ++
  "                        " ++ toString defaultReferenceDepth ++ ")\n" ++
  "  --verbose, -v         Enable verbose output\n" ++
  "  --version             show program's version number and exit\n"

/-- The outcome of a command, given the contents of files by name. -/
def Command.perform (read : String → Content) : Command → Outcome
  | validate r => r.perform read
  | showHelp => .shown helpText
  | showVersion => .shown versionText
  | misused => .misused

end JsonSchema.CommandLine
