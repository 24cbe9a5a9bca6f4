/-
  Commands: what a command line asks for.

  * `Request`: two files and how to validate the one against the other.
  * `Command.parse`: the command of a list of arguments.  Switches are obeyed
    from left to right, so that help or the version is shown even if a mistake
    comes later; a mistake in the form of any argument is found before.
-/
import JsonSchema.CommandLine.Argument
import JsonSchema.Text.Integer
import JsonSchema.Schema

namespace JsonSchema.CommandLine

/-- A data file is to be validated against a schema file. -/
structure Request where
  dataFile : String
  /-- none if a second separator stands in its place -/
  schemaFile : Option String
  maxReferenceDepth : Int
  verbose : Bool
deriving DecidableEq, Repr

/-- What a command line asks for. -/
inductive Command where
  | validate (request : Request)
  | showHelp
  | showVersion
  | misused
deriving DecidableEq, Repr

/-- What has been read of a command line. -/
structure Progress where
  operands : List String
  /-- how many operands stand before the last switch -/
  settled : Nat
  /-- a separator belongs to the first operand -/
  separated : Bool
  maxReferenceDepth : Int
  verbose : Bool
  /-- something was read that does not belong there -/
  spoiled : Bool

namespace Progress

/-- Nothing has been read. -/
def start : Progress := ⟨[], 0, false, defaultReferenceDepth, false, false⟩

/-- How many operands a command line has. -/
def operandCount : Nat := 2

/-- One operand more. -/
def operand (p : Progress) (text : String) : Progress :=
  { p with operands := p.operands ++ [text] }

/-- A separator, which needs an operand that belongs with it. -/
def separate (p : Progress) : Progress :=
  { p with
    separated := p.settled = 0
    spoiled := p.spoiled || operandCount ≤ p.settled }

/-- A switch has been read. -/
def settle (p : Progress) : Progress := { p with settled := p.operands.length }

/-- Something unknown has been read. -/
def spoil (p : Progress) : Progress := { p.settle with spoiled := true }

/-- Verbosity is asked for. -/
def beVerbose (p : Progress) : Progress := { p.settle with verbose := true }

/-- A value for the limit on references, if it is an integer. -/
def limit? (p : Progress) (text : String) : Option Progress :=
  (Text.parseInteger? digitLimit text.toList).map fun n => { p.settle with maxReferenceDepth := n }

/-- The second operand as the name of a file.  It is none if it is a separator itself, and the
separator before it belongs to the first operand. -/
def fileName? (p : Progress) (text : String) : Option String :=
  if p.separated && text == "--" then none else some text

/-- The command at the end of a command line. -/
def finish (p : Progress) : Command :=
  match p.spoiled, p.operands with
  | false, [dataFile, schemaFile] =>
    .validate ⟨dataFile, p.fileName? schemaFile, p.maxReferenceDepth, p.verbose⟩
  | _, _ => .misused

end Progress

namespace Command

/-- Obeys switches that take no value; `next` goes on behind them. -/
def obey (next : Progress → Command) : List Switch → Progress → Command
  | [], p => next p
  | .help :: _, _ => .showHelp
  | .version :: _, _ => .showVersion
  | .verbose :: rest, p => obey next rest p.beVerbose
  | .referenceDepth :: _, _ => .misused

/-- The command of the arguments that follow what has been read. -/
def ofArguments : List Argument → Progress → Command
  | [], p => p.finish
  | .operand text :: rest, p => ofArguments rest (p.operand text)
  | .separator :: rest, p => ofArguments rest p.separate
  | .unknown :: rest, p => ofArguments rest p.spoil
  | .lettersWithValue :: _, _ => .misused
  | .letters switches allKnown :: rest, p =>
    obey (fun p => ofArguments rest (if allKnown then p else p.spoil)) switches p
  | .named .referenceDepth (some value) :: rest, p => match p.limit? value with
    | some p => ofArguments rest p
    | none => .misused
  | .named .referenceDepth none :: .operand value :: rest, p => match p.limit? value with
    | some p => ofArguments rest p
    | none => .misused
  | .named _ (some _) :: _, _ => .misused
  | .named switch none :: rest, p => obey (ofArguments rest) [switch] p

/-- The command of a list of arguments. -/
def parse (texts : List String) : Command :=
  match Argument.ofTexts? texts with
  | some arguments => ofArguments arguments .start
  | none => .misused

end Command

end JsonSchema.CommandLine
