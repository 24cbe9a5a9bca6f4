/-
  The program: validates a file of JSON text against another that holds a
  schema.
-/
import JsonSchema.CommandLine.Outcome

namespace JsonSchema.CommandLine

/-- What a file name leads to.  What cannot be read counts as missing. -/
def contentOf (name : String) : IO Content := do
  try
    return .file (← IO.FS.readBinFile name).toList
  catch
    | .inappropriateType .. => return .directory
    | _ => return .missing

/-- Carries out a command. -/
def Command.carryOut (command : Command) : IO Outcome := do
  match command with
  | .validate r =>
    let data ← contentOf r.dataFile
    let document ← contentOf (r.schemaFile.getD "")
    return r.perform fun name => if name = r.dataFile then data else document
  | _ => return command.perform fun _ => .missing

/-- Prints what a command leads to. -/
def Outcome.print : Outcome → IO Unit
  | shown text => IO.print text
  | misused => IO.eprint usageText
  | reported _ log => log.forM fun entry => IO.eprint entry.render
  | aborted why => IO.eprintln why.message

end JsonSchema.CommandLine

/-- The exit status tells whether the data conforms to the schema. -/
def main (arguments : List String) : IO UInt32 := do
  let outcome ← (JsonSchema.CommandLine.Command.parse arguments).carryOut
  outcome.print
  return outcome.status.toUInt32
