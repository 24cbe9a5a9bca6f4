/-
  The arguments of a command line.

  * `Switch`: what can be asked for by a name, or by a letter.
  * `Argument`: what one argument is: an operand, the separator behind which
    all are operands, a named switch, or a cluster of letters.
  * `Argument.ofTexts?`: what the arguments of a command line are.  A name may
    be cut short as long as it remains the beginning of one name only.
-/
import JsonSchema.Text.Digit

namespace JsonSchema.CommandLine

/-- What can be asked for. -/
inductive Switch where
  | help
  | referenceDepth
  | verbose
  | version
deriving DecidableEq, Repr

namespace Switch

/-- The switches by name. -/
def names : List (String × Switch) :=
  [("help", .help), ("max-reference-depth", .referenceDepth), ("verbose", .verbose),
    ("version", .version)]

/-- The switches whose names begin with a text. -/
def beginningWith (text : List Char) : List Switch :=
  (names.filter fun (name, _) => text.isPrefixOf name.toList).map (·.2)

/-- The switch of a letter. -/
def ofLetter? : Char → Option Switch
  | 'h' => some .help
  | 'v' => some .verbose
  | _ => none

end Switch

/-- What one argument is. -/
inductive Argument where
  | operand (text : String)
  | separator
  /-- a switch by name, perhaps with a value behind an equals sign -/
  | named (switch : Switch) (value : Option String)
  /-- switches by letter, perhaps followed by letters that are not known -/
  | letters (switches : List Switch) (allKnown : Bool)
  /-- letters with a value, which none of them takes -/
  | lettersWithValue
  /-- the form of a switch, but none that is known -/
  | unknown
deriving DecidableEq, Repr

namespace Argument

/-- Digits, perhaps with a point before some of them, perhaps with the end of a line behind. -/
def isUnsignedNumber (s : List Char) : Bool :=
  let isDigit (c : Char) := Text.isDigit c.toNat
  let s := if s.getLast? = some '\n' then s.dropLast else s
  match s.dropWhile isDigit with
  | [] => s ≠ []
  | '.' :: fraction => fraction ≠ [] && fraction.all isDigit
  | _ => false

/-- An argument of the form of a switch that is not known: a negative number or a text with a
space in it is an operand all the same. -/
def otherwise (text : String) : Argument :=
  if isUnsignedNumber (text.toList.drop 1) || text.toList.contains ' ' then .operand text
  else .unknown

/-- A name, and the value behind the first equals sign. -/
def splitValue (s : List Char) : List Char × Option String :=
  match s.dropWhile (· ≠ '=') with
  | [] => (s, none)
  | _ :: value => (s.takeWhile (· ≠ '='), some (String.ofList value))

/-- The letters behind a known one. -/
def cluster (known : List Switch) : List Char → Argument
  | [] => .letters known true
  | c :: rest =>
    if c = '=' ∨ c = '-' then .lettersWithValue
    else match Switch.ofLetter? c with
      | some switch => cluster (known ++ [switch]) rest
      | none => .letters known false

/-- What an argument before the separator is; `none` if it may be the beginning of several
names. -/
def ofText? (text : String) : Option Argument :=
  match text.toList with
  | '-' :: '-' :: s =>
    let (name, value) := splitValue s
    match Switch.beginningWith name with
    | [] => some (otherwise text)
    | [switch] => some (.named switch value)
    | _ => none
  | '-' :: c :: rest => match Switch.ofLetter? c with
    | some switch => some (cluster [switch] rest)
    | none => some (otherwise text)
  | _ => some (.operand text)

/-- What the arguments of a command line are. -/
def ofTexts? : List String → Option (List Argument)
  | [] => some []
  | text :: rest =>
    if text = "--" then some (.separator :: rest.map .operand)
    else do return (← ofText? text) :: (← ofTexts? rest)

end Argument

end JsonSchema.CommandLine
