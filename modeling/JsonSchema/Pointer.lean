/-
  JSON pointers (RFC 6901).

  * `Pointer.ofParts`, `Pointer.toParts`: between the segments of a location
    and the text of a pointer.  The empty text is the whole document; any other
    begins with a slash.
  * `Pointer.escape`, `Pointer.unescape`: a tilde and a slash inside a segment.
  * `Pointer.fragmentParts?`: the segments of a reference into the same
    document, such as `#/definitions/a`, after percent decoding.
-/
import JsonSchema.Text.Percent

namespace JsonSchema.Pointer

/-! ## Segments -/

/-- Replaces a character by two. -/
def expand (c first second : Char) (s : List Char) : List Char :=
  s.flatMap fun x => if x = c then [first, second] else [x]

/-- Replaces two characters by one, from left to right. -/
def contract (first second result : Char) : List Char → List Char
  | a :: b :: rest =>
    if a = first ∧ b = second then result :: contract first second result rest
    else a :: contract first second result (b :: rest)
  | s => s
termination_by s => s.length

/-- A segment inside a pointer: the tilde is escaped before the slash, as the escape of the slash
holds a tilde. -/
def escape (segment : String) : String :=
  String.ofList (expand '/' '~' '1' (expand '~' '~' '0' segment.toList))

/-- A segment out of a pointer: the reverse of `escape`, in the reverse order. -/
def unescape (segment : String) : String :=
  String.ofList (contract '~' '0' '~' (contract '~' '1' '/' segment.toList))

/-- The parts of a text between slashes. -/
def splitSlashes : List Char → List (List Char)
  | [] => [[]]
  | c :: rest =>
    if c = '/' then [] :: splitSlashes rest
    else match splitSlashes rest with
      | part :: parts => (c :: part) :: parts
      | [] => [[c]]

/-! ## Pointers -/

/-- The pointer to the location with the given segments. -/
def ofParts (parts : List String) : String :=
  String.join (parts.map fun part => "/" ++ escape part)

/-- A text that is no pointer. -/
structure Invalid where
  text : String
deriving DecidableEq

/-- The report of an invalid pointer. -/
def Invalid.message (e : Invalid) : String := "Invalid JSON Pointer: " ++ e.text

/-- The segments of a pointer. -/
def toParts (pointer : String) : Except Invalid (List String) :=
  match pointer.toList with
  | [] => .ok []
  | '/' :: rest => .ok ((splitSlashes rest).map fun part => unescape (String.ofList part))
  | _ => .error ⟨pointer⟩

/-- The segments of a reference into the document itself; `none` for any other reference. -/
def fragmentParts? (reference : String) : Option (List String) :=
  match reference.toList with
  | ['#'] => some []
  | '#' :: '/' :: rest => (toParts (String.ofList (Text.Percent.decode ('/' :: rest)))).toOption
  | _ => none

end JsonSchema.Pointer
