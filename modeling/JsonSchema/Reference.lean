/-
  References into a document.

  * `Members.walk`: follows segments from an object down to an object.  A
    segment that names an array takes the next one as an index.
  * `resolve`: what a reference turns out to be: another document, nothing (and
    at which segment the walk ended), or an object of the document.
  * `Json.references`: all references that are written anywhere in a value.
-/
import JsonSchema.Json.Reader
import JsonSchema.Pointer

namespace JsonSchema

/-- What a reference turns out to be. -/
inductive Resolution where
  | remote
  | notFound (segment : String)
  | found (target : Members)

/-- Why a reference cannot even be looked up. -/
inductive LookupError where
  /-- an index of too many digits -/
  | indexTooLong (digits : Nat)
  /-- there is no document to look into -/
  | noDocument
deriving DecidableEq, Repr

/-- The digits of a segment that is an index. -/
def indexDigits? (segment : String) : Option (List Char) :=
  let digits := segment.toList
  if digits ≠ [] ∧ digits.all isJsonDigit then some digits else none

/-- The object at an index of an array. -/
def objectAt? (items : List Json) (index : Nat) : Option Members :=
  items[index]?.bind (·.members?)

/-- Follows segments down from an object. -/
def Members.walk (current : Members) : List String → Except LookupError Resolution
  | [] => .ok (.found current)
  | segment :: rest => match Members.get? current segment with
    | some (.object members) => Members.walk members rest
    | some (.array items) => match rest with
      | [] => .ok (.notFound segment)
      | next :: rest => match indexDigits? next with
        | none => .ok (.notFound segment)
        | some digits =>
          if digitLimit < digits.length then .error (.indexTooLong digits.length)
          else match objectAt? items (digitsValue digits) with
            | some members => Members.walk members rest
            | none => .ok (.notFound segment)
    | _ => .ok (.notFound segment)

/-- What a reference turns out to be, seen from a document. -/
def resolve (document : Option Members) (reference : String) : Except LookupError Resolution :=
  match Pointer.fragmentParts? reference, document with
  | none, _ => .ok .remote
  | some segments, some members => members.walk segments
  | some [], none => .ok (.notFound "")
  | some _, none => .error .noDocument

mutual

/-- All references that are written in a value, in the order of the text. -/
def Json.references : Json → List String
  | .array items => Json.referencesOfItems items
  | .object members => Members.references members
  | _ => []
termination_by structural v => v

/-- The references in the items of an array. -/
def Json.referencesOfItems : List Json → List String
  | [] => []
  | v :: rest => v.references ++ Json.referencesOfItems rest
termination_by structural items => items

/-- The references in the members of an object. -/
def Members.references : List (String × Json) → List String
  | [] => []
  | (key, v) :: rest =>
    (if key = "$ref" then v.string?.toList else []) ++ v.references ++ Members.references rest
termination_by structural members => members

end

end JsonSchema
