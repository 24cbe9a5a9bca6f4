/-
  Files of JSON text.

  * `normalize`: the shortest spelling of a file name that needs no look at
    the files: without `.` and without empty parts.
  * `Content`: what a file name leads to; `Content.among` finds it in a
    directory that holds given files and nothing else.
  * `load`: the value that the bytes of a file hold, or why they hold none.
    Whatever ends a line in the file counts as one line feed.
-/
import JsonSchema.Json.Reader
import JsonSchema.Pointer

namespace JsonSchema.CommandLine

/-! ## Names -/

/-- The slashes at the beginning of a normalized name: two are kept, more count as one. -/
def leadingSlashes (name : List Char) : String :=
  match (name.takeWhile (· = '/')).length with
  | 0 => ""
  | 2 => "//"
  | _ => "/"

/-- The parts of a name that lead somewhere. -/
def nameParts (name : List Char) : List String :=
  ((Pointer.splitSlashes name).map String.ofList).filter fun part => part ≠ "" && part ≠ "."

/-- A file name without detours. -/
def normalize (name : String) : String :=
  let whole := leadingSlashes name.toList ++ "/".intercalate (nameParts name.toList)
  if whole = "" then "." else whole

/-! ## Contents -/

/-- What a file name leads to. -/
inductive Content where
  | missing
  | directory
  | file (bytes : List UInt8)

/-- Where a way leads that starts at a place in a tree of directories, given the places that are
directories.  It does not lead out of the tree. -/
def follow? (directories : List (List String)) (place : List String) :
    (way : List String) → Option (List String)
  | [] => some place
  | part :: rest =>
    if !directories.contains place then none
    else if part ≠ ".." then follow? directories (place ++ [part]) rest
    else if place = [] then none
    else follow? directories place.dropLast rest

/-- What a name leads to in a directory that holds files; what is above it holds nothing else. -/
def Content.among (files : List (String × List UInt8)) (name : String) : Content :=
  let way := nameParts name.toList
  let files := files.map fun (name, bytes) => (nameParts name.toList, bytes)
  let directories := [] :: files.flatMap fun (place, _) =>
    (List.range place.length).map place.take
  if way.all (· = "..") then .directory
  else if name.startsWith "/" then .missing
  else match follow? directories [] way with
    | some place => match files.lookup place with
      | some bytes => .file bytes
      | none => if directories.contains place then .directory else .missing
    | none => .missing

/-- Why a file holds no value. -/
inductive LoadError where
  | missing
  | directory
  | undecodable (bytes : List Nat) (defect : Text.Utf8.Malformed)
  | unreadable (text : List Char) (e : ReadError)

/-- The text with a line feed for each end of a line: a carriage return, with or without a line
feed behind it, or a line feed.  `afterReturn` says whether a carriage return was read last. -/
def unifyLineEnds (afterReturn : Bool) (done : List Char) : List Char → List Char
  | [] => done.reverse
  | c :: rest =>
    if c = '\r' then unifyLineEnds true ('\n' :: done) rest
    else if c = '\n' && afterReturn then unifyLineEnds false done rest
    else unifyLineEnds false (c :: done) rest

/-- The value in the bytes of a file. -/
def decode (bytes : List Nat) : Except LoadError Json := do
  let text ← (Text.Utf8.decode bytes).mapError (.undecodable bytes)
  let text := unifyLineEnds false [] text
  (Json.read text).mapError (.unreadable text)

/-- The value that a file holds. -/
def load : Content → Except LoadError Json
  | .missing => .error .missing
  | .directory => .error .directory
  | .file bytes => decode (bytes.map UInt8.toNat)

end JsonSchema.CommandLine
