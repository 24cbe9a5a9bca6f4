/-
  UTF-8, read from bytes that may be malformed.

  * `Utf8.read`: what stands at the beginning of a sequence of bytes, a
    character or one of three defects with the bytes that it covers (the
    longest beginning of a character, so one replacement for each).
  * `Utf8.decodeLossy`: every defect becomes the replacement character.
  * `Utf8.decode`: the text, or the first defect and where it is.
-/

namespace JsonSchema.Text.Utf8

/-- What is wrong with malformed bytes. -/
inductive Defect where
  | invalidStart
  | invalidContinuation
  | unexpectedEnd
deriving DecidableEq, Repr

/-- The name of a defect. -/
def Defect.text : Defect → String
  | .invalidStart => "invalid start byte"
  | .invalidContinuation => "invalid continuation byte"
  | .unexpectedEnd => "unexpected end of data"

/-- What a sequence of bytes begins with, and how many bytes that takes. -/
inductive Reading where
  | char (c : Char) (size : Nat)
  | defect (d : Defect) (size : Nat)
deriving DecidableEq

/-- How many bytes are read. -/
def Reading.size : Reading → Nat
  | .char _ n => n
  | .defect _ n => n

/-- The character that stands in for malformed bytes. -/
def replacement : Char := '\uFFFD'

/-- The bits that a continuation byte adds. -/
def payload (b : Nat) : Nat := b % 0x40

/-- A continuation byte within bounds that the first byte of the character sets. -/
def continues (low high b : Nat) : Bool := low ≤ b && b ≤ high

/-- The bounds of the second byte: they rule out overlong forms, surrogates and what lies beyond
the last code point. -/
def secondBounds (first : Nat) : Nat × Nat :=
  if first = 0xe0 then (0xa0, 0xbf)
  else if first = 0xed then (0x80, 0x9f)
  else if first = 0xf0 then (0x90, 0xbf)
  else if first = 0xf4 then (0x80, 0x8f)
  else (0x80, 0xbf)

/-- The bytes after the first: `wanted` more are needed, `size` have been read. -/
def readTail (code : Nat) (wanted size : Nat) (bounds : Nat × Nat) : List Nat → Reading
  | [] => if wanted = 0 then .char (Char.ofNat code) size else .defect .unexpectedEnd size
  | b :: rest =>
    if wanted = 0 then .char (Char.ofNat code) size
    else if continues bounds.1 bounds.2 b then
      readTail (code * 0x40 + payload b) (wanted - 1) (size + 1) (0x80, 0xbf) rest
    else .defect .invalidContinuation size

/-- What a sequence of bytes that begins with `first` begins with. -/
def read (first : Nat) (rest : List Nat) : Reading :=
  if first < 0x80 then .char (Char.ofNat first) 1
  else if first < 0xc2 then .defect .invalidStart 1
  else if first < 0xe0 then readTail (first % 0x20) 1 1 (0x80, 0xbf) rest
  else if first < 0xf0 then readTail (first % 0x10) 2 1 (secondBounds first) rest
  else if first < 0xf5 then readTail (first % 0x08) 3 1 (secondBounds first) rest
  else .defect .invalidStart 1

/-- Decodes from a point where `skip` bytes belong to what was read before. -/
def decodeLossyFrom (skip : Nat) : List Nat → List Char
  | [] => []
  | b :: rest => match skip with
    | skip + 1 => decodeLossyFrom skip rest
    | 0 => match read b rest with
      | .char c size => c :: decodeLossyFrom (size - 1) rest
      | .defect _ size => replacement :: decodeLossyFrom (size - 1) rest

/-- The text of bytes, with one replacement character for each defect. -/
def decodeLossy (bytes : List Nat) : List Char := decodeLossyFrom 0 bytes

/-- A defect, and the positions of the first byte it covers and of the one after the last. -/
structure Malformed where
  defect : Defect
  first : Nat
  stop : Nat
deriving DecidableEq

/-- Decodes from a position, collecting the characters in reverse. -/
def decodeFrom (position skip : Nat) (done : List Char) : List Nat → Except Malformed (List Char)
  | [] => .ok done.reverse
  | b :: rest => match skip with
    | skip + 1 => decodeFrom (position + 1) skip done rest
    | 0 => match read b rest with
      | .char c size => decodeFrom (position + 1) (size - 1) (c :: done) rest
      | .defect d size => .error ⟨d, position, position + size⟩

/-- The text of bytes, if they are well formed. -/
def decode (bytes : List Nat) : Except Malformed (List Char) := decodeFrom 0 0 [] bytes

/-- The report of a defect among the given bytes. -/
def Malformed.message (bytes : List Nat) (m : Malformed) : String :=
  let byte := String.ofList ((Nat.toDigits 16 (bytes[m.first]?.getD 0)))
  let start := toString m.first
  let last := toString (m.stop - 1)
  if m.stop = m.first + 1 then
    "'utf-8' codec can't decode byte 0x" ++ byte ++ " in position " ++ start ++ ": " ++
      m.defect.text
  else
    "'utf-8' codec can't decode bytes in position " ++ start ++ "-" ++ last ++ ": " ++
      m.defect.text

end JsonSchema.Text.Utf8
