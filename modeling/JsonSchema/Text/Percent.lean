/-
  Percent-encoded text.

  * `Percent.toBytes`: in a run of ASCII text, `%` and two hexadecimal digits
    are one byte; any other `%` stands for itself.
  * `Percent.decode`: the bytes of each run of ASCII text are read as UTF-8,
    with a replacement character for each malformed part; other characters
    stay, and end a run.
-/
import JsonSchema.Text.Utf8

namespace JsonSchema.Text.Percent

/-- The value of a hexadecimal digit. -/
def hexValue? (c : Char) : Option Nat :=
  if '0' ≤ c ∧ c ≤ '9' then some (c.toNat - 0x30)
  else if 'a' ≤ c ∧ c ≤ 'f' then some (c.toNat - 0x61 + 10)
  else if 'A' ≤ c ∧ c ≤ 'F' then some (c.toNat - 0x41 + 10)
  else none

/-- The bytes that a run of ASCII text stands for. -/
def toBytes : List Char → List Nat
  | '%' :: high :: low :: rest => match hexValue? high, hexValue? low with
    | some h, some l => (16 * h + l) :: toBytes rest
    | _, _ => '%'.toNat :: toBytes (high :: low :: rest)
  | c :: rest => c.toNat :: toBytes rest
  | [] => []
termination_by s => s.length

/-- A character of ASCII. -/
def isAscii (c : Char) : Bool := c.toNat < 0x80

/-- Decodes the text, of which `run` is the reversed run of ASCII that has been read last. -/
def decodeFrom (run : List Char) : List Char → List Char
  | [] => Utf8.decodeLossy (toBytes run.reverse)
  | c :: rest =>
    if isAscii c then decodeFrom (c :: run) rest
    else Utf8.decodeLossy (toBytes run.reverse) ++ c :: decodeFrom [] rest

/-- The text with its percent escapes resolved. -/
def decode (s : List Char) : List Char := decodeFrom [] s

end JsonSchema.Text.Percent
