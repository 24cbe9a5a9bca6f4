/-
  IPv6 addresses.

  * `Ipv6.accepts`: eight groups of one to four hexadecimal digits with colons
    between, of which one run of at least one zero group may be left out, and
    the last two groups may be a dotted quad.
-/
import JsonSchema.Text.Percent

namespace JsonSchema.Ipv6

/-- A decimal digit. -/
def isDecimal (c : Char) : Bool := '0' ≤ c && c ≤ '9'

/-- How many bytes an address has. -/
def size : Nat := 16

/-- The rest of a dotted quad, of which `octets` parts have begun; `part` is the value of the
current part, if a digit of it has been read.  A part has no leading zero. -/
def quadRest (octets : Nat) (part : Option Nat) : List Char → Bool
  | [] => octets == 4 && part.isSome
  | c :: rest =>
    if isDecimal c then
      let d := c.toNat - '0'.toNat
      match part with
      | none => octets < 4 && quadRest (octets + 1) (some d) rest
      | some n => n ≠ 0 && 10 * n + d ≤ 255 && quadRest octets (some (10 * n + d)) rest
    else if c = '.' then part.isSome && octets < 4 && quadRest octets none rest
    else false

/-- Four decimal parts with dots between, without leading zeros. -/
def isQuad (s : List Char) : Bool := quadRest 0 none s

/-- The address is complete: all bytes are there, or a gap stands for some. -/
def isComplete (bytes : Nat) (gap : Bool) : Bool := if gap then bytes < size else bytes == size

/-- The rest of an address, of which `bytes` bytes have been read, perhaps with a gap; `group` is
the current group in reverse. -/
def rest (bytes : Nat) (gap : Bool) (group : List Char) : List Char → Bool
  | [] =>
    if group.isEmpty then isComplete bytes gap
    else bytes + 2 ≤ size && isComplete (bytes + 2) gap
  | c :: more =>
    if (Text.Percent.hexValue? c).isSome then
      group.length < 4 && rest bytes gap (c :: group) more
    else if c = ':' then
      if group.isEmpty then !gap && rest bytes true [] more
      else !more.isEmpty && bytes + 2 ≤ size && rest (bytes + 2) gap [] more
    else c = '.' && bytes + 4 ≤ size && isQuad (group.reverse ++ '.' :: more) &&
      isComplete (bytes + 4) gap

/-- The text is an IPv6 address.  A colon at the beginning has another one behind it. -/
def accepts (text : String) : Bool :=
  match text.toList with
  | [] => false
  | ':' :: ':' :: more => rest 0 false [] (':' :: more)
  | ':' :: _ => false
  | s => rest 0 false [] s

end JsonSchema.Ipv6
