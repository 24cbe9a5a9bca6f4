/-
  IPv4 addresses as dotted quads.

  * `Ipv4.octet`: one to three digits of value at most 255; leading zeros are
    allowed.
  * `Ipv4.address`: four of them with dots between, as a regular expression.
  * `Ipv4.accepts`: the whole text is an address.
-/
import JsonSchema.Regex.Matcher

namespace JsonSchema.Ipv4

open Regex

/-- One character. -/
def char (c : Char) : Node := .single (.literal .exact c.toNat false)

/-- A digit between two. -/
def digit (low high : Char) : Node := .single (.set .exact [.range low.toNat high.toNat] false)

/-- At most once, and rather once. -/
def optional (node : Node) : Node := .repeated .greedy 0 (some 1) node

/-- A part of an address: 250 to 255, 200 to 249, or up to 199 with leading zeros. -/
def octet : Node :=
  .alternatives [
    .concat [char '2', char '5', digit '0' '5'],
    .concat [char '2', digit '0' '4', digit '0' '9'],
    .concat [optional (digit '0' '1'), digit '0' '9', optional (digit '0' '9')]]

/-- Four parts with dots between. -/
def address : Node :=
  .concat [octet, char '.', octet, char '.', octet, char '.', octet]

/-- The text is a dotted quad, with nothing before or behind it. -/
def accepts (text : String) : Bool := address.matchesAll text.toList

end JsonSchema.Ipv4
