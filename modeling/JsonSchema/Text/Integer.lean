/-
  Integers in free text.

  * `parseInteger?`: an optional sign and decimal digits of any script, with
    single low lines between digits and blanks around.
-/
import JsonSchema.Text.Digit
import JsonSchema.Text.Blank

namespace JsonSchema.Text

/-- Digits, most significant first, with single low lines between them; `afterDigit` says whether
a low line may come next. -/
def digitsWithUnderscores (afterDigit : Bool) (value : Nat) : List Char → Option Nat
  | [] => if afterDigit then some value else none
  | c :: rest =>
    if c = '_' then if afterDigit then digitsWithUnderscores false value rest else none
    else match digitValue? c.toNat with
      | some d => digitsWithUnderscores true (10 * value + d) rest
      | none => none

/-- The text without the characters of a class at both ends. -/
def trim (drop : Char → Bool) (s : List Char) : List Char :=
  ((s.dropWhile drop).reverse.dropWhile drop).reverse

/-- A blank around a number: the ASCII information separators are none. -/
def isMargin (c : Nat) : Bool := isAsciiBlank c || (0x80 ≤ c && isBlank c)

/-- The integer that a text spells, of at most `limit` digits. -/
def parseInteger? (limit : Nat) (s : List Char) : Option Int :=
  let s := trim (fun c => isMargin c.toNat) s
  if limit < s.countP (fun c => isDigit c.toNat) then none
  else match s with
    | '-' :: rest => (digitsWithUnderscores false 0 rest).map fun n => -(n : Int)
    | '+' :: rest => (digitsWithUnderscores false 0 rest).map Int.ofNat
    | s => (digitsWithUnderscores false 0 s).map Int.ofNat

end JsonSchema.Text
