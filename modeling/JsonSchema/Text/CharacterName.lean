/-
  Names of characters (Unicode 14.0).

  * `CharacterName.find?`: the code point of a name or of an alias.  Letters
    of ASCII may be written small or capital.
  * `syllable?`, `ideograph?`: the names that follow a rule, those of Hangul
    syllables and of unified ideographs.  They are written in capitals only.
  * `Reading`: how the tables of the other names are read.

  In a table each name says how many characters it keeps of the name before
  it, in small letters that count from `a` for none in base 26, and then has
  its other characters.  It belongs to the code point behind that of the name
  before it, unless `=` and a code point in hexadecimal digits stand in front.
  Line breaks mean nothing.
-/
import JsonSchema.Text.CharacterName.Basic
import JsonSchema.Text.CharacterName.Supplementary
import JsonSchema.Text.CharacterName.Alias
import JsonSchema.Text.CodePoints
import JsonSchema.Text.Percent

namespace JsonSchema.Text.CharacterName

/-! ## Names by rule -/

/-- The parts that the name of a syllable begins with, in order. -/
def leadParts : List String :=
  ["G", "GG", "N", "D", "DD", "R", "M", "B", "BB", "S", "SS", "", "J", "JJ", "C", "K", "T", "P",
    "H"]

/-- The parts in the middle of the name of a syllable, in order. -/
def vowelParts : List String :=
  ["A", "AE", "YA", "YAE", "EO", "E", "YEO", "YE", "O", "WA", "WAE", "OE", "YO", "U", "WEO", "WE",
    "WI", "YU", "EU", "YI", "I"]

/-- The parts that the name of a syllable ends with, in order. -/
def trailParts : List String :=
  ["", "G", "GG", "GS", "N", "NJ", "NH", "D", "L", "LG", "LM", "LB", "LS", "LT", "LP", "LH", "M",
    "B", "BS", "S", "SS", "NG", "J", "C", "K", "T", "P", "H"]

/-- The longest part that a text begins with, as its index, and what follows it. -/
def takePart? (parts : List String) (text : List Char) : Option (Nat × List Char) :=
  let fitting := parts.zipIdx.filter fun (part, _) => part.toList.isPrefixOf text
  let longer (a b : String × Nat) := if a.1.length < b.1.length then b else a
  match fitting with
  | [] => none
  | first :: rest =>
    let (part, index) := rest.foldl longer first
    some (index, text.drop part.length)

/-- The first syllable. -/
def firstSyllable : Nat := 0xac00

/-- The code point of a Hangul syllable, from what its name tells of its sound. -/
def syllable? (sound : List Char) : Option Nat := do
  let (lead, rest) ← takePart? leadParts sound
  let (vowel, rest) ← takePart? vowelParts rest
  let (trail, rest) ← takePart? trailParts rest
  if rest.isEmpty then
    some (firstSyllable + (lead * vowelParts.length + vowel) * trailParts.length + trail)
  else none

/-- The unified ideographs. -/
def unifiedIdeographs : CodePoints := .ofBounds #[
  0x3400, 0x4dc0, 0x4e00, 0xa000, 0x20000, 0x2a6e0, 0x2a700, 0x2b739, 0x2b740, 0x2b81e,
  0x2b820, 0x2cea2, 0x2ceb0, 0x2ebe1, 0x30000, 0x3134b]

/-- The number that hexadecimal digits spell. -/
def hexNumber (digits : List Char) : Nat :=
  digits.foldl (fun n c => 16 * n + (Percent.hexValue? c).getD 0) 0

/-- The code point of a unified ideograph, from the four or five digits in its name. -/
def ideograph? (digits : List Char) : Option Nat :=
  let code := hexNumber digits
  if (digits.length = 4 ∨ digits.length = 5) ∧
      digits.all (fun c => (Percent.hexValue? c).isSome && !c.isLower) ∧
      unifiedIdeographs.contains code then some code
  else none

/-! ## Names by table -/

/-- What a table is being read at. -/
inductive Phase where
  /-- a code point -/
  | code
  /-- how much is kept of the last name -/
  | kept
  /-- the characters of a name -/
  | name
deriving DecidableEq, Repr

/-- How far a table has been read: the latest code point, count and name, the name in reverse. -/
structure Reading where
  phase : Phase
  code : Nat
  kept : Nat
  name : List Char

namespace Reading

/-- Nothing has been read. -/
def start : Reading := ⟨.code, 0, 0, []⟩

/-- After one more character. -/
def step (r : Reading) (c : Char) : Reading :=
  if c = '\n' then r
  else if c = '=' then { r with phase := .code, code := 0, kept := 0 }
  else if c.isLower then
    let digit := c.toNat - 'a'.toNat
    match r.phase with
    | .code => { r with phase := .kept, kept := digit }
    | .kept => { r with kept := 26 * r.kept + digit }
    | .name => { r with phase := .kept, code := r.code + 1, kept := digit }
  else match r.phase with
    | .code => { r with code := 16 * r.code + (Percent.hexValue? c).getD 0 }
    | .kept => { r with phase := .name, name := c :: r.name.drop (r.name.length - r.kept) }
    | .name => { r with name := c :: r.name }

/-- A name is complete before a character that begins the next one. -/
def isComplete (r : Reading) (next : Char) : Bool :=
  r.phase == .name && (next == '=' || next.isLower)

/-- The code point of a name, which is given in reverse, in what is left of a table. -/
def find? (name : List Char) (r : Reading) : List Char → Option Nat
  | [] => if r.name = name then some r.code else none
  | c :: rest =>
    if r.isComplete c ∧ r.name = name then some r.code else find? name (r.step c) rest

end Reading

/-- The code point of a name in a table. -/
def inTable? (table : String) (name : List Char) : Option Nat :=
  Reading.start.find? name.reverse table.toList

/-- What follows some words at the beginning of a text. -/
def behind? (words : String) (text : List Char) : Option (List Char) :=
  if words.toList.isPrefixOf text then some (text.drop words.length) else none

/-- The code point that has a name. -/
def find? (name : List Char) : Option Nat :=
  match behind? "HANGUL SYLLABLE " name, behind? "CJK UNIFIED IDEOGRAPH-" name with
  | some sound, _ => syllable? sound
  | none, some digits => ideograph? digits
  | none, none =>
    let capitals := name.map Char.toUpper
    [basicNames, supplementaryNames, aliases].findSome? fun table => inTable? table capitals

end JsonSchema.Text.CharacterName
