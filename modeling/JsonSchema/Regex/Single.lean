/-
  Tests on a single character.

  * `CaseRule`: exact comparison, or comparison without regard to case, for
    ASCII letters alone or for all letters.
  * `Single`: any character, one character, or a set; `Single.accepts`
    decides.
  * `Single.ofCode`, `Single.ofItems`: the tests for a character and a set.
    What has no other case is compared exactly under every rule.
-/
import JsonSchema.Text.Alphanumeric
import JsonSchema.Text.Blank
import JsonSchema.Text.Digit
import JsonSchema.Text.LetterCase

namespace JsonSchema.Regex

/-- How letters are compared. -/
inductive CaseRule where
  | exact
  | ascii
  | unicode
deriving DecidableEq, Repr

namespace CaseRule

/-- The form under which characters are compared. -/
def fold (rule : CaseRule) (c : Nat) : Nat :=
  match rule with
  | .exact => c
  | .ascii => Text.asciiLower c
  | .unicode => Text.lower c

/-- A character that has another case under the rule. -/
def isCased (rule : CaseRule) (c : Nat) : Bool :=
  match rule with
  | .exact => false
  | .ascii => Text.isAsciiCased c
  | .unicode => Text.isCased c

/-- The folded character and those that count as the same letter. -/
def family (rule : CaseRule) (folded : Nat) : List Nat :=
  match rule with
  | .unicode => folded :: Text.lowerVariants folded
  | _ => [folded]

/-- The characters that fold to a given one. -/
def sources (rule : CaseRule) (folded : Nat) : List Nat :=
  match rule with
  | .exact => [folded]
  | .ascii =>
    if 0x41 ≤ folded && folded ≤ 0x5a then []
    else if 0x61 ≤ folded && folded ≤ 0x7a then [folded, folded - 32]
    else [folded]
  | .unicode => Text.lowerSources folded

end CaseRule

/-- A class of characters with a name. -/
inductive Category where
  | digit
  | space
  | word
deriving DecidableEq, Repr

/-- A character belongs to a class, of ASCII alone or of all characters. -/
def Category.holds (category : Category) (asciiOnly : Bool) (c : Nat) : Bool :=
  match category, asciiOnly with
  | .digit, true => Text.isAsciiDigit c
  | .digit, false => Text.isDigit c
  | .space, true => Text.isAsciiBlank c
  | .space, false => Text.isBlank c
  | .word, true => Text.isAsciiWordChar c
  | .word, false => Text.isWordChar c

/-- A part of a set of characters. -/
inductive SetItem where
  | code (c : Nat)
  | range (low high : Nat)
  | category (category : Category) (negated asciiOnly : Bool)
deriving DecidableEq, Repr

/-- The last code point that takes part in folding inside sets. -/
def foldingLimit : Nat := 0xffff

namespace SetItem

/-- A part that makes its set be compared under folding. -/
def isCased (rule : CaseRule) : SetItem → Bool
  | .code c => foldingLimit < rule.fold c || rule.isCased c
  | .range low high => foldingLimit < high ||
    (List.range' low (high + 1 - low)).any rule.isCased
  | .category .. => false

/-- A part holds a character as it stands. -/
def holds (c : Nat) : SetItem → Bool
  | .code x => c == x
  | .range low high => low ≤ c && c ≤ high
  | .category kind negated asciiOnly => kind.holds asciiOnly c != negated

/-- A part holds a folded character: one that a member folds to, or of its family.  Beyond the
folding limit a part holds the characters it names, and a range their capitals too. -/
def holdsFolded (rule : CaseRule) (c : Nat) : SetItem → Bool
  | .code x =>
    if foldingLimit < rule.fold x then c == x else (rule.family (rule.fold x)).contains c
  | .range low high =>
    (foldingLimit < high && ((low ≤ c && c ≤ high) ||
      (low ≤ Text.upper c && Text.upper c ≤ high))) ||
    (rule.family c).any fun x =>
      (rule.sources x).any fun y => low ≤ y && y ≤ high && y ≤ foldingLimit
  | item => item.holds c

end SetItem

/-- A test on one character. -/
inductive Single where
  | any
  | anyButNewline
  | literal (rule : CaseRule) (c : Nat) (negated : Bool)
  | set (rule : CaseRule) (items : List SetItem) (negated : Bool)
deriving DecidableEq, Repr

namespace Single

/-- The test for one character. -/
def ofCode (rule : CaseRule) (c : Nat) (negated : Bool) : Single :=
  .literal (if rule.isCased c then rule else .exact) c negated

/-- The test for a set. -/
def ofItems (rule : CaseRule) (items : List SetItem) (negated : Bool) : Single :=
  .set (if items.any (·.isCased rule) then rule else .exact) items negated

/-- A character belongs to the family of another. -/
def sameLetter (rule : CaseRule) (expected c : Nat) : Bool :=
  (rule.family (rule.fold expected)).contains (rule.fold c)

/-- A set holds a character. -/
def setHolds (rule : CaseRule) (items : List SetItem) (c : Nat) : Bool :=
  match rule with
  | .exact => items.any (·.holds c)
  | rule => items.any (·.holdsFolded rule (rule.fold c))

/-- The test accepts a character. -/
def accepts : Single → Char → Bool
  | .any, _ => true
  | .anyButNewline, c => c != '\n'
  | .literal rule expected negated, c => sameLetter rule expected c.toNat != negated
  | .set rule items negated, c => setHolds rule items c.toNat != negated

end Single

end JsonSchema.Regex
