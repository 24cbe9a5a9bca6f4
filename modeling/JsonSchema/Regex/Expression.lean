/-
  Whole regular expressions.

  * `Expression`: a tree, together with what its form tells of all its matches:
    a test on the first character, and the fewest characters.
  * `Expression.searches`: a match somewhere in a text.  It is looked for only
    where the test is passed and the text is long enough.

  The test belongs to the whole expression: where the tree begins with classes
  of characters, it takes them under the flags of the whole expression, also if
  they stand in a group with other flags.
-/
import JsonSchema.Regex.Matcher

namespace JsonSchema.Regex

/-- A part of a set, with its class under other flags. -/
def SetItem.under (asciiOnly : Bool) : SetItem → SetItem
  | .category kind negated _ => .category kind negated asciiOnly
  | item => item

/-- A part of a set that is compared as it stands. -/
def SetItem.isPlain (rule : CaseRule) : SetItem → Bool
  | .code c => !rule.isCased c
  | .range low high => !(SetItem.range low high).isCased rule
  | .category .. => true

/-- The test as one on the first character of a match, if letter case has no part in it. -/
def Single.lead? (asciiOnly : Bool) : Single → Option Single
  | .literal .exact c false => some (.literal .exact c false)
  | .set rule items negated =>
    if items.all (·.isPlain rule) then some (.set .exact (items.map (·.under asciiOnly)) negated)
    else none
  | _ => none

/-- A test on the first character of a match, if the tree begins with one. -/
def Node.lead? (asciiOnly : Bool) : Node → Option Single
  | .single test => test.lead? asciiOnly
  | .sequence first _ => first.lead? asciiOnly
  | .capture _ body => body.lead? asciiOnly
  | .scoped body => body.lead? asciiOnly
  | _ => none

/-- A regular expression and what its form tells of its matches. -/
structure Expression where
  root : Node
  /-- a test that the first character of a match passes -/
  lead : Option Single
  /-- the fewest characters of a match -/
  least : Nat

namespace Expression

/-- The expression of a tree, given the widths of its groups and the flag of the whole. -/
def ofNode (asciiOnly : Bool) (groups : List (Nat × Width)) (root : Node) : Expression :=
  ⟨root, root.lead? asciiOnly, (root.width groups).least⟩

/-- A match begins at a position. -/
def matchesAt (e : Expression) (c : Cursor) : Bool :=
  match e.lead with
  | some test => (c.advance? test.accepts).isSome && e.root.matchesAt c
  | none => e.root.matchesAt c

/-- A match begins at one of the next positions. -/
def searchesFrom (e : Expression) : (starts : Nat) → Cursor → Bool
  | 0, _ => false
  | starts + 1, c => e.matchesAt c || match c.advance? fun _ => true with
    | some next => searchesFrom e starts next
    | none => false

/-- At how many positions a match may begin in a text of a length.  Without a test on the first
character these are the positions up to the first that leaves no room for the fewest characters. -/
def starts (e : Expression) (length : Nat) : Nat :=
  if e.lead.isSome then length else length + 2 - max 1 e.least

/-- A match somewhere in a text. -/
def searches (e : Expression) (text : List Char) : Bool :=
  e.least ≤ text.length && e.searchesFrom (e.starts text.length) (.start text)

end Expression

end JsonSchema.Regex
