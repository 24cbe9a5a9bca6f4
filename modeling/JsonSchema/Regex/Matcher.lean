/-
  Matching of regular expressions by backtracking.

  * `Cursor`: a position in a text, as what is behind it and what is ahead.
  * `Marks`: where groups have begun and ended.
  * `Node.run`: the first way to match a tree for which the continuation
    succeeds, in the order of the tree: branches from left to right, greedy
    repetitions from the most to the least, lazy ones the other way round.
  * `Node.matchesAll`: a match of a whole text.

  A repetition goes on after an iteration only if that one moved the cursor.

  An attempt that fails leaves its marks behind, and only where there is
  another way to try are they taken back (`Marks.restore`): inside a repetition
  all of them; elsewhere only those of groups that come after all groups marked
  before, while a group that was marked already keeps its latest marks.

  Matching always ends with an answer.  There is no bound on the positions and
  marks that are kept to go back to, and no expression for which a matcher would
  break down.
-/
import JsonSchema.Regex.Node

namespace JsonSchema.Regex

/-! ## Positions -/

/-- A position in a text: `before` is in reverse. -/
structure Cursor where
  position : Nat
  before : List Char
  after : List Char
deriving DecidableEq, Repr

namespace Cursor

/-- The beginning of a text. -/
def start (text : List Char) : Cursor := ⟨0, [], text⟩

/-- One character on, if the next one passes a test. -/
def advance? (c : Cursor) (accept : Char → Bool) : Option Cursor :=
  match c.after with
  | [] => none
  | x :: rest => if accept x then some ⟨c.position + 1, x :: c.before, rest⟩ else none

/-- Past the characters of what is ahead that pass a test, within a limit if there is one. -/
def skipFrom (accept : Char → Bool) (position : Nat) (before : List Char) :
    (limit : Option Nat) → (after : List Char) → Cursor
  | _, [] => ⟨position, before, []⟩
  | limit, x :: rest =>
    if limit = some 0 || !accept x then ⟨position, before, x :: rest⟩
    else skipFrom accept (position + 1) (x :: before) (limit.map (· - 1)) rest

/-- Past the next characters that pass a test, within a limit if there is one. -/
def skip (accept : Char → Bool) (limit : Option Nat) (c : Cursor) : Cursor :=
  skipFrom accept c.position c.before limit c.after

/-- Some characters back. -/
def back? : Nat → Cursor → Option Cursor
  | 0, c => some c
  | n + 1, c => match c.before with
    | [] => none
    | x :: rest => back? n ⟨c.position - 1, rest, x :: c.after⟩

/-- Past the characters of a text, compared under a rule. -/
def pass? (rule : CaseRule) : List Char → Cursor → Option Cursor
  | [], c => some c
  | x :: rest, c =>
    match c.advance? fun y => rule.fold y.toNat == rule.fold x.toNat with
    | some c => pass? rule rest c
    | none => none

end Cursor

/-- A character of a word, or none where the text ends. -/
def isWordAt (asciiOnly : Bool) : List Char → Bool
  | [] => false
  | c :: _ => Category.word.holds asciiOnly c.toNat

/-- A condition on a position holds. -/
def Anchor.holds (c : Cursor) : Anchor → Bool
  | .textStart => c.before.isEmpty
  | .lineStart everyLine => c.before.isEmpty || (everyLine && c.before.head? == some '\n')
  | .textEnd => c.after.isEmpty
  | .lineEnd everyLine =>
    c.after.isEmpty || c.after == ['\n'] || (everyLine && c.after.head? == some '\n')
  | .wordBoundary asciiOnly negated =>
    !(c.before.isEmpty && c.after.isEmpty) &&
      ((isWordAt asciiOnly c.before != isWordAt asciiOnly c.after) != negated)

/-! ## Groups -/

/-- Where groups have begun and ended: two entries for each group, counted from one, up to the
latest of all that have been marked. -/
structure Marks where
  entries : List (Option Cursor)
deriving DecidableEq, Repr

/-- Sets an entry of a list; entries that are missing before it are none. -/
def setEntry {α : Type} (value : α) : Nat → List (Option α) → List (Option α)
  | 0, [] => [some value]
  | 0, _ :: rest => some value :: rest
  | n + 1, [] => none :: setEntry value n []
  | n + 1, entry :: rest => entry :: setEntry value n rest

namespace Marks

/-- No group has been marked. -/
def empty : Marks := ⟨[]⟩

/-- A group begins. -/
def opened (m : Marks) (group : Nat) (c : Cursor) : Marks :=
  ⟨setEntry c (2 * (group - 1)) m.entries⟩

/-- A group ends. -/
def closed (m : Marks) (group : Nat) (c : Cursor) : Marks :=
  ⟨setEntry c (2 * (group - 1) + 1) m.entries⟩

/-- The text that a group has matched; there is none if its end was marked before its beginning. -/
def text? (m : Marks) (group : Nat) : Option (List Char) :=
  match m.entries[2 * (group - 1)]?, m.entries[2 * (group - 1) + 1]? with
  | some (some first), some (some last) =>
    if last.position < first.position then none
    else some (first.after.take (last.position - first.position))
  | _, _ => none

/-- The marks after a failure, for another way to go on from `saved`. -/
def restore (repeating : Bool) (saved failed : Marks) : Marks :=
  if repeating then saved else ⟨failed.entries.take saved.entries.length⟩

end Marks

/-- A position together with the marks of the groups. -/
structure State where
  cursor : Cursor
  marks : Marks
deriving DecidableEq, Repr

/-! ## Matching -/

/-- What comes of an attempt: the state at its end, or the marks that a failure leaves. -/
inductive Outcome where
  | matched (s : State)
  | failed (marks : Marks)
deriving DecidableEq, Repr

/-- The attempt has succeeded. -/
def Outcome.isMatch : Outcome → Bool
  | .matched _ => true
  | .failed _ => false

/-- What remains to be matched. -/
abbrev Continuation := State → Outcome

/-- A way to match something and go on. -/
abbrev Matcher := State → Continuation → Outcome

namespace Matcher

/-! ### Repetition of one character -/

/-- Goes on from a cursor and, when that fails, from up to `spare` characters before it. -/
def givingBack (repeating : Bool) (saved : Marks) (k : Continuation) :
    (spare : Nat) → Cursor → Marks → Outcome
  | spare, c, marks => match k ⟨c, marks⟩ with
    | .matched s => .matched s
    | .failed left =>
      let left := saved.restore repeating left
      match spare, c.back? 1 with
      | spare + 1, some c => givingBack repeating saved k spare c left
      | _, _ => .failed left

/-- Goes on from a cursor and, when that fails, past up to `room` characters more. -/
def takingOn (repeating : Bool) (accept : Char → Bool) (saved : Marks) (k : Continuation) :
    (room : Nat) → Cursor → Marks → Outcome
  | room, c, marks => match k ⟨c, marks⟩ with
    | .matched s => .matched s
    | .failed left =>
      let left := saved.restore repeating left
      match room, c.advance? accept with
      | room + 1, some c => takingOn repeating accept saved k room c left
      | _, _ => .failed left

/-- A repetition of one character. -/
def characters (repeating : Bool) (greed : Greed) (least : Nat) (most : Option Nat)
    (accept : Char → Bool) : Matcher := fun s k =>
  let last := s.cursor.skip accept (if greed = .lazy then some least else most)
  let count := last.position - s.cursor.position
  if count < least then .failed s.marks
  else match greed with
    | .greedy => givingBack repeating s.marks k (count - least) last s.marks
    | .lazy =>
      let room := most.getD (count + last.after.length) - least
      takingOn repeating accept s.marks k room last s.marks
    | .possessive => k { s with cursor := last }

/-! ### Repetition of anything else -/

/-- A number of times. -/
def times (body : Matcher) : Nat → Matcher
  | 0, s, k => k s
  | n + 1, s, k => body s fun s => times body n s k

/-- Up to a number of times, the more the better; `last` is where the last iteration began. -/
def greedy (body : Matcher) : Nat → (last : Option Nat) → Matcher
  | 0, _, s, k => k s
  | n + 1, last, s, k =>
    if last = some s.cursor.position then k s
    else match body s fun t => greedy body n (some s.cursor.position) t k with
      | .matched t => .matched t
      | .failed _ => k s

/-- Up to a number of times, the fewer the better. -/
def lazy (repeating : Bool) (body : Matcher) : Nat → (last : Option Nat) → Matcher
  | n, last, s, k => match k s with
    | .matched t => .matched t
    | .failed left =>
      let left := s.marks.restore repeating left
      match n with
      | 0 => .failed left
      | n + 1 =>
        if last = some s.cursor.position then .failed left
        else body { s with marks := left } fun t =>
          lazy repeating body n (some s.cursor.position) t k

/-- Up to a number of times, each in the first way that there is. -/
def possessive (body : Matcher) : Nat → State → State
  | 0, s => s
  | n + 1, s => match body s .matched with
    | .matched t => if t.cursor.position = s.cursor.position then t else possessive body n t
    | .failed _ => s

/-- A number of times, each in the first way that there is. -/
def timesPossessive (body : Matcher) : Nat → State → Outcome
  | 0, s => .matched s
  | n + 1, s => match body s .matched with
    | .matched t => timesPossessive body n t
    | .failed left => .failed left

/-- How many iterations may follow the required ones: without a bound, no more than there are
characters ahead and an empty one. -/
def room (least : Nat) (most : Option Nat) (s : State) : Nat :=
  match most with
  | some m => m - least
  | none => s.cursor.after.length + 1

/-- A repetition of a body; `body true` is the body as a part of a repetition that backtracks. -/
def repeated (repeating : Bool) (greed : Greed) (least : Nat) (most : Option Nat)
    (body : Bool → Matcher) : Matcher := fun s k =>
  match greed with
  | .greedy => times (body true) least s fun s => greedy (body true) (room least most s) none s k
  | .lazy => times (body true) least s fun s =>
    lazy repeating (body true) (room least most s) none s k
  | .possessive => match timesPossessive (body repeating) least s with
    | .matched s => k (possessive (body repeating) (room least most s) s)
    | .failed left => .failed left

end Matcher

/-- The test that a tree consists of. -/
def Node.single? : Node → Option Single
  | .single test => some test
  | .scoped body => body.single?
  | _ => none

/-- The first way to match a tree for which the continuation succeeds; `repeating` says that the
tree is part of a repetition. -/
def Node.run : Node → (repeating : Bool) → Matcher
  | .empty, _, s, k => k s
  | .single test, _, s, k => match s.cursor.advance? test.accepts with
    | some c => k { s with cursor := c }
    | none => .failed s.marks
  | .anchor a, _, s, k => if a.holds s.cursor then k s else .failed s.marks
  | .sequence a b, repeating, s, k => a.run repeating s fun s => b.run repeating s k
  | .either a b, repeating, s, k => match a.run repeating s k with
    | .matched t => .matched t
    | .failed left =>
      match b.run repeating { s with marks := s.marks.restore repeating left } k with
      | .matched t => .matched t
      | .failed left => .failed (s.marks.restore repeating left)
  | .repeated greed least most body, repeating, s, k => match body.single? with
    | some test => Matcher.characters repeating greed least most test.accepts s k
    | none => Matcher.repeated repeating greed least most (fun inner => body.run inner) s k
  | .capture group body, repeating, s, k =>
    body.run repeating { s with marks := s.marks.opened group s.cursor } fun s =>
      k { s with marks := s.marks.closed group s.cursor }
  | .scoped body, repeating, s, k => body.run repeating s k
  | .atomic body, repeating, s, k => match body.run repeating s .matched with
    | .matched s => k s
    | .failed left => .failed left
  | .backreference rule group, _, s, k => match s.marks.text? group with
    | some text => match s.cursor.pass? rule text with
      | some c => k { s with cursor := c }
      | none => .failed s.marks
    | none => .failed s.marks
  | .conditional group yes no, repeating, s, k =>
    if (s.marks.text? group).isSome then yes.run repeating s k else no.run repeating s k
  | .lookAhead negated body, repeating, s, k =>
    match body.run repeating s .matched, negated with
    | .matched t, false => k { t with cursor := s.cursor }
    | .matched t, true => .failed t.marks
    | .failed left, false => .failed left
    | .failed left, true => k { s with marks := s.marks.restore repeating left }
  | .lookBehind negated width body, repeating, s, k => match s.cursor.back? width with
    | none => if negated then k s else .failed s.marks
    | some c => match body.run repeating { s with cursor := c } .matched, negated with
      | .matched t, false => k { t with cursor := s.cursor }
      | .matched t, true => .failed t.marks
      | .failed left, false => .failed left
      | .failed left, true => k { s with marks := s.marks.restore repeating left }

/-- A tree matches at a position, whatever follows. -/
def Node.matchesAt (node : Node) (c : Cursor) : Bool :=
  (node.run false ⟨c, .empty⟩ .matched).isMatch

/-- A tree matches a text from its beginning to its end. -/
def Node.matchesAll (node : Node) (text : List Char) : Bool :=
  (node.run false ⟨.start text, .empty⟩ fun s =>
    if s.cursor.after.isEmpty then .matched s else .failed s.marks).isMatch

end JsonSchema.Regex
