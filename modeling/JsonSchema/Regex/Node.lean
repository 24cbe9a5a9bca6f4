/-
  Syntax trees of regular expressions.

  * `Anchor`: conditions on a position.
  * `Node`: the trees.  Letter case and the meaning of classes are settled in
    the leaves, so a tree means the same wherever it stands.
  * `Node.concat`, `Node.branches`: trees one after another, and trees to
    choose from.  What all branches begin with is taken out in front of them,
    and branches of one character each become a set.
  * `Width`: the least and the greatest number of characters a tree matches;
    `Node.width` computes it, and a tree may stand in a look-behind only if
    the two agree.
-/
import JsonSchema.Regex.Single

namespace JsonSchema.Regex

/-- A condition on a position in the text. -/
inductive Anchor where
  /-- the very beginning -/
  | textStart
  /-- the beginning or, if every line counts, also behind a line break -/
  | lineStart (everyLine : Bool)
  /-- the very end -/
  | textEnd
  /-- the end, or before a line break that is the last character or, if every line counts, any -/
  | lineEnd (everyLine : Bool)
  /-- between a character of a word and another one, unless negated; nowhere in an empty text -/
  | wordBoundary (asciiOnly negated : Bool)
deriving DecidableEq, Repr

/-- How a repetition chooses its count. -/
inductive Greed where
  | greedy
  | lazy
  | possessive
deriving DecidableEq, Repr

/-- A regular expression. -/
inductive Node where
  | empty
  | single (s : Single)
  | anchor (a : Anchor)
  | sequence (first second : Node)
  | either (first second : Node)
  /-- at least `least` and, if there is a bound, at most `most` times -/
  | repeated (greed : Greed) (least : Nat) (most : Option Nat) (body : Node)
  | capture (group : Nat) (body : Node)
  /-- a group that was read under flags of its own, which keep it apart from what is around it -/
  | scoped (body : Node)
  /-- the first way to match the body and no other -/
  | atomic (body : Node)
  /-- the text that a group has matched -/
  | backreference (rule : CaseRule) (group : Nat)
  /-- one of two bodies, according to whether a group has matched -/
  | conditional (group : Nat) (yes no : Node)
  | lookAhead (negated : Bool) (body : Node)
  /-- the body matched from `width` characters back -/
  | lookBehind (negated : Bool) (width : Nat) (body : Node)
deriving DecidableEq, Repr

namespace Node

/-! ## Sequences

A sequence is nested to the right: its first part is never empty and never a sequence. -/

/-- One tree after another. -/
def append : Node → Node → Node
  | .empty, last => last
  | .sequence first second, last => .sequence first (second.append last)
  | first, .empty => first
  | first, last => .sequence first last

/-- Trees one after another. -/
def concat (nodes : List Node) : Node := nodes.foldr append .empty

/-- The first part of a sequence, and the others. -/
def split? : Node → Option (Node × Node)
  | .empty => none
  | .sequence first second => some (first, second)
  | node => some (node, .empty)

/-! ## Choices -/

/-- The first tree that matches. -/
def alternatives : List Node → Node
  | [] => .empty
  | [node] => node
  | node :: rest => .either node (alternatives rest)

/-- A part without parts, which means the same in every branch that it stands in. -/
def isLeaf : Node → Bool
  | .single _ => true
  | .anchor _ => true
  | .backreference .. => true
  | _ => false

/-- What is left of a tree behind a leaf that it begins with. -/
def behind? (leaf node : Node) : Option Node :=
  match node.split? with
  | some (first, rest) => if leaf.isLeaf ∧ first = leaf then some rest else none
  | none => none

/-- The part of a set that a tree is, if it is one character or a set. -/
def setItems? : Node → Option (List SetItem)
  | .single (.literal _ c false) => some [.code c]
  | .single (.set _ items false) => some items
  | _ => none

/-- Branches that have nothing more in common.  If they are one character each, they are a set. -/
def choice (rule : CaseRule) (branches : List Node) : Node :=
  match branches.mapM setItems? with
  | some parts => .single (.ofItems rule parts.flatten.eraseDups false)
  | none => alternatives branches

/-- A first branch and others.  A leaf that all begin with is taken out in front. -/
def factored (rule : CaseRule) : Node → List Node → Node
  | .sequence first second, others => match others.mapM (first.behind? ·) with
    | some rests => .append first (second.factored rule rests)
    | none => choice rule (.sequence first second :: others)
  | .empty, others => choice rule (.empty :: others)
  | first, others => match others.mapM (first.behind? ·) with
    | some rests => .append first (choice rule (.empty :: rests))
    | none => choice rule (first :: others)

/-- The branches of a group, read under a rule for letter case. -/
def branches (rule : CaseRule) : List Node → Node
  | [] => .empty
  | [node] => node
  | node :: others => node.factored rule others

end Node

/-! ## Widths -/

/-- The greatest width that is told apart from having no bound. -/
def widthLimit : Nat := 4294967294

/-- The least and the greatest length of a match, as far as they are told apart: the least one
stays within the limit, and a greatest one beyond it stands for all that are. -/
structure Width where
  least : Nat
  most : Nat
deriving DecidableEq, Repr

namespace Width

/-- The bounds as far as they are told apart. -/
def clamp (least most : Nat) : Width := ⟨min least widthLimit, min most (widthLimit + 1)⟩

/-- A fixed length. -/
def exactly (n : Nat) : Width := clamp n n

/-- Both bounds added. -/
def add (a b : Width) : Width := clamp (a.least + b.least) (a.most + b.most)

/-- The bounds that hold for both. -/
def join (a b : Width) : Width := ⟨min a.least b.least, max a.most b.most⟩

/-- The bounds of a repetition.  Nothing repeated without bound is nothing. -/
def times (least : Nat) (most : Option Nat) (w : Width) : Width :=
  clamp (w.least * least) (w.most * most.getD (widthLimit + 1))

/-- The width that a look-behind may have. -/
def fixed? (w : Width) : Option Nat := if w.most = w.least then some w.least else none

end Width

/-- The width of a tree, given the widths of the groups it may refer to. -/
def Node.width (groups : List (Nat × Width)) : Node → Width
  | .empty => .exactly 0
  | .single _ => .exactly 1
  | .anchor _ => .exactly 0
  | .sequence a b => (a.width groups).add (b.width groups)
  | .either a b => (a.width groups).join (b.width groups)
  | .repeated _ least most body => (body.width groups).times least most
  | .capture _ body => body.width groups
  | .scoped body => body.width groups
  | .atomic body => body.width groups
  | .backreference _ group => (groups.lookup group).getD (.exactly 0)
  | .conditional _ yes no => (yes.width groups).join (no.width groups)
  | .lookAhead _ _ => .exactly 0
  | .lookBehind _ _ _ => .exactly 0

end JsonSchema.Regex
