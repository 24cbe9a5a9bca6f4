/-
  Reading regular expressions.

  * `Token`: a character, or a backslash with the character behind it.
  * `Defect`: the ways in which a text is no regular expression.  Only the
    first one, `malformed`, is an ordinary mistake in a schema.
  * `Parser.parse`: the expression of a text.  The parser takes in the tokens from
    left to right and keeps a stack of the groups that are open; a construct
    of several tokens is read at its first one and the others are skipped.

  A few mistakes are only reported when the whole text could be read:
  look-behinds of no fixed width or of one that is too great, conditions on
  groups that do not exist, and flags that exclude each other.

  Groups may be nested as deeply as one likes.
-/
import JsonSchema.Regex.Expression
import JsonSchema.Text.CharacterName
import JsonSchema.Text.Integer
import JsonSchema.Text.Identifier
import JsonSchema.Text.Percent

namespace JsonSchema.Regex

/-- Why a text is no regular expression. -/
inductive Defect where
  | malformed
  /-- a count at or beyond the largest that there is -/
  | countTooLarge
  /-- a count of too many digits -/
  | tooManyDigits (digits : Nat)
  /-- a code point of more than 31 bits -/
  | codeTooLarge
  /-- a look-behind of a fixed width that takes more than 31 bits -/
  | lookBehindTooWide
  /-- ASCII and Unicode matching are asked for at once -/
  | incompatibleFlags
deriving DecidableEq, Repr

namespace Parser

/-! ## Tokens -/

/-- A piece of the text. -/
inductive Token where
  | plain (c : Char)
  | escaped (c : Char)
  /-- a backslash with nothing behind it -/
  | dangling
deriving DecidableEq, Repr

/-- The pieces of a text. -/
def tokens : List Char → List Token
  | [] => []
  | ['\\'] => [.dangling]
  | '\\' :: c :: rest => .escaped c :: tokens rest
  | c :: rest => .plain c :: tokens rest

/-- The text of a piece. -/
def Token.text : Token → List Char
  | .plain c => [c]
  | .escaped c => ['\\', c]
  | .dangling => ['\\']

/-- The characters of the leading plain tokens of a class, `limit` at most. -/
def plainRun (limit : Nat) (accept : Char → Bool) : List Token → List Char
  | .plain c :: rest => match limit with
    | 0 => []
    | n + 1 => if accept c then c :: plainRun n accept rest else []
  | _ => []

/-- What stands before a plain character, and how many tokens that takes with the character. -/
def upTo (terminator : Char) : List Token → Option (List Char × Nat)
  | [] => none
  | .dangling :: _ => none
  | t :: rest =>
    if t = .plain terminator then some ([], 1)
    else (upTo terminator rest).map fun (s, n) => (t.text ++ s, n + 1)

/-! ## Limits and classes -/

/-- Counts stay below this number. -/
def countLimit : Nat := 4294967295

/-- How many digits a count may have. -/
def countDigitLimit : Nat := 4300

/-- Group numbers in conditions stay below this number. -/
def groupLimit : Nat := 1073741823

/-- The widths of look-behinds stay below this number. -/
def lookBehindLimit : Nat := 0x80000000

/-- A decimal digit. -/
def isDecimal (c : Char) : Bool := '0' ≤ c && c ≤ '9'

/-- An octal digit. -/
def isOctal (c : Char) : Bool := '0' ≤ c && c ≤ '7'

/-- A hexadecimal digit. -/
def isHex (c : Char) : Bool := (Text.Percent.hexValue? c).isSome

/-- A letter of ASCII. -/
def isAsciiLetter (c : Char) : Bool := Text.isAsciiCased c.toNat

/-- What a layout that is free of meaning consists of. -/
def isLayout (c : Char) : Bool := Text.isAsciiBlank c.toNat

/-- The number that digits spell in a base. -/
def valueIn (base : Nat) (digits : List Char) : Nat :=
  digits.foldl (fun n c => base * n + ((Text.Percent.hexValue? c).getD 0)) 0

/-! ## Flags -/

/-- The switches that a tree is read under. -/
structure Flags where
  ignoreCase : Bool
  multiLine : Bool
  dotAll : Bool
  verbose : Bool
  asciiOnly : Bool
deriving DecidableEq, Repr

/-- All switches off. -/
def Flags.default : Flags := ⟨false, false, false, false, false⟩

/-- How letters are compared under the flags. -/
def Flags.caseRule (f : Flags) : CaseRule :=
  if !f.ignoreCase then .exact else if f.asciiOnly then .ascii else .unicode

/-- A switch by its letter.  `plainTemplate` forbids repetitions; `locale` is for bytes only. -/
inductive Flag where
  | ignoreCase
  | locale
  | multiLine
  | dotAll
  | verbose
  | asciiOnly
  | plainTemplate
  | unicode
deriving DecidableEq, Repr

namespace Flag

/-- The switch of a letter. -/
def ofChar? : Char → Option Flag
  | 'i' => some .ignoreCase
  | 'L' => some .locale
  | 'm' => some .multiLine
  | 's' => some .dotAll
  | 'x' => some .verbose
  | 'a' => some .asciiOnly
  | 't' => some .plainTemplate
  | 'u' => some .unicode
  | _ => none

/-- One of the switches for the kind of text, of which only one may be on. -/
def isKind : Flag → Bool
  | .asciiOnly => true
  | .unicode => true
  | .locale => true
  | _ => false

end Flag

/-- Sets a switch. -/
def Flags.set (f : Flags) (value : Bool) : Flag → Flags
  | .ignoreCase => { f with ignoreCase := value }
  | .multiLine => { f with multiLine := value }
  | .dotAll => { f with dotAll := value }
  | .verbose => { f with verbose := value }
  | .asciiOnly => { f with asciiOnly := value }
  | .unicode => { f with asciiOnly := !value }
  | _ => f

/-- Switches that one group turns on and off. -/
structure FlagChange where
  on : List Flag
  off : List Flag

/-- The flags after a change. -/
def Flags.change (f : Flags) (c : FlagChange) : Flags :=
  c.off.foldl (fun f flag => f.set false flag) (c.on.foldl (fun f flag => f.set true flag) f)

/-- What the letters in a group mean. -/
inductive FlagGroup where
  /-- for the whole expression -/
  | overall (on : List Flag)
  /-- for the contents of the group -/
  | scoped (change : FlagChange)

/-- Reads the letters that a group turns off, up to the colon: the letters and the tokens. -/
def readFlagsOff : List Token → Option (List Flag × Nat)
  | .plain c :: rest => do
    let flag ← Flag.ofChar? c
    if flag.isKind then none
    else match rest with
      | .plain ':' :: _ => some ([flag], 2)
      | _ => do
        let (flags, n) ← readFlagsOff rest
        some (flag :: flags, n + 1)
  | _ => none

/-- Reads the letters that a group turns on, after those in `on`, and what follows them. -/
def readFlagsOn (on : List Flag) : List Token → Option (FlagGroup × Nat)
  | .plain c :: rest => match Flag.ofChar? c with
    | some flag =>
      if flag = .locale ∨ (flag.isKind ∧ on.any fun other => other.isKind ∧ other ≠ flag) then none
      else (readFlagsOn (flag :: on) rest).map fun (group, n) => (group, n + 1)
    | none =>
      if on = [] ∧ c ≠ '-' then none
      else match c with
        | ')' => some (.overall on, 1)
        | ':' => if on.contains .plainTemplate then none else some (.scoped ⟨on, []⟩, 1)
        | '-' =>
          if on.contains .plainTemplate then none
          else match readFlagsOff rest with
            | some (off, n) =>
              if off.contains .plainTemplate ∨ on.any off.contains then none
              else some (.scoped ⟨on, off⟩, n + 1)
            | none => none
        | _ => none
  | _ => none

/-! ## State -/

/-- What may follow an item. -/
inductive ItemKind where
  | anchor
  | repetition
  | other
deriving DecidableEq, Repr

/-- A tree of the current branch. -/
structure Item where
  node : Node
  kind : ItemKind

/-- What the contents of a group become. -/
inductive GroupKind where
  | capture (index : Nat)
  | plain
  /-- with flags of its own -/
  | scoped
  | atomic
  | lookAhead (negated : Bool)
  /-- `outermost`: no look-behind is open around this one -/
  | lookBehind (negated outermost : Bool)
  | conditional (index : Nat)
deriving DecidableEq, Repr

/-- A group that is open, or the whole expression: branches and items are in reverse. -/
structure Frame where
  kind : GroupKind
  flags : Flags
  branches : List Node
  items : List Item

/-- What the parser knows about the groups of the whole expression. -/
structure Known where
  groups : Nat
  names : List (String × Nat)
  widths : List (Nat × Width)
  /-- how many groups there were when the outermost look-behind began -/
  lookBehindGroups : Option Nat
  conditions : List Nat
  overall : List Flag
  repeats : Bool
  unfixedLookBehind : Bool
  wideLookBehind : Bool

/-- The state between two tokens: the innermost frame, those around it, and what is known. -/
structure State where
  top : Frame
  outer : List Frame
  known : Known

/-- The state before the first token. -/
def State.start : State :=
  ⟨⟨.plain, .default, [], []⟩, [], ⟨0, [], [], none, [], [], false, false, false⟩⟩

/-- Adds an item to the current branch. -/
def State.push (st : State) (kind : ItemKind) (node : Node) : State :=
  { st with top := { st.top with items := ⟨node, kind⟩ :: st.top.items } }

/-- Opens a group. -/
def State.open (st : State) (kind : GroupKind) (flags : Flags) : State :=
  { st with top := ⟨kind, flags, [], []⟩, outer := st.top :: st.outer }

/-- The tree of a finished branch. -/
def branch (items : List Item) : Node := Node.concat (items.reverse.map (·.node))

/-- The tree of all branches of a frame. -/
def Frame.body (f : Frame) : Node :=
  .branches f.flags.caseRule ((branch f.items :: f.branches).reverse)

/-- A group that is closed and may be referred to, also from inside a look-behind. -/
def Known.refersTo (k : Known) (group : Nat) : Bool :=
  (k.widths.lookup group).isSome && (match k.lookBehindGroups with
    | some n => group ≤ n
    | none => true)

/-- Inside a look-behind a condition may only be on a group that is closed before it. -/
def Known.conditionAllowed (k : Known) (group : Nat) : Bool :=
  k.lookBehindGroups.isNone || k.refersTo group

/-! ## Escapes -/

/-- The result of reading a construct: the new state and how many tokens it took. -/
abbrev Step := Except Defect (State × Nat)

/-- The control character of an escape. -/
def controlEscape? : Char → Option Nat
  | 'a' => some 7
  | 'b' => some 8
  | 'f' => some 12
  | 'n' => some 10
  | 'r' => some 13
  | 't' => some 9
  | 'v' => some 11
  | '\\' => some 92
  | _ => none

/-- The class of an escape, and whether it is the complement. -/
def categoryEscape? : Char → Option (Category × Bool)
  | 'd' => some (.digit, false)
  | 'D' => some (.digit, true)
  | 's' => some (.space, false)
  | 'S' => some (.space, true)
  | 'w' => some (.word, false)
  | 'W' => some (.word, true)
  | _ => none

/-- The condition on a position of an escape. -/
def anchorEscape? (flags : Flags) : Char → Option Anchor
  | 'A' => some .textStart
  | 'b' => some (.wordBoundary flags.asciiOnly false)
  | 'B' => some (.wordBoundary flags.asciiOnly true)
  | 'Z' => some .textEnd
  | _ => none

/-- How many hexadecimal digits an escape has. -/
def hexSize? : Char → Option Nat
  | 'x' => some 2
  | 'u' => some 4
  | 'U' => some 8
  | _ => none

/-- The first code that does not fit into 31 bits. -/
def codeBound : Nat := 0x80000000

/-- The code point of an escape of `size` hexadecimal digits, and how many tokens it takes.  A
backslash without a character behind the digits is noticed before the code is looked at. -/
def hexEscape (size : Nat) (rest : List Token) : Except Defect (Nat × Nat) :=
  let digits := plainRun size isHex rest
  let code := valueIn 16 digits
  if digits.length < size then .error .malformed
  else if code < 0x110000 then .ok (code, size + 1)
  else if code < codeBound ∨ (rest.drop size).head? = some .dangling then .error .malformed
  else .error .codeTooLarge

/-- The code point of an escape that names a character in braces, and how many tokens it takes. -/
def nameEscape (rest : List Token) : Except Defect (Nat × Nat) :=
  match rest with
  | .plain '\x7b' :: rest => match upTo '\x7d' rest with
    | some (name, n) => match Text.CharacterName.find? name with
      | some code => .ok (code, n + 2)
      | none => .error .malformed
    | none => .error .malformed
  | _ => .error .malformed

/-- The code point of an escape inside a set, and how many tokens it takes. -/
def codeInSet (c : Char) (rest : List Token) : Except Defect (Nat × Nat) :=
  match controlEscape? c, hexSize? c with
  | some code, _ => .ok (code, 1)
  | none, some size => hexEscape size rest
  | none, none =>
    if c = 'N' then nameEscape rest
    else if isOctal c then
      let digits := c :: plainRun 2 isOctal rest
      let code := valueIn 8 digits
      if code ≤ 0o377 then .ok (code, digits.length) else .error .malformed
    else if isDecimal c ∨ isAsciiLetter c then .error .malformed
    else .ok (c.toNat, 1)

/-- The code point or group that a digit escape outside a set means, and how many tokens it takes.
Three octal digits are a code point, otherwise one or two digits number a group. -/
def digitEscape (c : Char) (rest : List Token) : (Nat ⊕ Nat) × Nat :=
  if c = '0' then
    let digits := c :: plainRun 2 isOctal rest
    (.inl (valueIn 8 digits), digits.length)
  else
    let digits := c :: plainRun 1 isDecimal rest
    let octal := c :: plainRun 2 isOctal rest
    if octal.length = 3 ∧ isOctal c then (.inl (valueIn 8 octal), 3)
    else (.inr (valueIn 10 digits), digits.length)

/-- An escape outside a set. -/
def readEscape (st : State) (c : Char) (rest : List Token) : Step :=
  let flags := st.top.flags
  let literal (code : Nat) : Node := .single (.ofCode flags.caseRule code false)
  match anchorEscape? flags c, categoryEscape? c, controlEscape? c, hexSize? c with
  | some anchor, _, _, _ => .ok (st.push .anchor (.anchor anchor), 1)
  | _, some (category, negated), _, _ =>
    let item := SetItem.category category negated flags.asciiOnly
    .ok (st.push .other (.single (.ofItems flags.caseRule [item] false)), 1)
  | _, _, some code, _ => .ok (st.push .other (literal code), 1)
  | _, _, _, some size => do
    let (code, n) ← hexEscape size rest
    return (st.push .other (literal code), n)
  | none, none, none, none =>
    if isDecimal c then match digitEscape c rest with
      | (.inl code, n) =>
        if code ≤ 0o377 then .ok (st.push .other (literal code), n) else .error .malformed
      | (.inr group, n) =>
        if st.known.refersTo group then
          .ok (st.push .other (.backreference flags.caseRule group), n)
        else .error .malformed
    else if c = 'N' then do
      let (code, n) ← nameEscape rest
      return (st.push .other (literal code), n)
    else if isAsciiLetter c then .error .malformed
    else .ok (st.push .other (literal c.toNat), 1)

/-! ## Sets -/

/-- One end of a range, or a class. -/
inductive SetPart where
  | code (c : Nat)
  | category (kind : Category) (negated : Bool)

/-- The part as an item of a set. -/
def SetPart.item (asciiOnly : Bool) : SetPart → SetItem
  | .code c => .code c
  | .category kind negated => .category kind negated asciiOnly

/-- A part at the beginning of tokens, and how many of them it takes. -/
def readSetPart : List Token → Except Defect (SetPart × Nat)
  | .plain c :: _ => .ok (.code c.toNat, 1)
  | .escaped c :: rest => match categoryEscape? c with
    | some (kind, negated) => .ok (.category kind negated, 1)
    | none => (codeInSet c rest).map fun (code, n) => (.code code, n)
  | _ => .error .malformed

/-- Reads a set up to its closing bracket: the items in reverse and the number of tokens taken.
A bracket right at the beginning stands for itself; a hyphen between two characters makes a range,
and before the closing bracket it stands for itself. -/
def readSet (asciiOnly : Bool) (skip count : Nat) (done : List SetItem) :
    List Token → Except Defect (List SetItem × Nat)
  | [] => .error .malformed
  | t :: rest => match skip with
    | skip + 1 => readSet asciiOnly skip (count + 1) done rest
    | 0 =>
      if t = .plain ']' ∧ done ≠ [] then .ok (done, count + 1)
      else do
        let (part, n) ← readSetPart (t :: rest)
        match (t :: rest).drop n with
        | .plain '-' :: .plain ']' :: _ =>
          .ok (.code '-'.toNat :: part.item asciiOnly :: done, count + n + 2)
        | .plain '-' :: more =>
          let (last, m) ← readSetPart more
          match part, last with
          | .code low, .code high =>
            if high < low then .error .malformed
            else readSet asciiOnly (n + m) (count + 1) (.range low high :: done) rest
          | _, _ => .error .malformed
        | _ => readSet asciiOnly (n - 1) (count + 1) (part.item asciiOnly :: done) rest

/-- A set after its opening bracket.  A set of one character is that character. -/
def readBracket (st : State) (rest : List Token) : Step := do
  let flags := st.top.flags
  let (negated, body, lead) := match rest with
    | .plain '^' :: body => (true, body, 2)
    | body => (false, body, 1)
  let (items, n) ← readSet flags.asciiOnly 0 0 [] body
  let single := match items.reverse.eraseDups with
    | [.code c] => Single.ofCode flags.caseRule c negated
    | items => Single.ofItems flags.caseRule items negated
  return (st.push .other (.single single), n + lead)

/-! ## Repetition -/

/-- The counts of a repetition in braces. -/
structure Counts where
  least : List Char
  most : List Char

/-- Reads counts and the closing brace behind the opening one. -/
def readCounts? (rest : List Token) : Option (Counts × Nat) :=
  let least := plainRun rest.length isDecimal rest
  let (most, n) := match rest.drop least.length with
    | .plain ',' :: more =>
      let most := plainRun more.length isDecimal more
      (most, least.length + 1 + most.length)
    | _ => (least, least.length)
  match rest.drop n with
  | .plain '\x7d' :: _ => some (⟨least, most⟩, n + 1)
  | _ => none

/-- The value of a count; no digits leave it open. -/
def count? (digits : List Char) : Except Defect (Option Nat) :=
  if digits = [] then .ok none
  else if countDigitLimit < digits.length then .error (.tooManyDigits digits.length)
  else
    let n := valueIn 10 digits
    if countLimit ≤ n then .error .countTooLarge else .ok (some n)

/-- Applies a repetition to the last item; `rest` are the tokens behind it, of which one may say
how the count is chosen, and `size` is how many tokens it took. -/
def applyCount (st : State) (least : Nat) (most : Option Nat) (rest : List Token) (size : Nat) :
    Step :=
  match st.top.items with
  | ⟨body, .other⟩ :: items =>
    let (greed, n) := match rest with
      | .plain '?' :: _ => (Greed.lazy, size + 1)
      | .plain '+' :: _ => (Greed.possessive, size + 1)
      | _ => (Greed.greedy, size)
    let st := { st with
      top := { st.top with items := ⟨.repeated greed least most body, .repetition⟩ :: items },
      known := { st.known with repeats := true } }
    .ok (st, n)
  | _ => .error .malformed

/-- A repetition in braces; braces without counts stand for themselves.  A backslash without a
character behind the braces is noticed before the counts are looked at. -/
def readBraces (st : State) (rest : List Token) : Step :=
  let brace := st.push .other (.single (.ofCode st.top.flags.caseRule 0x7b false))
  match rest with
  | .plain '\x7d' :: _ => .ok (brace, 1)
  | _ => match readCounts? rest with
    | none => .ok (brace, 1)
    | some (counts, n) =>
      let behind := rest.drop n
      if behind.head? = some .dangling then .error .malformed
      else do
        let least ← count? counts.least
        let most ← count? counts.most
        if most.any (· < least.getD 0) then .error .malformed
        else applyCount st (least.getD 0) most behind (n + 1)

/-! ## Groups -/

/-- Opens a group that captures. -/
def openCapture (st : State) (name : Option String) (size : Nat) : Step :=
  let index := st.known.groups + 1
  let names := match name with
    | some name => (name, index) :: st.known.names
    | none => st.known.names
  if name.any fun name => (st.known.names.lookup name).isSome then .error .malformed
  else .ok ({ st with known := { st.known with groups := index, names := names } }.open
    (.capture index) st.top.flags, size)

/-- A name in angle or round brackets. -/
def readName (terminator : Char) (rest : List Token) : Option (String × Nat) :=
  (upTo terminator rest).bind fun (name, n) =>
    if Text.isIdentifier name then some (String.ofList name, n) else none

/-- A group with a name, or a reference to one. -/
def readNamed (st : State) (rest : List Token) : Step :=
  match rest with
  | .plain '<' :: rest => match readName '>' rest with
    | some (name, n) => openCapture st (some name) (n + 4)
    | none => .error .malformed
  | .plain '=' :: rest => match readName ')' rest with
    | some (name, n) => match st.known.names.lookup name with
      | some group =>
        if st.known.refersTo group then
          .ok (st.push .other (.backreference st.top.flags.caseRule group), n + 4)
        else .error .malformed
      | none => .error .malformed
    | none => .error .malformed
  | _ => .error .malformed

/-- The group that a condition is on: by name, or by a number of which only the end of the
expression shows whether it exists. -/
def conditionGroup? (known : Known) (name : List Char) : Option (Nat × Bool) :=
  if Text.isIdentifier name then
    (known.names.lookup (String.ofList name)).map fun group => (group, false)
  else match Text.parseInteger? countDigitLimit name with
    | some n => if 0 < n ∧ n < groupLimit then some (n.toNat, true) else none
    | none => none

/-- A condition on a group. -/
def readConditional (st : State) (rest : List Token) : Step :=
  match upTo ')' rest with
  | some (name, n) => match conditionGroup? st.known name with
    | some (group, numbered) =>
      let conditions := if numbered then group :: st.known.conditions else st.known.conditions
      if st.known.conditionAllowed group then
        .ok ({ st with known := { st.known with conditions := conditions } }.open
          (.conditional group) st.top.flags, n + 3)
      else .error .malformed
    | none => .error .malformed
  | none => .error .malformed

/-- Opens a look-behind; groups opened inside it cannot be referred to from inside it. -/
def openLookBehind (st : State) (negated : Bool) : State :=
  let outermost := st.known.lookBehindGroups.isNone
  let known := if outermost then { st.known with lookBehindGroups := some st.known.groups }
    else st.known
  { st with known := known }.open (.lookBehind negated outermost) st.top.flags

/-- Letters for flags: for the whole expression they may only stand at its very beginning. -/
def readFlags (st : State) (rest : List Token) : Step :=
  match readFlagsOn [] rest with
  | some (.overall on, n) =>
    if st.outer.isEmpty ∧ st.top.branches.isEmpty ∧ st.top.items.isEmpty then
      .ok ({ st with
        top := { st.top with flags := st.top.flags.change ⟨on, []⟩ },
        known := { st.known with overall := on ++ st.known.overall } }, n + 2)
    else .error .malformed
  | some (.scoped change, n) => .ok (st.open .scoped (st.top.flags.change change), n + 2)
  | none => .error .malformed

/-- What follows an opening parenthesis. -/
def readGroup (st : State) (rest : List Token) : Step :=
  match rest with
  | .plain '?' :: rest => match rest with
    | .plain ':' :: _ => .ok (st.open .plain st.top.flags, 3)
    | .plain '>' :: _ => .ok (st.open .atomic st.top.flags, 3)
    | .plain '=' :: _ => .ok (st.open (.lookAhead false) st.top.flags, 3)
    | .plain '!' :: _ => .ok (st.open (.lookAhead true) st.top.flags, 3)
    | .plain '<' :: .plain '=' :: _ => .ok (openLookBehind st false, 4)
    | .plain '<' :: .plain '!' :: _ => .ok (openLookBehind st true, 4)
    | .plain '#' :: rest => match upTo ')' rest with
      | some (_, n) => .ok (st, n + 3)
      | none => .error .malformed
    | .plain 'P' :: rest => readNamed st rest
    | .plain '(' :: rest => readConditional st rest
    | rest => readFlags st rest
  | _ => openCapture st none 1

/-- The next branch of the innermost group.  A condition has at most two. -/
def nextBranch (st : State) : Except Defect State :=
  match st.top.kind, st.top.branches with
  | .conditional _, _ :: _ => .error .malformed
  | _, _ => .ok { st with top := { st.top with
      branches := branch st.top.items :: st.top.branches, items := [] } }

/-- Closes the innermost group into the one around it. -/
def closeGroup (st : State) : Except Defect State :=
  match st.outer with
  | [] => .error .malformed
  | around :: outer =>
    let body := st.top.body
    let back : State := { st with top := around, outer := outer }
    match st.top.kind with
    | .plain => .ok (back.push .other body)
    | .scoped => .ok (back.push .other (.scoped body))
    | .atomic => .ok (back.push .other (.atomic body))
    | .lookAhead negated => .ok (back.push .other (.lookAhead negated body))
    | .capture index =>
      let width := body.width st.known.widths
      .ok ({ back with known := { back.known with
        widths := (index, width) :: back.known.widths } }.push .other (.capture index body))
    | .conditional index =>
      let node := match st.top.branches with
        | [] => Node.conditional index (branch st.top.items) .empty
        | yes :: _ => Node.conditional index yes (branch st.top.items)
      .ok (back.push .other node)
    | .lookBehind negated outermost =>
      let known := if outermost then { back.known with lookBehindGroups := none } else back.known
      match (body.width st.known.widths).fixed? with
      | some width =>
        let known := { known with
          wideLookBehind := known.wideLookBehind || lookBehindLimit ≤ width }
        .ok ({ back with known := known }.push .other (.lookBehind negated width body))
      | none => .ok ({ back with known := { known with unfixedLookBehind := true } }.push .other
          (.lookBehind negated 0 body))

/-! ## The whole expression -/

/-- Tokens that the verbose layout passes over: blanks, and comments up to the end of their line. -/
def layoutSize? (flags : Flags) (c : Char) (rest : List Token) : Option Nat :=
  if !flags.verbose then none
  else if isLayout c then some 1
  else if c = '#' then match upTo '\n' rest with
    | some (_, n) => some (n + 1)
    | none => some (rest.length + 1)
  else none

/-- Reads the construct that begins with a plain character. -/
def readPlain (st : State) (c : Char) (rest : List Token) : Step :=
  let flags := st.top.flags
  match layoutSize? flags c rest with
  | some n => .ok (st, n)
  | none => match c with
    | '[' => readBracket st rest
    | '*' => applyCount st 0 none rest 1
    | '+' => applyCount st 1 none rest 1
    | '?' => applyCount st 0 (some 1) rest 1
    | '\x7b' => readBraces st rest
    | '.' => .ok (st.push .other (.single (if flags.dotAll then .any else .anyButNewline)), 1)
    | '(' => readGroup st rest
    | '^' => .ok (st.push .anchor (.anchor (.lineStart flags.multiLine)), 1)
    | '$' => .ok (st.push .anchor (.anchor (.lineEnd flags.multiLine)), 1)
    | '|' => (nextBranch st).map (·, 1)
    | ')' => (closeGroup st).map (·, 1)
    | c => .ok (st.push .other (.single (.ofCode flags.caseRule c.toNat false)), 1)

/-- A parenthesis that closes no group ends the expression. -/
def isStray (st : State) (t : Token) : Bool := t == .plain ')' && st.outer.isEmpty

/-- Takes in the tokens; `skip` of them belong to the construct read last.  The second part of the
result says that the expression ended early. -/
def run (skip : Nat) (st : State) : List Token → Except Defect (State × Bool)
  | [] => .ok (st, false)
  | t :: rest => match skip with
    | skip + 1 => if t = .dangling then .error .malformed else run skip st rest
    | 0 =>
      if isStray st t then .ok (st, true)
      else
        let step := match t with
          | .plain c => readPlain st c rest
          | .escaped c => readEscape st c rest
          | .dangling => .error .malformed
        match step with
        | .ok (st, n) => run (n - 1) st rest
        | .error e => .error e

/-- What is only known at the end. -/
def finish (st : State) (stray : Bool) : Except Defect Expression :=
  let known := st.known
  if !st.outer.isEmpty then .error .malformed
  else if known.overall.contains .asciiOnly ∧ known.overall.contains .unicode then
    .error .incompatibleFlags
  else if stray ∨ known.conditions.any (known.groups < ·) ∨ known.unfixedLookBehind ∨
      (known.repeats ∧ known.overall.contains .plainTemplate) then .error .malformed
  else if known.wideLookBehind then .error .lookBehindTooWide
  else .ok (.ofNode st.top.flags.asciiOnly known.widths st.top.body)

/-- The expression of a text. -/
def parse (text : List Char) : Except Defect Expression :=
  match run 0 .start (tokens text) with
  | .ok (st, stray) => finish st stray
  | .error e => .error e

end Parser

end JsonSchema.Regex
