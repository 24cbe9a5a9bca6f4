/-
  Reading JSON text.

  * `Lexeme`, `lexemes`: the tokens of a text with their positions, up to the
    end or the first one that cannot be read.
  * `Json.read`: the value of a text, or the first problem and where it is.
    The reader keeps a stack of the containers that are open.
  * `ReadError.message`: the report of a problem with line, column and offset.

  Besides JSON proper, `NaN`, `Infinity` and `-Infinity` are read as doubles.
  An integer may have at most 4300 digits.

  A string is read as code points.  One half of a surrogate pair may come without
  the other half; it is kept in the token, but not in the value, the strings of
  which are texts (`textOf`).  Containers may be nested as deeply as one likes:
  the reader has a stack of its own, which is not limited.
-/
import JsonSchema.Json
import JsonSchema.Text.Percent

namespace JsonSchema

/-! ## Problems -/

/-- What is wrong with a text. -/
inductive SyntaxProblem where
  | expectingValue
  | expectingPropertyName
  | expectingColon
  | expectingComma
  | extraData
  | unterminatedString
  | invalidControlCharacter
  | invalidEscape
  | invalidUnicodeEscape
  | byteOrderMark
deriving DecidableEq, Repr

/-- The words for a problem. -/
def SyntaxProblem.text : SyntaxProblem → String
  | .expectingValue => "Expecting value"
  | .expectingPropertyName => "Expecting property name enclosed in double quotes"
  | .expectingColon => "Expecting ':' delimiter"
  | .expectingComma => "Expecting ',' delimiter"
  | .extraData => "Extra data"
  | .unterminatedString => "Unterminated string starting at"
  | .invalidControlCharacter => "Invalid control character at"
  | .invalidEscape => "Invalid \\escape"
  | .invalidUnicodeEscape => "Invalid \\uXXXX escape"
  | .byteOrderMark => "Unexpected UTF-8 BOM (decode using utf-8-sig)"

/-- How many digits an integer may have when it is read from text. -/
def digitLimit : Nat := 4300

/-- The report of an integer beyond the limit. -/
def digitLimitMessage (digits : Nat) : String :=
  "Exceeds the limit (" ++ toString digitLimit ++
    " digits) for integer string conversion: value has " ++ toString digits ++
    " digits; use sys.set_int_max_str_digits() to increase the limit"

/-- Why a text is not read. -/
inductive ReadError where
  | syntaxError (problem : SyntaxProblem) (position : Nat)
  | tooManyDigits (digits : Nat)
deriving DecidableEq

/-- A position as a report gives it: line and column count from one, the offset from zero. -/
def describePosition (text : List Char) (position : Nat) : String :=
  let before := text.take position
  let line := before.count '\n' + 1
  let column := (before.reverse.takeWhile (· ≠ '\n')).length + 1
  "line " ++ toString line ++ " column " ++ toString column ++
    " (char " ++ toString position ++ ")"

/-- The report of an error in the given text; `label` precedes the words for a syntax problem. -/
def ReadError.message (text : List Char) (label : String) : ReadError → String
  | .syntaxError problem position =>
    label ++ problem.text ++ ": " ++ describePosition text position
  | .tooManyDigits digits => digitLimitMessage digits

/-! ## Lexemes -/

/-- A token.  A string or an integer that cannot be read is a token of its own, as only a reader
that waits for one reports it.  What cannot be the beginning of any token is `unknown`. -/
inductive Token where
  | openBrace
  | closeBrace
  | openBracket
  | closeBracket
  | colon
  | comma
  | string (points : List Nat)
  | scalar (v : Json)
  | brokenString (e : ReadError)
  | longInteger (digits : Nat)
  | unknown

/-- A token and where it begins. -/
structure Lexeme where
  position : Nat
  token : Token

/-- White space between tokens. -/
def isJsonSpace (c : Char) : Bool := c == ' ' || c == '\t' || c == '\n' || c == '\r'

/-- A digit of a number. -/
def isJsonDigit (c : Char) : Bool := '0' ≤ c && c ≤ '9'

/-- The number that digits spell. -/
def digitsValue (digits : List Char) : Nat :=
  digits.foldl (fun n c => 10 * n + (c.toNat - '0'.toNat)) 0

/-- The code unit of four hexadecimal digits that stand before at least one more character. -/
def codeUnit? : List Char → Option Nat
  | a :: b :: c :: d :: _ :: _ => do
    let hex := Text.Percent.hexValue?
    return 0x1000 * (← hex a) + 0x100 * (← hex b) + 0x10 * (← hex c) + (← hex d)
  | _ => none

/-- The character of an escape with one letter. -/
def simpleEscape? : Char → Option Char
  | '"' => some '"'
  | '\\' => some '\\'
  | '/' => some '/'
  | 'b' => some '\x08'
  | 'f' => some '\x0c'
  | 'n' => some '\n'
  | 'r' => some '\r'
  | 't' => some '\t'
  | _ => none

/-- The code point that a Unicode escape denotes and how many characters follow its `\u`.  Two
escapes in a row denote one character when they are the halves of a surrogate pair.  A half without
its other half denotes itself: a code point that is no character. -/
def unicodeEscape (unit : Nat) (rest : List Char) : Nat × Nat :=
  if 0xd800 ≤ unit ∧ unit ≤ 0xdbff then
    match rest with
    | '\\' :: 'u' :: more => match codeUnit? more with
      | some low =>
        if 0xdc00 ≤ low ∧ low ≤ 0xdfff then
          (0x10000 + 0x400 * (unit - 0xd800) + (low - 0xdc00), 10)
        else (unit, 4)
      | none => (unit, 4)
    | _ => (unit, 4)
  else (unit, 4)

/-- A surrogate half whose following escape is malformed. -/
def brokenPair (unit : Nat) (rest : List Char) : Bool :=
  0xd800 ≤ unit && unit ≤ 0xdbff && (match rest with
    | '\\' :: 'u' :: more => (codeUnit? more).isNone && 4 < more.length
    | _ => false)

/-- Reads a string after its opening quote, which stands at `start`: the code points and the
position behind the closing quote. -/
def readString (start : Nat) (position skip : Nat) (done : List Nat) :
    List Char → Except ReadError (List Nat × Nat)
  | [] => .error (.syntaxError .unterminatedString start)
  | c :: rest => match skip with
    | skip + 1 => readString start (position + 1) skip done rest
    | 0 =>
      if c = '"' then .ok (done.reverse, position + 1)
      else if c = '\\' then match rest with
        | [] => .error (.syntaxError .unterminatedString start)
        | 'u' :: more => match codeUnit? more with
          | none => .error (.syntaxError .invalidUnicodeEscape (position + 1))
          | some unit =>
            if brokenPair unit (more.drop 4) then
              .error (.syntaxError .invalidUnicodeEscape (position + 7))
            else
              let (point, size) := unicodeEscape unit (more.drop 4)
              readString start (position + 1) (size + 1) (point :: done) rest
        | e :: _ => match simpleEscape? e with
          | some c => readString start (position + 1) 1 (c.toNat :: done) rest
          | none => .error (.syntaxError .invalidEscape position)
      else if c.toNat < 0x20 then .error (.syntaxError .invalidControlCharacter position)
      else readString start (position + 1) 0 (c.toNat :: done) rest

/-- The text of code points.  A text consists of characters: for a surrogate, which is none, it has
the replacement character, so that texts may be equal although the code points are not. -/
def textOf (points : List Nat) : String :=
  String.ofList (points.map fun n =>
    if n.isValidChar then Char.ofNat n else Text.Utf8.replacement)

/-- A fraction and its length, which is none without a digit behind the point. -/
def readFraction : List Char → List Char
  | '.' :: rest => rest.takeWhile isJsonDigit
  | _ => []

/-- The digits of an exponent and how many characters stand before them. -/
def exponentDigits : List Char → Bool × List Char × Nat
  | '+' :: rest => (false, rest.takeWhile isJsonDigit, 2)
  | '-' :: rest => (true, rest.takeWhile isJsonDigit, 2)
  | rest => (false, rest.takeWhile isJsonDigit, 1)

/-- An exponent and its length, if there is one. -/
def readExponent? : List Char → Option (Int × Nat)
  | c :: rest =>
    if c = 'e' ∨ c = 'E' then match exponentDigits rest with
      | (_, [], _) => none
      | (negative, digits, lead) =>
        let n : Int := digitsValue digits
        some (if negative then -n else n, lead + digits.length)
    else none
  | [] => none

/-- An unsigned number at the beginning of a text: its token and length. -/
def readNumber? (negative : Bool) (s : List Char) : Option (Token × Nat) :=
  let whole := match s with
    | '0' :: _ => ['0']
    | _ => s.takeWhile isJsonDigit
  if whole = [] then none
  else
    let afterWhole := s.drop whole.length
    let fraction := readFraction afterWhole
    let fractionLength := if fraction = [] then 0 else fraction.length + 1
    let exponent := readExponent? (afterWhole.drop fractionLength)
    if fraction = [] ∧ exponent.isNone then
      if digitLimit < whole.length then some (.longInteger whole.length, whole.length)
      else
        let n : Int := digitsValue whole
        some (.scalar (.int (if negative then -n else n)), whole.length)
    else
      let (e, exponentLength) := exponent.getD (0, 0)
      let d := Double.ofDecimal negative (digitsValue (whole ++ fraction)) (e - fraction.length)
      some (.scalar (.double d), whole.length + fractionLength + exponentLength)

/-- The words that stand for values. -/
def words : List (String × Json) :=
  [("null", .null), ("true", .bool true), ("false", .bool false), ("NaN", .double .nan),
    ("Infinity", .double (.infinite false)), ("-Infinity", .double (.infinite true))]

/-- A word at the beginning of a text: its value and length. -/
def readWord? (s : List Char) : Option (Token × Nat) :=
  words.findSome? fun (word, v) =>
    if word.toList.isPrefixOf s then some (.scalar v, word.length) else none

/-- The token that a text begins with at a position, and its length. -/
def readToken (position : Nat) (first : Char) (rest : List Char) : Token × Nat :=
  match first with
  | '\x7b' => (.openBrace, 1)
  | '\x7d' => (.closeBrace, 1)
  | '[' => (.openBracket, 1)
  | ']' => (.closeBracket, 1)
  | ':' => (.colon, 1)
  | ',' => (.comma, 1)
  | '"' => match readString position (position + 1) 0 [] rest with
    | .ok (points, stop) => (.string points, stop - position)
    | .error e => (.brokenString e, 1)
  | _ => match readWord? (first :: rest) with
    | some found => found
    | none =>
      let number := if first = '-' then (readNumber? true rest).map fun (t, n) => (t, n + 1)
        else readNumber? false (first :: rest)
      number.getD (.unknown, 1)

/-- Collects the tokens, in reverse; `skip` characters belong to the token read last. -/
def lexemesFrom (position skip : Nat) (done : List Lexeme) : List Char → List Lexeme
  | [] => done.reverse
  | c :: rest => match skip with
    | skip + 1 => lexemesFrom (position + 1) skip done rest
    | 0 =>
      if isJsonSpace c then lexemesFrom (position + 1) 0 done rest
      else match readToken position c rest with
        | (.brokenString e, _) => (⟨position, .brokenString e⟩ :: done).reverse
        | (.unknown, _) => (⟨position, .unknown⟩ :: done).reverse
        | (token, size) => lexemesFrom (position + 1) (size - 1) (⟨position, token⟩ :: done) rest

/-- The tokens of a text, up to the first that cannot be read. -/
def lexemes (text : List Char) : List Lexeme := lexemesFrom 0 0 [] text

/-! ## Values -/

/-- A container that is still open, with its contents so far in reverse; of an object perhaps
with the key whose value comes next. -/
inductive Enclosing where
  | array (items : List Json)
  | object (members : Members)
  | member (members : Members) (key : String)

/-- The members of an object read so far, in reverse, under the rule for repeated keys. -/
def Members.ofReversed (members : Members) : Members :=
  members.foldr (fun (key, v) done => Members.insert done key v) []

/-- What the reader waits for. -/
inductive Expecting where
  | value
  | valueOrClose
  | keyOrClose (members : Members)
  | key (members : Members)
  | colon (members : Members) (key : String)
  | commaOrClose
  | nothing (v : Json)

/-- After a complete value: what encloses it takes it in. -/
def afterValue (v : Json) : List Enclosing → Expecting × List Enclosing
  | [] => (.nothing v, [])
  | .array items :: outer => (.commaOrClose, .array (v :: items) :: outer)
  | .object members :: outer => (.commaOrClose, .object members :: outer)
  | .member members key :: outer => (.commaOrClose, .object ((key, v) :: members) :: outer)

/-- A value is expected and a token comes. -/
def takeValue (mayClose : Bool) (l : Lexeme) (stack : List Enclosing) :
    Except ReadError (Expecting × List Enclosing) :=
  match l.token, mayClose, stack with
  | .scalar v, _, _ => .ok (afterValue v stack)
  | .string points, _, _ => .ok (afterValue (.string (textOf points)) stack)
  | .openBracket, _, _ => .ok (.valueOrClose, .array [] :: stack)
  | .openBrace, _, _ => .ok (.keyOrClose [], stack)
  | .closeBracket, true, .array _ :: outer => .ok (afterValue (.array []) outer)
  | .brokenString e, _, _ => .error e
  | .longInteger digits, _, _ => .error (.tooManyDigits digits)
  | _, _, _ => .error (.syntaxError .expectingValue l.position)

/-- A key is expected and a token comes. -/
def takeKey (mayClose : Bool) (members : Members) (l : Lexeme) (stack : List Enclosing) :
    Except ReadError (Expecting × List Enclosing) :=
  match l.token, mayClose with
  | .string points, _ => .ok (.colon members (textOf points), stack)
  | .brokenString e, _ => .error e
  | .closeBrace, true => .ok (afterValue (.object []) stack)
  | _, _ => .error (.syntaxError .expectingPropertyName l.position)

/-- A comma or the end of the enclosing container is expected and a token comes. -/
def takeDelimiter (l : Lexeme) : List Enclosing → Except ReadError (Expecting × List Enclosing)
  | .array items :: outer => match l.token with
    | .comma => .ok (.value, .array items :: outer)
    | .closeBracket => .ok (afterValue (.array items.reverse) outer)
    | _ => .error (.syntaxError .expectingComma l.position)
  | .object members :: outer => match l.token with
    | .comma => .ok (.key members, outer)
    | .closeBrace => .ok (afterValue (.object (Members.ofReversed members)) outer)
    | _ => .error (.syntaxError .expectingComma l.position)
  | _ => .error (.syntaxError .expectingComma l.position)

/-- Takes in one token. -/
def takeToken (l : Lexeme) (expecting : Expecting) (stack : List Enclosing) :
    Except ReadError (Expecting × List Enclosing) :=
  match expecting with
  | .value => takeValue false l stack
  | .valueOrClose => takeValue true l stack
  | .keyOrClose members => takeKey true members l stack
  | .key members => takeKey false members l stack
  | .colon members key => match l.token with
    | .colon => .ok (.value, .member members key :: stack)
    | _ => .error (.syntaxError .expectingColon l.position)
  | .commaOrClose => takeDelimiter l stack
  | .nothing _ => .error (.syntaxError .extraData l.position)

/-- The text ends at a position. -/
def takeEnd (position : Nat) : Expecting → Except ReadError Json
  | .nothing v => .ok v
  | .value => .error (.syntaxError .expectingValue position)
  | .valueOrClose => .error (.syntaxError .expectingValue position)
  | .keyOrClose _ => .error (.syntaxError .expectingPropertyName position)
  | .key _ => .error (.syntaxError .expectingPropertyName position)
  | .colon .. => .error (.syntaxError .expectingColon position)
  | .commaOrClose => .error (.syntaxError .expectingComma position)

/-- Takes in all tokens of a text that ends at a position. -/
def takeAll (stop : Nat) : List Lexeme → Expecting → List Enclosing → Except ReadError Json
  | [], expecting, _ => takeEnd stop expecting
  | l :: rest, expecting, stack => match takeToken l expecting stack with
    | .ok (expecting, stack) => takeAll stop rest expecting stack
    | .error e => .error e

/-- The value of a text. -/
def Json.read (text : List Char) : Except ReadError Json :=
  match text with
  | '\uFEFF' :: _ => .error (.syntaxError .byteOrderMark 0)
  | _ => takeAll text.length (lexemes text) .value []

end JsonSchema
