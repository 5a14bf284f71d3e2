import Plonkish.Decimal.Shortest
import Plonkish.Value

/-!
# Tokens of a JSON text

A JSON text is read from characters to tokens and from tokens to a document.
Beyond the JSON grammar the words `NaN`, `Infinity` and `-Infinity` are numbers,
and an escape in a string may write half of a surrogate pair.

Reading ends at the first character that starts no token.  That place is a token
of its own, which tells why, so a fault counts only if nothing before it does.
-/

namespace Plonkish

/-- The smallest parts of a JSON text. -/
inductive JsonToken where
  /-- A brace, a bracket, a colon or a comma. -/
  | mark (symbol : Char)
  | text (content : Text)
  /-- A number or one of the words. -/
  | atom (value : Value)
  /-- The place where reading ended, and why no value can be read there. -/
  | fault (cause : BadInput)

namespace JsonToken

/-- Whether a code unit is the first half of a surrogate pair. -/
def isFirstHalf (unit : Nat) : Bool :=
  0xD800 ≤ unit && unit < 0xDC00

def isSecondHalf (unit : Nat) : Bool :=
  0xDC00 ≤ unit && unit < 0xE000

/-- The code unit before other code points, joined with the first of them if the two
are the halves of a pair in their order. -/
def joinUnit (unit : Nat) : List CodePoint → List CodePoint
  | [] => [.ofCode unit]
  | next :: points =>
    if isFirstHalf unit && isSecondHalf next.code then
      .ofCode (0x10000 + (unit - 0xD800) * 0x400 + (next.code - 0xDC00)) :: points
    else .ofCode unit :: next :: points

def textOfUnits (units : List Nat) : Text :=
  ⟨units.foldr joinUnit []⟩

def hexDigit? (digit : Char) : Option Nat :=
  if digit.isDigit then some (digit.toNat - '0'.toNat)
  else if 'a' ≤ digit && digit ≤ 'f' then some (digit.toNat - 'a'.toNat + 10)
  else if 'A' ≤ digit && digit ≤ 'F' then some (digit.toNat - 'A'.toNat + 10)
  else none

def codeUnit? (digits : List Char) : Option Nat :=
  digits.foldlM (fun code digit => do return 16 * code + (← hexDigit? digit)) 0

/-- The code point of a character that is escaped by a backslash and one letter. -/
def shortEscape? : Char → Option Nat
  | '"' => some 0x22
  | '\\' => some 0x5C
  | '/' => some 0x2F
  | 'b' => some 0x08
  | 'f' => some 0x0C
  | 'n' => some 0x0A
  | 'r' => some 0x0D
  | 't' => some 0x09
  | _ => none

/-- The code units of a string up to its closing quote, after those that were read
before in reverse order, and what follows the quote. -/
def readString? (before : List Nat) : List Char → Option (List Nat × List Char)
  | [] => none
  | '"' :: rest => some (before.reverse, rest)
  | '\\' :: 'u' :: a :: b :: c :: d :: rest => do
    readString? ((← codeUnit? [a, b, c, d]) :: before) rest
  | '\\' :: letter :: rest => do
    readString? ((← shortEscape? letter) :: before) rest
  | character :: rest =>
    if character < ' ' then none else readString? (character.toNat :: before) rest

/-- A number that has a fraction or an exponent, by its text in double precision:
`whole.fraction * 10^exponent`. -/
def floatOf (negative : Bool) (whole fraction : List Char) (exponent : Int) : Value :=
  let digits := whole ++ fraction
  let number := Binary64.ofDecimal (natOfDigits digits) digits.length (exponent - fraction.length)
  .float ((if negative then "-" else "") ++ number.text)

/-- The digits before the point of a number, and what follows them.  A zero is
followed by no other digit. -/
def readWhole : List Char → List Char × List Char
  | '0' :: rest => (['0'], rest)
  | characters => characters.span Char.isDigit

/-- The digits after the point of a number, and what follows them.  A point
without digits does not belong to the number. -/
def readFraction : List Char → List Char × List Char
  | '.' :: rest =>
    match rest.span Char.isDigit with
    | ([], _) => ([], '.' :: rest)
    | fraction => fraction
  | rest => ([], rest)

def readSign : List Char → Bool × List Char
  | '-' :: rest => (true, rest)
  | '+' :: rest => (false, rest)
  | rest => (false, rest)

/-- The exponent of a number, if there is one, and what follows it.  A letter
without digits does not belong to the number. -/
def readExponent : List Char → Option Int × List Char
  | [] => (none, [])
  | letter :: rest =>
    let (negative, digits) := readSign rest
    match digits.span Char.isDigit with
    | ([], _) => (none, letter :: rest)
    | (digits, after) =>
      if letter == 'e' || letter == 'E' then
        let exponent : Int := natOfDigits digits
        (some (if negative then -exponent else exponent), after)
      else (none, letter :: rest)

/-- A number without its sign, and what follows it.  An integer is refused if it
has too many digits. -/
def readUnsigned (negative : Bool) (characters : List Char) :
    Except BadInput (JsonToken × List Char) :=
  let (whole, rest) := readWhole characters
  let (fraction, rest) := readFraction rest
  let (exponent, rest) := readExponent rest
  if whole.isEmpty then .error .invalidJson
  else if !fraction.isEmpty || exponent.isSome then
    .ok (atom (floatOf negative whole fraction (exponent.getD 0)), rest)
  else if whole.length > maxDigits then .error .numberTooLong
  else
    let number : Int := natOfDigits whole
    .ok (atom (.int (if negative then -number else number)), rest)

def words : List (String × Value) :=
  [("null", .none), ("true", .bool true), ("false", .bool false), ("NaN", .float "nan"),
    ("Infinity", .float "inf"), ("-Infinity", .float "-inf")]

def readWord? (characters : List Char) : Option (JsonToken × List Char) := do
  let (word, value) ← words.find? fun word => word.1.toList.isPrefixOf characters
  return (atom value, characters.drop word.length)

/-- The first token of a text that starts with no blank, and what follows it. -/
def readToken : List Char → Except BadInput (JsonToken × List Char)
  | [] => .error .invalidJson
  | first :: rest =>
    if "\x7b\x7d[]:,".toList.contains first then .ok (mark first, rest)
    else if first == '"' then
      match readString? [] rest with
      | some (units, rest) => .ok (text (textOfUnits units), rest)
      | none => .error .invalidJson
    else
      match readWord? (first :: rest) with
      | some token => .ok token
      | none => if first == '-' then readUnsigned true rest else readUnsigned false (first :: rest)

def isBlank (character : Char) : Bool :=
  character == ' ' || character == '\t' || character == '\n' || character == '\r'

/-- The tokens of a text.  Every token takes at least one character, so as many
steps as there are characters are enough. -/
def readAll (characters : List Char) : List JsonToken :=
  go [] characters.length characters
where
  /-- Reads tokens for at most the given number of steps, after those that were read
  before in reverse order. -/
  go (before : List JsonToken) (steps : Nat) (characters : List Char) : List JsonToken :=
    match characters.dropWhile isBlank, steps with
    | [], _ => before.reverse
    | _, 0 => (fault .invalidJson :: before).reverse
    | characters, steps + 1 =>
      match readToken characters with
      | .ok (token, rest) => go (token :: before) steps rest
      | .error cause => (fault cause :: before).reverse

end JsonToken

end Plonkish
