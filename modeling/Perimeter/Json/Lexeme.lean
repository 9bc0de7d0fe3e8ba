import Perimeter.Bytes

/-!
# `Perimeter.Json.Lexeme`: the words of a JSON text

A JSON text is cut into words octet by octet: punctuation, the three names,
numbers and strings. A string is kept as it is written between its quotes, since
what its escapes and its octets mean matters only to whoever reads it as text.

* `scan`: the words of a text, or nothing if some octet fits nowhere.
-/

set_option autoImplicit false

namespace Perimeter.Json

/-- A word of a JSON text. -/
inductive Lexeme where
  | openBrace
  | closeBrace
  | openBracket
  | closeBracket
  | colon
  | comma
  | null
  | true
  | false
  /-- A number as written. -/
  | number (literal : Bytes)
  /-- A string as written between its quotes. -/
  | string (raw : Bytes)
deriving DecidableEq

/-- Decimal digits. -/
def isDigit (b : UInt8) : Bool := 0x30 ≤ b && b ≤ 0x39

/-- Hexadecimal digits of either case. -/
def isHexDigit (b : UInt8) : Bool :=
  isDigit b || (0x61 ≤ b && b ≤ 0x66) || (0x41 ≤ b && b ≤ 0x46)

/-- Octets that occur in numbers: digits, signs, the point and the letter e. -/
def isNumeral (b : UInt8) : Bool :=
  isDigit b || b = 0x2B || b = 0x2D || b = 0x2E || b = 0x45 || b = 0x65

/-- Lower-case letters, of which the names are made. -/
def isLetter (b : UInt8) : Bool := 0x61 ≤ b && b ≤ 0x7A

/-- The four octets that separate words. -/
def isSpace (b : UInt8) : Bool := b = 0x20 || b = 0x09 || b = 0x0A || b = 0x0D

/-- The letters that may follow a backslash, besides the one for a number. -/
def isEscape (b : UInt8) : Bool :=
  b = 0x22 || b = 0x5C || b = 0x2F || b = 0x62 || b = 0x66 || b = 0x6E || b = 0x72 || b = 0x74

/-- At least one digit and nothing else. -/
def areDigits (bs : Bytes) : Bool := !bs.isEmpty && bs.all isDigit

/-- An exponent: the letter e, a sign or none, digits. Nothing is fine as well. -/
def isExponent : Bytes → Bool
  | [] => Bool.true
  | e :: sign :: rest =>
    (e = 0x45 || e = 0x65) &&
      if sign = 0x2B || sign = 0x2D then areDigits rest else areDigits (sign :: rest)
  | [_] => Bool.false

/-- A fraction and an exponent, either of which may be missing. -/
def isFraction : Bytes → Bool
  | 0x2E :: rest =>
    areDigits (rest.takeWhile isDigit) && isExponent (rest.dropWhile isDigit)
  | rest => isExponent rest

/-- A number without its sign: no digit follows a leading zero. -/
def isMagnitude : Bytes → Bool
  | 0x30 :: rest => isFraction rest
  | b :: rest => isDigit b && isFraction (rest.dropWhile isDigit)
  | [] => Bool.false

/-- Whether octets spell a number. -/
def isNumber : Bytes → Bool
  | 0x2D :: rest => isMagnitude rest
  | rest => isMagnitude rest

/-- The word that a run of letters is. -/
def name? (letters : Bytes) : Option Lexeme :=
  if letters = [0x6E, 0x75, 0x6C, 0x6C] then some .null
  else if letters = [0x74, 0x72, 0x75, 0x65] then some .true
  else if letters = [0x66, 0x61, 0x6C, 0x73, 0x65] then some .false
  else none

/-- The word that a run of numerals is. -/
def number? (literal : Bytes) : Option Lexeme :=
  if isNumber literal then some (.number literal) else none

/-- The word that a mark of punctuation is. -/
def mark? (b : UInt8) : Option Lexeme :=
  if b = 0x7B then some .openBrace
  else if b = 0x7D then some .closeBrace
  else if b = 0x5B then some .openBracket
  else if b = 0x5D then some .closeBracket
  else if b = 0x3A then some .colon
  else if b = 0x2C then some .comma
  else none

/-- The word under the scanner, with its octets so far, the last one first. -/
inductive Scanning where
  | between
  | letters (done : Bytes)
  | numerals (done : Bytes)
  | string (done : Bytes)
  /-- After a backslash in a string. -/
  | escape (done : Bytes)
  /-- In the number of an escape, with the digits still to come. -/
  | escapeNumber (done : Bytes) (missing : Nat)

/-- The word that ends before something that does not belong to it. -/
def Scanning.finish : Scanning → Option (List Lexeme)
  | .between => some []
  | .letters done => (name? done.reverse).map ([·])
  | .numerals done => (number? done.reverse).map ([·])
  | _ => none

/-- Begins a word with an octet, giving a word that is complete with it. -/
def Scanning.start (b : UInt8) : Option (List Lexeme × Scanning) :=
  if isSpace b then some ([], .between)
  else if b = 0x22 then some ([], .string [])
  else if isDigit b || b = 0x2D then some ([], .numerals [b])
  else if isLetter b then some ([], .letters [b])
  else (mark? b).map fun word => ([word], .between)

/-- Ends a word and begins the next with an octet. -/
def Scanning.turn (s : Scanning) (b : UInt8) : Option (List Lexeme × Scanning) := do
  let before ← s.finish
  let (word, next) ← Scanning.start b
  return (before ++ word, next)

/-- Takes one octet: the words that it completes, and where the scanner is then. -/
def Scanning.step (s : Scanning) (b : UInt8) : Option (List Lexeme × Scanning) :=
  match s with
  | .between => s.turn b
  | .letters done => if isLetter b then some ([], .letters (b :: done)) else s.turn b
  | .numerals done => if isNumeral b then some ([], .numerals (b :: done)) else s.turn b
  | .string done =>
    if b = 0x22 then some ([.string done.reverse], .between)
    else if b = 0x5C then some ([], .escape (b :: done))
    else if b < 0x20 then none
    else some ([], .string (b :: done))
  | .escape done =>
    if b = 0x75 then some ([], .escapeNumber (b :: done) 4)
    else if isEscape b then some ([], .string (b :: done))
    else none
  | .escapeNumber done missing =>
    if isHexDigit b then
      some ([], if missing ≤ 1 then .string (b :: done) else .escapeNumber (b :: done) (missing - 1))
    else none

/-- The words from where the scanner is to the end of the text. -/
def scanFrom (s : Scanning) : Bytes → Option (List Lexeme)
  | [] => s.finish
  | b :: rest => do
    let (words, next) ← s.step b
    let more ← scanFrom next rest
    return words ++ more

/-- The words of a text. -/
def scan (text : Bytes) : Option (List Lexeme) := scanFrom .between text

end Perimeter.Json
