import Perimeter.Json.Value
import Perimeter.Text.Utf8

/-!
# `Perimeter.Json.Text`: what strings and numbers say

A string is written with the fewest escapes: quotes, backslashes and controls. It
is read with all of them. A string whose escapes name half a surrogate pair, or
whose octets are not UTF-8, is a string but no text.

* `quote`, `textOf?`: the writer and the reader of strings.
* `int64Of?`: the reader of integers.
-/

set_option autoImplicit false

namespace Perimeter.Json

/-- The lower-case hexadecimal digit of a value below sixteen. -/
def lowerHexDigit (v : UInt8) : UInt8 := if v < 10 then v + 0x30 else v + 0x57

/-- How an octet of a text stands in a string. -/
def escapeOctet (b : UInt8) : Bytes :=
  if b = 0x22 then [0x5C, 0x22]
  else if b = 0x5C then [0x5C, 0x5C]
  else if b = 0x08 then [0x5C, 0x62]
  else if b = 0x0C then [0x5C, 0x66]
  else if b = 0x0A then [0x5C, 0x6E]
  else if b = 0x0D then [0x5C, 0x72]
  else if b = 0x09 then [0x5C, 0x74]
  else if b < 0x20 then
    [0x5C, 0x75, 0x30, 0x30, lowerHexDigit (b / 16), lowerHexDigit (b % 16)]
  else [b]

/-- A text as a string with its quotes. -/
def quote (s : String) : Bytes :=
  0x22 :: (Text.utf8 s).flatMap escapeOctet ++ [0x22]

/-- The value of a hexadecimal digit. -/
def hexValue (b : UInt8) : Nat :=
  if b ≤ 0x39 then b.toNat - 0x30
  else if 0x61 ≤ b then b.toNat - 0x57
  else b.toNat - 0x37

/-- The number that four hexadecimal digits spell. -/
def unit (a b c d : UInt8) : Nat :=
  ((hexValue a * 16 + hexValue b) * 16 + hexValue c) * 16 + hexValue d

/-- The octet that an escape of one letter stands for. -/
def shortEscape (b : UInt8) : UInt8 :=
  if b = 0x62 then 0x08
  else if b = 0x66 then 0x0C
  else if b = 0x6E then 0x0A
  else if b = 0x72 then 0x0D
  else if b = 0x74 then 0x09
  else b

/-- The octets of the character of a number. -/
def unitBytes (n : Nat) : Bytes := Text.utf8 (String.singleton (Char.ofNat n))

/-- The octets that a string stands for. -/
def unescape : Bytes → Option Bytes
  | 0x5C :: 0x75 :: a :: b :: c :: d :: rest =>
    let n := unit a b c d
    if 0xDC00 ≤ n ∧ n < 0xE000 then none
    else if 0xD800 ≤ n ∧ n < 0xDC00 then
      -- The first half of a pair: the second has to follow as an escape of its own.
      match rest with
      | 0x5C :: 0x75 :: e :: f :: g :: h :: rest' =>
        let low := unit e f g h
        if 0xDC00 ≤ low ∧ low < 0xE000 then do
          let more ← unescape rest'
          return unitBytes (0x10000 + (n - 0xD800) * 0x400 + (low - 0xDC00)) ++ more
        else none
      | _ => none
    else do
      let more ← unescape rest
      return unitBytes n ++ more
  | 0x5C :: b :: rest => do
    let more ← unescape rest
    return shortEscape b :: more
  | b :: rest => do
    let more ← unescape rest
    return b :: more
  | [] => some []

/-- The text of a string as written between its quotes. -/
def textOf? (raw : Bytes) : Option String := do
  Text.ofUtf8? (← unescape raw)

/-- The value of decimal digits. -/
def decimal (digits : Bytes) : Nat :=
  digits.foldl (fun n b => n * 10 + (b.toNat - 0x30)) 0

/-- The integer that a number is, if it is written without fraction and exponent and
fits in sixty-four bits. A zero with a sign is no integer. -/
def int64Of? (literal : Bytes) : Option Int64 :=
  match literal with
  | 0x2D :: digits =>
    let n := decimal digits
    if digits.all isDigit ∧ 0 < n ∧ n ≤ 2 ^ 63 then some (Int64.ofInt (-(n : Int))) else none
  | digits =>
    let n := decimal digits
    if digits.all isDigit ∧ n < 2 ^ 63 then some (Int64.ofInt n) else none

/-- An integer as a number. -/
def integer (n : Int64) : Bytes := Text.utf8 (toString n.toInt)

/-- Written values with commas between them. -/
def separated (items : List Bytes) : Bytes := (items.intersperse [0x2C]).flatten

/-- Written values between brackets. -/
def array (items : List Bytes) : Bytes := 0x5B :: separated items ++ [0x5D]

/-- A name before a written value. -/
def member (name : String) (value : Bytes) : Bytes := quote name ++ 0x3A :: value

/-- Named and written values between braces. -/
def object (members : List (String × Bytes)) : Bytes :=
  0x7B :: separated (members.map fun m => member m.1 m.2) ++ [0x7D]

namespace Value

/-- The text that a value is. -/
def text? : Value → Option String
  | .string raw => textOf? raw
  | _ => none

/-- The integer that a value is. -/
def int64? : Value → Option Int64
  | .number literal => int64Of? literal
  | _ => none

/-- The list of texts that a value is. -/
def texts? : Value → Option (List String)
  | .array items => items.mapM text?
  | _ => none

/-- The members of an object, each under its name as text. -/
def members? : Value → Option (List (String × Value))
  | .object members => members.mapM fun m => do return (← textOf? m.1, m.2)
  | _ => none

mutual

/-- Whether every string and name in a value is text, and how deep it is nested at
most. The depth of a value that holds no other is zero. -/
def soundDepth? : Value → Option Nat
  | .string raw => (textOf? raw).map fun _ => 0
  | .array items => (soundDepths? items).map (· + 1)
  | .object members => (soundMembers? members).map (· + 1)
  | _ => some 0

/-- The greatest depth of some values. -/
def soundDepths? : List Value → Option Nat
  | [] => some 0
  | v :: rest => do return max (← v.soundDepth?) (← soundDepths? rest)

/-- The greatest depth of some members. -/
def soundMembers? : List (Bytes × Value) → Option Nat
  | [] => some 0
  | (name, v) :: rest => do
    let _ ← textOf? name
    return max (← v.soundDepth?) (← soundMembers? rest)

end

end Value

/-- The greatest depth of a member whose whole value is looked at. With the object
around it that makes 127 levels. -/
def maxMemberDepth : Nat := 126

/-- Whether the whole value of a member can be looked at: it holds nothing but text
and is not nested too deep. -/
def Value.isSound (v : Value) : Bool := v.soundDepth?.any (· ≤ maxMemberDepth)

/-- The value of a member that stands exactly once. -/
def required? (members : List (String × Value)) (name : String) : Option Value :=
  match members.filter fun m => m.1 = name with
  | [m] => some m.2
  | _ => none

/-- The value of a member that stands at most once, `null` if it is missing. -/
def optional? (members : List (String × Value)) (name : String) : Option Value :=
  match members.filter fun m => m.1 = name with
  | [] => some .null
  | [m] => some m.2
  | _ => none

end Perimeter.Json
