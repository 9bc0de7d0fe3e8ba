import Perimeter.Toml.Text

/-!
# `Perimeter.Toml.Number`: integers and fractional numbers

Integers are decimal with or without a sign, or hexadecimal, octal or binary without
one, and fit in sixty-four bits. A low line may stand between two digits. Decimal
integers have no leading zeros.

A fractional number has a fraction, an exponent or both. One that is too great for a
double is refused, though one too far below zero is not.

* `numberOf_append`: the value of digits before and behind a point.
-/

set_option autoImplicit false

namespace Perimeter.Toml

/-- Whether a character is a digit of a base. -/
def isDigit (base : Nat) (c : Char) : Bool := (hexValue? c).any (· < base)

/-- The number that digits of a base spell. -/
def numberOf (base : Nat) (digits : List Char) : Nat :=
  digits.foldl (fun n c => n * base + (hexValue? c).getD 0) 0

/-- Reads the digits behind a first one. A low line must stand before a digit. -/
def moreDigits (base : Nat) : Scanner (List Char)
  | [] => some ([], [])
  | c :: rest =>
    if isDigit base c then before c (moreDigits base rest)
    else if c = '_' then
      if (rest.head?.any (isDigit base)) then moreDigits base rest else none
    else some ([], c :: rest)

/-- Reads digits, one at least. -/
def digits? (base : Nat) : Scanner (List Char)
  | c :: rest => if isDigit base c then before c (moreDigits base rest) else none
  | [] => none

/-- Reads a sign, if one stands in front, and says whether it is a minus. -/
def sign : List Char → Bool × List Char
  | '-' :: rest => (true, rest)
  | '+' :: rest => (false, rest)
  | cs => (false, cs)

/-- Reads the digits of a decimal integer: a zero, or digits that start with none. -/
def wholeDigits? : Scanner (List Char)
  | '0' :: rest => some (['0'], rest)
  | cs => digits? 10 cs

/-- The integer of a size and a sign, if it fits in sixty-four bits. -/
def int64? (negative : Bool) (n : Nat) : Option Int64 :=
  if negative then if n ≤ 2 ^ 63 then some (Int64.ofInt (-n)) else none
  else if n < 2 ^ 63 then some (Int64.ofInt n) else none

/-- Reads the digits of a base as an integer. -/
def based? (base : Nat) : Scanner Int64 := fun cs => do
  let (digits, rest) ← digits? base cs
  return (← int64? false (numberOf base digits), rest)

/-- Reads an integer. -/
def integer? : Scanner Int64
  | '0' :: 'x' :: rest => based? 16 rest
  | '0' :: 'o' :: rest => based? 8 rest
  | '0' :: 'b' :: rest => based? 2 rest
  | cs => do
    let (negative, unsigned) := sign cs
    let (digits, rest) ← wholeDigits? unsigned
    return (← int64? negative (numberOf 10 digits), rest)

/-- A decimal number: its digits without the point, and the power of ten of the last. -/
structure Decimal where
  negative : Bool
  digits : List Char
  exponent : Int

/-- The least number that is rounded to infinity: half a step above the greatest
double. -/
def leastInfinite : Nat := 2 ^ 1024 - 2 ^ 970

/-- Whether a number is too great for a double. Where the place of the first digit
decides, the power is not computed. -/
def Decimal.overflows (d : Decimal) : Bool :=
  let significant := d.digits.dropWhile (· = '0')
  let n := numberOf 10 significant
  let magnitude : Int := significant.length + d.exponent
  if d.negative || n = 0 || magnitude < 308 then false
  else if 310 < magnitude then true
  else if 0 ≤ d.exponent then leastInfinite ≤ n * 10 ^ d.exponent.toNat
  else leastInfinite * 10 ^ (-d.exponent).toNat ≤ n

/-- Reads an exponent. -/
def exponent? (cs : List Char) : Option (Int × List Char) :=
  match cs with
  | c :: rest => if c = 'e' || c = 'E' then do
      let (negative, unsigned) := sign rest
      let (digits, rest) ← digits? 10 unsigned
      let n : Int := numberOf 10 digits
      return (if negative then -n else n, rest)
    else none
  | [] => none

/-- Reads a point and digits. -/
def fraction? : Scanner (List Char)
  | '.' :: rest => digits? 10 rest
  | _ => none

/-- Reads a number with a fraction, an exponent or both. -/
def decimal? : Scanner Decimal := fun cs => do
  let (negative, unsigned) := sign cs
  let (whole, rest) ← wholeDigits? unsigned
  match fraction? rest with
  | some (fraction, rest) =>
    let (exponent, rest) := (exponent? rest).getD (0, rest)
    return (⟨negative, whole ++ fraction, exponent - fraction.length⟩, rest)
  | none =>
    let (exponent, rest) ← exponent? rest
    return (⟨negative, whole, exponent⟩, rest)

/-- Reads an infinity or no number, with or without a sign. -/
def special? (cs : List Char) : Option (List Char) :=
  match (sign cs).2 with
  | 'i' :: 'n' :: 'f' :: rest => some rest
  | 'n' :: 'a' :: 'n' :: rest => some rest
  | _ => none

/-- Reads a fractional number as it is written. -/
def float? : Scanner String := fun cs =>
  match decimal? cs with
  | some (d, rest) => if d.overflows then none else some (taken cs rest, rest)
  | none => (special? cs).map fun rest => (taken cs rest, rest)

private theorem foldl_digits (base acc : Nat) (b : List Char) :
    b.foldl (fun n c => n * base + (hexValue? c).getD 0) acc =
      acc * base ^ b.length + numberOf base b := by
  induction b generalizing acc with
  | nil => simp [numberOf]
  | cons c rest ih =>
    have hall : numberOf base (c :: rest) =
        (0 * base + (hexValue? c).getD 0) * base ^ rest.length + numberOf base rest := ih _
    rw [List.foldl_cons, ih, hall, List.length_cons, Nat.pow_succ]
    grind

theorem numberOf_append (base : Nat) (a b : List Char) :
    numberOf base (a ++ b) = numberOf base a * base ^ b.length + numberOf base b := by
  rw [numberOf, List.foldl_append, foldl_digits]
  rfl

end Perimeter.Toml
