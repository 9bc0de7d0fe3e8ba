import Perimeter.Text.Utf8
import Perimeter.Text.Quoted

/-!
# `Perimeter.Hex`: hexadecimal digits

Secrets and fingerprints are written as two digits per octet. Either letter case
is read, lower case is written, and a fault names the octet and where it stands.

* `decode_encode`: what is written is read back.
-/

set_option autoImplicit false

namespace Perimeter.Hex

/-- Why a text is not hexadecimal. -/
inductive Error where
  /-- The number of digits is odd. -/
  | oddLength
  /-- The octet at an index of the text is no digit. -/
  | badDigit (octet : UInt8) (index : Nat)
deriving DecidableEq

/-- The error in words. The octet is shown as the character of its number. -/
def Error.message : Error → String
  | .oddLength => "Odd number of digits"
  | .badDigit octet index =>
    s!"Invalid character {Text.quotedChar (Char.ofNat octet.toNat)} at position {index}"

/-- The value of a digit. -/
def digit? (b : UInt8) : Option UInt8 :=
  if 0x30 ≤ b ∧ b ≤ 0x39 then some (b - 0x30)
  else if 0x61 ≤ b ∧ b ≤ 0x66 then some (b - 0x57)
  else if 0x41 ≤ b ∧ b ≤ 0x46 then some (b - 0x37)
  else none

/-- The digit of a value below sixteen. -/
def digit (v : UInt8) : UInt8 := if v < 10 then v + 0x30 else v + 0x57

/-- The value of the octet at an index of the text. -/
def digitAt (b : UInt8) (index : Nat) : Except Error UInt8 :=
  match digit? b with
  | some v => .ok v
  | none => .error (.badDigit b index)

/-- Reads pairs of digits, the first of which stands at `index`. -/
def decodePairs (index : Nat) : Bytes → Except Error Bytes
  | [] => .ok []
  | [_] => .error .oddLength
  | high :: low :: rest => do
    let h ← digitAt high index
    let l ← digitAt low (index + 1)
    let bs ← decodePairs (index + 2) rest
    return (h * 16 + l) :: bs

/-- Reads the digits of a text. The length is looked at first. -/
def decode (text : Bytes) : Except Error Bytes :=
  if text.length % 2 = 1 then .error .oddLength else decodePairs 0 text

/-- Two digits for each octet. -/
def encodeBytes : Bytes → Bytes
  | [] => []
  | b :: rest => digit (b / 16) :: digit (b % 16) :: encodeBytes rest

/-- The digits of octets as a text. -/
def encode (bs : Bytes) : String := Text.ofAscii (encodeBytes bs)

theorem length_encodeBytes (bs : Bytes) : (encodeBytes bs).length = 2 * bs.length := by
  induction bs with
  | nil => rfl
  | cons b rest ih => simp [encodeBytes, ih]; omega

private theorem digit?_high : ∀ b : UInt8, digit? (digit (b / 16)) = some (b / 16) :=
  forall_octet (by decide +kernel)

private theorem digit?_low : ∀ b : UInt8, digit? (digit (b % 16)) = some (b % 16) :=
  forall_octet (by decide +kernel)

private theorem decodePairs_encodeBytes (index : Nat) (bs : Bytes) :
    decodePairs index (encodeBytes bs) = .ok bs := by
  induction bs generalizing index with
  | nil => rfl
  | cons b rest ih =>
    simp [encodeBytes, decodePairs, digitAt, digit?_high, digit?_low, ih, join_halves, bind,
      Except.bind, pure, Except.pure]

theorem decode_encode (bs : Bytes) : decode (encodeBytes bs) = .ok bs := by
  rw [decode, if_neg (by rw [length_encodeBytes]; omega), decodePairs_encodeBytes]

private theorem digit_lt {v : UInt8} (h : v < 16) : digit v < 128 := by
  unfold digit
  simp only [UInt8.lt_iff_toNat_lt, UInt8.reduceToNat] at *
  split <;> rw [UInt8.toNat_add] <;> simp only [UInt8.reduceToNat] <;> omega

private theorem halves_lt (b : UInt8) : b / 16 < 16 ∧ b % 16 < 16 := by
  have hb := b.toNat_lt
  refine ⟨?_, ?_⟩ <;>
    simp only [UInt8.lt_iff_toNat_lt, UInt8.toNat_div, UInt8.toNat_mod, UInt8.reduceToNat] <;> omega

theorem isAscii_encodeBytes (bs : Bytes) : Text.isAscii (encodeBytes bs) := by
  induction bs with
  | nil => rfl
  | cons b rest ih =>
    have hhigh := digit_lt (halves_lt b).1
    have hlow := digit_lt (halves_lt b).2
    simp only [Text.isAscii, encodeBytes, List.all_cons, hhigh, hlow, decide_true] at ih ⊢
    exact ih

/-- The digits of octets, as a text, are read back. -/
theorem decode_utf8_encode (bs : Bytes) : decode (Text.utf8 (encode bs)) = .ok bs := by
  rw [encode, Text.utf8_ofAscii (isAscii_encodeBytes bs), decode_encode]

end Perimeter.Hex
