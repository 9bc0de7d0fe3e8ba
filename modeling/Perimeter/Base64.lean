import Perimeter.Bytes

/-!
# `Perimeter.Base64`: octets in letters, read leniently

Key files hold their octets in letters, four for three octets, over many lines.
Blanks count for nothing, the padding at the end may be missing, and spare bits may
have any value. Padding before the end is refused.

Letters are taken in blocks of eight, and a block is looked at when the next one
begins or the text ends. Of two faults the one in the earlier block is reported, and
within a block a foreign character comes before misplaced padding.

* `decode_of_blank`: a text of blanks holds nothing.
-/

set_option autoImplicit false

namespace Perimeter.Base64

/-- Why a text is refused. -/
inductive Error where
  | invalidCharacter (octet : UInt8)
  | invalidTrailingPadding
  | prematurePadding
deriving DecidableEq

/-- The error as it is shown. -/
def Error.message : Error → String
  | .invalidCharacter octet => s!"InvalidCharacter({octet.toNat})"
  | .invalidTrailingPadding => "InvalidTrailingPadding"
  | .prematurePadding => "PrematurePadding"

/-- A character that stands for something. -/
inductive Sign where
  /-- A letter and its value, which is below sixty-four. -/
  | letter (value : UInt8)
  | padding
deriving DecidableEq

/-- Whether an octet is a blank: a space, a tab or the end of a line or page. -/
def isBlank (b : UInt8) : Bool := b = 0x20 || (0x09 ≤ b && b ≤ 0x0D)

/-- What an octet stands for. -/
def sign? (b : UInt8) : Option Sign :=
  if 0x41 ≤ b ∧ b ≤ 0x5A then some (.letter (b - 0x41))
  else if 0x61 ≤ b ∧ b ≤ 0x7A then some (.letter (b - 0x47))
  else if 0x30 ≤ b ∧ b ≤ 0x39 then some (.letter (b + 4))
  else if b = 0x2B then some (.letter 62)
  else if b = 0x2F then some (.letter 63)
  else if b = 0x3D then some .padding
  else none

/-- The letters of a block. -/
def blockLength : Nat := 8

/-- The three octets of four letters, or none where there is padding. -/
def quad? : List Sign → Option Bytes
  | [.letter a, .letter b, .letter c, .letter d] =>
    some [a * 4 + b / 16, b * 16 + c / 4, c * 64 + d]
  | _ => none

/-- The octets of the signs after the last four letters without padding. -/
def tail : List Sign → Except Error Bytes
  | [] => .ok []
  | [.letter a, .letter b] | [.letter a, .letter b, .padding, .padding] =>
    .ok [a * 4 + b / 16]
  | [.letter a, .letter b, .letter c] | [.letter a, .letter b, .letter c, .padding] =>
    .ok [a * 4 + b / 16, b * 16 + c / 4]
  | signs => match quad? signs with
    | some octets => .ok octets
    | none => .error .invalidTrailingPadding

/-- The octets of four signs that others follow. -/
def inner (signs : List Sign) : Except Error Bytes :=
  match quad? signs with
  | some octets => .ok octets
  | none => .error .prematurePadding

/-- The octets of the last block. -/
def lastBlock (signs : List Sign) : Except Error Bytes :=
  if 4 < signs.length then do
    let front ← inner (signs.take 4)
    return front ++ (← tail (signs.drop 4))
  else tail signs

/-- The octets of a block that another follows. -/
def innerBlock (signs : List Sign) : Except Error Bytes := do
  let front ← inner (signs.take 4)
  return front ++ (← inner (signs.drop 4))

/-- Reads a text after the signs of an unfinished block. -/
def decodeFrom (block : List Sign) : Bytes → Except Error Bytes
  | [] => lastBlock block
  | b :: rest =>
    if isBlank b then decodeFrom block rest
    else match sign? b with
      | none => .error (.invalidCharacter b)
      | some sign =>
        -- A full block is looked at only when something follows it.
        if block.length < blockLength then decodeFrom (block ++ [sign]) rest
        else do
          let octets ← innerBlock block
          return octets ++ (← decodeFrom [sign] rest)

/-- Reads a text. -/
def decode (text : Bytes) : Except Error Bytes := decodeFrom [] text

theorem decode_of_blank {text : Bytes} (h : ∀ b ∈ text, isBlank b) : decode text = .ok [] := by
  unfold decode
  induction text with
  | nil => rfl
  | cons b rest ih =>
    rw [decodeFrom, if_pos (h b List.mem_cons_self)]
    exact ih fun c hc => h c (List.mem_cons_of_mem _ hc)

end Perimeter.Base64
