import Perimeter.Text.Unprintable
import Perimeter.Text.Extending

/-!
# `Perimeter.Text.Quoted`: quoted texts for messages

Messages show a text that came from outside between quotes, with every character
escaped that would not be seen or would change what is around it.

* `escape_of_plain`: a character that needs no escape stands for itself.
-/

set_option autoImplicit false

namespace Perimeter.Text

/-- Whether one of the ranges holds the character. -/
def inRanges (ranges : List (Nat × Nat)) (c : Char) : Bool :=
  ranges.any fun r => r.1 ≤ c.toNat && c.toNat ≤ r.2

/-- Whether a character is written as its number: it has no glyph, or it would
combine with the character before it. -/
def isHidden (c : Char) : Bool :=
  if c.toNat < 0x7F then c.toNat < 0x20
  else inRanges unprintableRanges c || inRanges extendingRanges c

/-- A number in lower-case hexadecimal digits. -/
def hexNumber (n : Nat) : List Char := Nat.toDigits 16 n

/-- How a character stands between two marks `mark`. -/
def escape (mark c : Char) : List Char :=
  if c = '\x00' then ['\\', '0']
  else if c = '\t' then ['\\', 't']
  else if c = '\n' then ['\\', 'n']
  else if c = '\r' then ['\\', 'r']
  else if c = '\\' then ['\\', '\\']
  else if c = mark then ['\\', mark]
  else if isHidden c then ['\\', 'u', '\x7b'] ++ hexNumber c.toNat ++ ['\x7d']
  else [c]

/-- A text between double quotes. -/
def quoted (s : String) : String :=
  String.ofList ('"' :: s.toList.flatMap (escape '"') ++ ['"'])

/-- A character between single quotes. -/
def quotedChar (c : Char) : String :=
  String.ofList ('\'' :: escape '\'' c ++ ['\''])

theorem escape_of_plain {mark c : Char} (hmark : c ≠ mark) (hslash : c ≠ '\\')
    (hseen : isHidden c = false) : escape mark c = [c] := by
  have hctl : ¬ c.toNat < 0x20 := by
    intro h
    rw [isHidden, if_pos (Nat.lt_trans h (by decide))] at hseen
    simp [h] at hseen
  have hne : ∀ d : Char, d.toNat < 0x20 → c ≠ d := fun d hd h => hctl (h ▸ hd)
  simp [escape, hmark, hslash, hseen, hne '\x00' (by decide), hne '\t' (by decide),
    hne '\n' (by decide), hne '\r' (by decide)]

end Perimeter.Text
