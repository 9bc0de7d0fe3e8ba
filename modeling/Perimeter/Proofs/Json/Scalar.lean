import Mathlib.Data.List.TakeWhile
import Perimeter.Json.Text

/-!
# `Perimeter.Proofs.Json.Scalar`: strings and integers are read as they were written

A text is written octet by octet, and every octet is read back by itself: `unescape_escapeOctet`
is the step and `unescape_escaped` the run. An integer is written digit by digit
(`digits_of_le`), so what holds of it is shown by induction on its number of digits.

* `textOf?_escaped`: a text is read back from its string.
* `int64Of?_integer`: an integer is read back from its number.
* `isNumber_integer`: what is written for an integer is a number.
-/

set_option autoImplicit false

namespace Perimeter.Json

/-! ### Strings -/

/-- What stands between the quotes of a text. -/
def escaped (s : String) : Bytes := (Text.utf8 s).flatMap escapeOctet

theorem quote_eq (s : String) : quote s = 0x22 :: (escaped s ++ [0x22]) := rfl

/-- A control character is written with its number, and is its own only octet. -/
private theorem control_spec : ∀ b : UInt8, b < 0x20 →
    unit 0x30 0x30 (lowerHexDigit (b / 16)) (lowerHexDigit (b % 16)) = b.toNat ∧
      unitBytes b.toNat = [b] :=
  forall_octet (by decide +kernel)

/-- The number of a character that is no half of a pair stands for it. -/
private theorem unescape_unit {a b c d : UInt8} (rest : Bytes) (h : unit a b c d < 0xD800) :
    unescape (0x5C :: 0x75 :: a :: b :: c :: d :: rest) =
      (unescape rest).map (unitBytes (unit a b c d) ++ ·) := by
  rw [unescape.eq_def]
  show (if _ then _ else _) = _
  rw [if_neg (by omega), if_neg (by omega)]
  cases unescape rest <;> rfl

/-- An octet is read back from how it stands in a string, whatever follows. -/
theorem unescape_escapeOctet (b : UInt8) (rest : Bytes) :
    unescape (escapeOctet b ++ rest) = (unescape rest).map (b :: ·) := by
  unfold escapeOctet
  split
  · subst b
    cases hrest : unescape rest <;> simp [unescape, shortEscape, hrest]
  split
  · subst b
    cases hrest : unescape rest <;> simp [unescape, shortEscape, hrest]
  rename_i hbackslash
  -- The five controls that have a letter of their own.
  iterate 5
    split
    · subst b
      cases hrest : unescape rest <;> simp [unescape, shortEscape, hrest]
  split
  · rename_i hcontrol
    obtain ⟨hunit, hbytes⟩ := control_spec b hcontrol
    have hb : b.toNat < 0x20 := hcontrol
    show unescape (0x5C :: 0x75 :: 0x30 :: 0x30 :: _ :: _ :: rest) = _
    rw [unescape_unit rest (by omega), hunit, hbytes]
    rfl
  · -- Any other octet stands for itself, and is no backslash.
    show unescape (b :: rest) = _
    rw [unescape.eq_4 b rest (fun _ _ _ _ _ hb => absurd hb hbackslash)
      (fun _ _ hb => absurd hb hbackslash)]
    cases unescape rest <;> rfl

/-- Octets are read back from how they stand in a string. -/
theorem unescape_escaped (bs : Bytes) : unescape (bs.flatMap escapeOctet) = some bs := by
  induction bs with
  | nil => rfl
  | cons b rest ih =>
    rw [List.flatMap_cons, unescape_escapeOctet, ih]
    rfl

/-- A text is read back from its string. -/
theorem textOf?_escaped (s : String) : textOf? (escaped s) = some s := by
  rw [textOf?, escaped, unescape_escaped]
  exact Text.ofUtf8?_utf8 s

/-! ### Integers -/

/-- The decimal digits of a number. -/
def digits (n : Nat) : Bytes := Text.utf8 n.repr

/-- A number below ten is written as one digit. -/
private theorem digit_spec : ∀ n < 10, digits n = [0x30 + UInt8.ofNat n] ∧
    isDigit (0x30 + UInt8.ofNat n) ∧ (0x30 + UInt8.ofNat n).toNat - 0x30 = n ∧
      (0x30 + UInt8.ofNat n = 0x30 → n = 0) := by
  decide +kernel

theorem digits_of_le {n : Nat} (h : 10 ≤ n) : digits n = digits (n / 10) ++ digits (n % 10) := by
  rw [digits, Nat.repr_eq_repr_append_repr h, Text.utf8_append]
  rfl

/-- A number is written with digits, and only zero with a leading zero. -/
theorem digits_eq_cons (n : Nat) :
    ∃ d rest, digits n = d :: rest ∧ isDigit d ∧ rest.all isDigit ∧
      (d = 0x30 → n = 0 ∧ rest = []) := by
  induction n using Nat.strongRecOn with
  | _ n ih =>
    by_cases hlt : n < 10
    · obtain ⟨heq, hdigit, -, hzero⟩ := digit_spec n hlt
      exact ⟨_, [], heq, hdigit, rfl, fun h => ⟨hzero h, rfl⟩⟩
    · obtain ⟨d, rest, heq, hd, hrest, hzero⟩ := ih (n / 10) (by omega)
      obtain ⟨hlast, hdigit, -, -⟩ := digit_spec (n % 10) (Nat.mod_lt n (by decide))
      refine ⟨d, rest ++ [0x30 + UInt8.ofNat (n % 10)], ?_, hd, ?_, ?_⟩
      · rw [digits_of_le (by omega), heq, hlast]
        rfl
      · rw [List.all_append, hrest, List.all_cons, hdigit]
        rfl
      · -- The number without its last digit is not zero, and so is the digit that it begins with.
        intro h
        have := (hzero h).1
        omega

/-- The value of the digits of a number is the number. -/
theorem decimal_digits (n : Nat) : decimal (digits n) = n := by
  induction n using Nat.strongRecOn with
  | _ n ih =>
    by_cases hlt : n < 10
    · obtain ⟨heq, -, hvalue, -⟩ := digit_spec n hlt
      rw [heq]
      simpa [decimal] using hvalue
    · obtain ⟨hlast, -, hvalue, -⟩ := digit_spec (n % 10) (Nat.mod_lt n (by decide))
      have hfront := ih (n / 10) (by omega)
      rw [decimal] at hfront
      rw [digits_of_le (by omega), hlast, decimal, List.foldl_append, hfront]
      show n / 10 * 10 + _ = n
      rw [hvalue]
      omega

theorem all_isDigit_digits (n : Nat) : (digits n).all isDigit := by
  obtain ⟨d, rest, heq, hd, hrest, -⟩ := digits_eq_cons n
  rw [heq, List.all_cons, hd, hrest]
  rfl

/-- A number below a power of ten is written with so many digits at most. -/
theorem length_digits_le {n k : Nat} (hk : 0 < k) (h : n < 10 ^ k) : (digits n).length ≤ k := by
  induction k generalizing n with
  | zero => omega
  | succ k ih =>
    by_cases hlt : n < 10
    · rw [(digit_spec n hlt).1]
      exact Nat.succ_le_succ (Nat.zero_le k)
    · rw [Nat.pow_succ] at h
      have hpos : 0 < k := Nat.pos_of_ne_zero (by rintro rfl; omega)
      have hfront := ih hpos (show n / 10 < 10 ^ k by omega)
      rw [digits_of_le (by omega), List.length_append,
        (digit_spec (n % 10) (Nat.mod_lt n (by decide))).1, List.length_singleton]
      omega

/-- An integer is written as its digits, with a sign before them if it is negative. -/
theorem integer_eq (n : Int64) :
    integer n = if 0 ≤ n.toInt then digits n.toInt.toNat else 0x2D :: digits (-n.toInt).toNat := by
  rw [integer, Int.toString_eq_repr, Int.repr_eq_if]
  split
  · rfl
  · rw [Text.utf8_append]
    rfl

/-- The digits of a number are a number. -/
theorem isMagnitude_digits (n : Nat) : isMagnitude (digits n) := by
  obtain ⟨d, rest, heq, hd, hrest, hzero⟩ := digits_eq_cons n
  rw [heq]
  by_cases h : d = 0x30
  · -- Nothing follows a leading zero.
    obtain ⟨-, rfl⟩ := hzero h
    rw [h]
    rfl
  · have hdrop : rest.dropWhile isDigit = [] :=
      List.dropWhile_eq_nil_iff.mpr (List.all_eq_true.mp hrest)
    rw [isMagnitude.eq_2 _ _ (fun hd => absurd hd h), hd, hdrop]
    rfl

/-- A digit is a numeral, and no blank, quote or sign. -/
theorem isDigit_spec : ∀ d : UInt8, isDigit d →
    isNumeral d ∧ isSpace d = false ∧ d ≠ 0x22 ∧ d ≠ 0x2D :=
  forall_octet (by decide +kernel)

/-- What is written for an integer is a number. -/
theorem isNumber_integer (n : Int64) : isNumber (integer n) := by
  rw [integer_eq]
  split
  · obtain ⟨d, rest, heq, hd, -, -⟩ := digits_eq_cons n.toInt.toNat
    have hmagnitude := isMagnitude_digits n.toInt.toNat
    rw [heq] at hmagnitude ⊢
    obtain ⟨-, -, -, hminus⟩ := isDigit_spec d hd
    rw [isNumber.eq_2 _ (fun _ h => hminus (List.cons.inj h).1)]
    exact hmagnitude
  · exact isMagnitude_digits _

/-- An integer is read back from its number. -/
theorem int64Of?_integer (n : Int64) : int64Of? (integer n) = some n := by
  have hlt := n.toInt_lt
  have hge := n.le_toInt
  rw [integer_eq]
  split
  · rename_i hpositive
    obtain ⟨d, rest, heq, hd, -, -⟩ := digits_eq_cons n.toInt.toNat
    have hfits : decimal (digits n.toInt.toNat) < 2 ^ 63 := by
      rw [decimal_digits]
      omega
    obtain ⟨-, -, -, hminus⟩ := isDigit_spec d hd
    rw [int64Of?.eq_2 _ (fun _ h => hminus (List.cons.inj (heq ▸ h)).1)]
    show (if _ then _ else _) = _
    rw [if_pos ⟨all_isDigit_digits _, hfits⟩, decimal_digits, Int.toNat_of_nonneg hpositive,
      Int64.ofInt_toInt]
  · rename_i hnegative
    have hvalue : ((-n.toInt).toNat : Int) = -n.toInt := Int.toNat_of_nonneg (by omega)
    have hfits : 0 < decimal (digits (-n.toInt).toNat) ∧
        decimal (digits (-n.toInt).toNat) ≤ 2 ^ 63 := by
      rw [decimal_digits]
      omega
    show (if _ then _ else _) = _
    rw [if_pos ⟨all_isDigit_digits _, hfits⟩, decimal_digits, hvalue, Int.neg_neg,
      Int64.ofInt_toInt]

end Perimeter.Json
