import Perimeter.Bytes

/-!
# `Perimeter.Base64Url`: octets in the alphabet of URLs

Three octets are written as four letters, a rest of one or two octets as two or
three, without padding. Only what is written is read: padding, foreign letters
and spare bits that are not zero are refused, so that octets have one spelling.

* `decode_encode`: what is written is read back.
* `encode_of_decode`: what is read is written again as it was.
-/

set_option autoImplicit false

namespace Perimeter.Base64Url

/-- The letter of a value below sixty-four. -/
def letter (v : UInt8) : UInt8 :=
  if v < 26 then v + 0x41
  else if v < 52 then v + 0x47
  else if v < 62 then v - 4
  else if v = 62 then 0x2D
  else 0x5F

/-- The value of a letter. -/
def value? (b : UInt8) : Option UInt8 :=
  if 0x41 ≤ b ∧ b ≤ 0x5A then some (b - 0x41)
  else if 0x61 ≤ b ∧ b ≤ 0x7A then some (b - 0x47)
  else if 0x30 ≤ b ∧ b ≤ 0x39 then some (b + 4)
  else if b = 0x2D then some 62
  else if b = 0x5F then some 63
  else none

/-- Writes octets as letters. -/
def encode : Bytes → Bytes
  | [] => []
  | [a] => [letter (a / 4), letter (a % 4 * 16)]
  | [a, b] => [letter (a / 4), letter (a % 4 * 16 + b / 16), letter (b % 16 * 4)]
  | a :: b :: c :: rest =>
    letter (a / 4) :: letter (a % 4 * 16 + b / 16) :: letter (b % 16 * 4 + c / 64) ::
      letter (c % 64) :: encode rest

/-- Reads letters as octets. -/
def decode : Bytes → Option Bytes
  | [] => some []
  | [_] => none
  | [a, b] => do
    let x ← value? a
    let y ← value? b
    if y % 16 = 0 then some [x * 4 + y / 16] else none
  | [a, b, c] => do
    let x ← value? a
    let y ← value? b
    let z ← value? c
    if z % 4 = 0 then some [x * 4 + y / 16, y % 16 * 16 + z / 4] else none
  | a :: b :: c :: d :: rest => do
    let x ← value? a
    let y ← value? b
    let z ← value? c
    let w ← value? d
    let octets ← decode rest
    return (x * 4 + y / 16) :: (y % 16 * 16 + z / 4) :: (z % 4 * 64 + w) :: octets

private theorem value?_letter : ∀ v : UInt8, v < 64 → value? (letter v) = some v :=
  forall_octet (by decide +kernel)

private theorem high_lt (a : UInt8) : a / 4 < 64 ∧ a % 4 * 16 < 64 := by
  have ha := a.toNat_lt
  refine ⟨?_, ?_⟩ <;>
    simp only [UInt8.lt_iff_toNat_lt, UInt8.toNat_mul, UInt8.toNat_div, UInt8.toNat_mod,
      UInt8.reduceToNat] <;> omega

private theorem low_lt (a : UInt8) : a % 64 < 64 ∧ a % 16 * 4 < 64 := by
  refine ⟨?_, ?_⟩ <;>
    simp only [UInt8.lt_iff_toNat_lt, UInt8.toNat_mul, UInt8.toNat_mod, UInt8.reduceToNat] <;> omega

private theorem middle (a b : UInt8) :
    a % 4 * 16 + b / 16 < 64 ∧ (a % 4 * 16 + b / 16) / 16 = a % 4 ∧
      (a % 4 * 16 + b / 16) % 16 = b / 16 := by
  have ha := a.toNat_lt
  have hb := b.toNat_lt
  refine ⟨?_, ?_, ?_⟩ <;>
    simp only [UInt8.lt_iff_toNat_lt, ← UInt8.toNat_inj, UInt8.toNat_add, UInt8.toNat_mul,
      UInt8.toNat_div, UInt8.toNat_mod, UInt8.reduceToNat] <;> omega

private theorem last (b c : UInt8) :
    b % 16 * 4 + c / 64 < 64 ∧ (b % 16 * 4 + c / 64) / 4 = b % 16 ∧
      (b % 16 * 4 + c / 64) % 4 = c / 64 := by
  have hb := b.toNat_lt
  have hc := c.toNat_lt
  refine ⟨?_, ?_, ?_⟩ <;>
    simp only [UInt8.lt_iff_toNat_lt, ← UInt8.toNat_inj, UInt8.toNat_add, UInt8.toNat_mul,
      UInt8.toNat_div, UInt8.toNat_mod, UInt8.reduceToNat] <;> omega

private theorem tail_two (a : UInt8) : a % 4 * 16 % 16 = 0 ∧ a % 4 * 16 / 16 = a % 4 := by
  refine ⟨?_, ?_⟩ <;>
    simp only [← UInt8.toNat_inj, UInt8.toNat_mul, UInt8.toNat_div, UInt8.toNat_mod,
      UInt8.reduceToNat] <;> omega

private theorem tail_three (b : UInt8) : b % 16 * 4 % 4 = 0 ∧ b % 16 * 4 / 4 = b % 16 := by
  refine ⟨?_, ?_⟩ <;>
    simp only [← UInt8.toNat_inj, UInt8.toNat_mul, UInt8.toNat_div, UInt8.toNat_mod,
      UInt8.reduceToNat] <;> omega

theorem length_encode (bs : Bytes) : (encode bs).length = (4 * bs.length + 2) / 3 := by
  fun_induction encode bs with
  | case1 => rfl
  | case2 | case3 => simp only [List.length_cons, List.length_nil]
  | case4 a b c rest ih =>
    simp only [List.length_cons, ih]
    omega

/-- Octets are read back from their letters. -/
theorem decode_encode (bs : Bytes) : decode (encode bs) = some bs := by
  fun_induction encode bs with
  | case1 => rfl
  | case2 a =>
    simp [decode, value?_letter _ (high_lt a).1, value?_letter _ (high_lt a).2,
      (tail_two a).1, (tail_two a).2, join_halves]
  | case3 a b =>
    simp [decode, value?_letter _ (high_lt a).1, value?_letter _ (middle a b).1,
      value?_letter _ (low_lt b).2, (middle a b).2.1, (middle a b).2.2,
      (tail_three b).1, (tail_three b).2, join_halves]
  | case4 a b c rest ih =>
    simp [decode, value?_letter _ (high_lt a).1, value?_letter _ (middle a b).1,
      value?_letter _ (last b c).1, value?_letter _ (low_lt c).1, (middle a b).2.1,
      (middle a b).2.2, (last b c).2.1, (last b c).2.2, join_halves, ih]

/-! ### One spelling -/

private theorem letter_value? {b v : UInt8} (h : value? b = some v) : v < 64 ∧ letter v = b := by
  have hall : ∀ b : UInt8, (value? b).all fun v => v < 64 ∧ letter v = b :=
    forall_octet (by decide +kernel)
  have hb := hall b
  rw [h] at hb
  exact of_decide_eq_true hb

private theorem split_high {x y : UInt8} (hx : x < 64) (hy : y < 64) :
    (x * 4 + y / 16) / 4 = x ∧ (x * 4 + y / 16) % 4 = y / 16 := by
  simp only [UInt8.lt_iff_toNat_lt, UInt8.reduceToNat] at hx hy
  refine ⟨?_, ?_⟩ <;>
    simp only [← UInt8.toNat_inj, UInt8.toNat_add, UInt8.toNat_mul,
      UInt8.toNat_div, UInt8.toNat_mod, UInt8.reduceToNat] <;> omega

private theorem split_middle {y z : UInt8} (hz : z < 64) :
    (y % 16 * 16 + z / 4) / 16 = y % 16 ∧ (y % 16 * 16 + z / 4) % 16 = z / 4 := by
  simp only [UInt8.lt_iff_toNat_lt, UInt8.reduceToNat] at hz
  refine ⟨?_, ?_⟩ <;>
    simp only [← UInt8.toNat_inj, UInt8.toNat_add, UInt8.toNat_mul,
      UInt8.toNat_div, UInt8.toNat_mod, UInt8.reduceToNat] <;> omega

private theorem split_low {z w : UInt8} (hw : w < 64) :
    (z % 4 * 64 + w) / 64 = z % 4 ∧ (z % 4 * 64 + w) % 64 = w := by
  simp only [UInt8.lt_iff_toNat_lt, UInt8.reduceToNat] at hw
  refine ⟨?_, ?_⟩ <;>
    simp only [← UInt8.toNat_inj, UInt8.toNat_add, UInt8.toNat_mul,
      UInt8.toNat_div, UInt8.toNat_mod, UInt8.reduceToNat] <;> omega

private theorem spare_bits {a m : UInt8} (h : a % m = 0) : a / m * m = a := by
  have hjoin := join_halves a m
  rwa [h, UInt8.add_zero] at hjoin

/-- What reads as octets is what is written for them: no other letters mean the same. -/
theorem encode_of_decode {text bs : Bytes} (h : decode text = some bs) : encode bs = text := by
  fun_induction decode text generalizing bs with
  | case1 => cases h; rfl
  | case2 => cases h
  | case3 a b =>
    simp only [Option.bind_eq_bind, Option.bind_eq_some_iff] at h
    obtain ⟨x, hx, y, hy, h⟩ := h
    split at h
    · rename_i hspare
      cases h
      obtain ⟨hx', rfl⟩ := letter_value? hx
      obtain ⟨hy', rfl⟩ := letter_value? hy
      rw [encode, (split_high hx' hy').1, (split_high hx' hy').2, spare_bits hspare]
    · cases h
  | case4 a b c =>
    simp only [Option.bind_eq_bind, Option.bind_eq_some_iff] at h
    obtain ⟨x, hx, y, hy, z, hz, h⟩ := h
    split at h
    · rename_i hspare
      cases h
      obtain ⟨hx', rfl⟩ := letter_value? hx
      obtain ⟨hy', rfl⟩ := letter_value? hy
      obtain ⟨hz', rfl⟩ := letter_value? hz
      rw [encode, (split_high hx' hy').1, (split_high hx' hy').2, (split_middle hz').1,
        (split_middle hz').2, join_halves, spare_bits hspare]
    · cases h
  | case5 a b c d rest ih =>
    simp only [Option.bind_eq_bind, Option.bind_eq_some_iff, Option.pure_def,
      Option.some.injEq] at h
    obtain ⟨x, hx, y, hy, z, hz, w, hw, octets, hrest, rfl⟩ := h
    obtain ⟨hx', rfl⟩ := letter_value? hx
    obtain ⟨hy', rfl⟩ := letter_value? hy
    obtain ⟨hz', rfl⟩ := letter_value? hz
    obtain ⟨hw', rfl⟩ := letter_value? hw
    rw [encode, (split_high hx' hy').1, (split_high hx' hy').2, (split_middle hz').1,
      (split_middle hz').2, (split_low hw').1, (split_low hw').2, join_halves, join_halves,
      ih hrest]

/-- What is written are letters. -/
theorem isSome_value?_of_mem_encode {bs : Bytes} {b : UInt8} (h : b ∈ encode bs) :
    (value? b).isSome := by
  have hletter : ∀ v : UInt8, v < 64 → (value? (letter v)).isSome := by
    intro v hv
    rw [value?_letter v hv]
    rfl
  fun_induction encode bs with
  | case1 => cases h
  | case2 a =>
    simp only [List.mem_cons, List.not_mem_nil, or_false] at h
    rcases h with rfl | rfl
    · exact hletter _ (high_lt a).1
    · exact hletter _ (high_lt a).2
  | case3 a b =>
    simp only [List.mem_cons, List.not_mem_nil, or_false] at h
    rcases h with rfl | rfl | rfl
    · exact hletter _ (high_lt a).1
    · exact hletter _ (middle a b).1
    · exact hletter _ (low_lt b).2
  | case4 a b c rest ih =>
    simp only [List.mem_cons] at h
    rcases h with rfl | rfl | rfl | rfl | h
    · exact hletter _ (high_lt a).1
    · exact hletter _ (middle a b).1
    · exact hletter _ (last b c).1
    · exact hletter _ (low_lt c).1
    · exact ih h

end Perimeter.Base64Url
