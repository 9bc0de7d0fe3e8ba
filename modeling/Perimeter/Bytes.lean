/-!
# `Perimeter.Bytes`: octet strings and fixed-width fields

Every message, secret and digest of the library is a list of octets. A field of
a fixed width is an `Octets n`, which carries the proof of its width, so that a
nonce or a tag can never be of the wrong size. Numbers travel most significant
octet first.

* `length_bigEndian`: a number field has the width asked for.
* `ofBigEndian_bigEndian`: a number that fits its field is read back.
* `bigEndian_ofBigEndian`: octets are written again as they were read.
-/

set_option autoImplicit false

namespace Perimeter

-- A power of natural numbers means the same whatever else is imported.
attribute [instance (2000), default_instance (10001)] instPowNat

/-- A string of octets. -/
abbrev Bytes := List UInt8

/-- What holds of the 256 values of an octet holds of every octet. -/
theorem forall_octet {p : UInt8 → Prop} (h : ∀ i : Fin 256, p (UInt8.ofFin i)) (b : UInt8) :
    p b := by
  simpa using h b.toFin

/-- The high and the low bits of an octet make it up. -/
theorem join_halves (a m : UInt8) : a / m * m + a % m = a := by
  have ha := a.toNat_lt
  have hjoin := Nat.div_add_mod' a.toNat m.toNat
  rw [← UInt8.toNat_inj, UInt8.toNat_add, UInt8.toNat_mul, UInt8.toNat_div, UInt8.toNat_mod,
    Nat.mod_eq_of_lt (by omega), Nat.mod_eq_of_lt (by omega), hjoin]

/-- A string of exactly `n` octets. -/
structure Octets (n : Nat) where
  bytes : Bytes
  length_eq : bytes.length = n
deriving DecidableEq

namespace Octets

/-- Reads a string as a field of `n` octets, if it has that length. -/
def ofBytes? (n : Nat) (bs : Bytes) : Option (Octets n) :=
  if h : bs.length = n then some ⟨bs, h⟩ else none

/-- The field of `n` zero octets. -/
def zero (n : Nat) : Octets n := ⟨List.replicate n 0, List.length_replicate⟩

instance (n : Nat) : Inhabited (Octets n) := ⟨zero n⟩

@[ext] theorem ext {n : Nat} {o o' : Octets n} (h : o.bytes = o'.bytes) : o = o' := by
  cases o
  cases o'
  cases h
  rfl

theorem ofBytes?_bytes {n : Nat} (o : Octets n) : ofBytes? n o.bytes = some o := by
  simp [ofBytes?, o.length_eq]

end Octets

/-- The `n` low octets of `v`, most significant first. -/
def bigEndian : Nat → Nat → Bytes
  | 0, _ => []
  | n + 1, v => UInt8.ofNat (v / 256 ^ n) :: bigEndian n v

/-- The number that a string of octets spells, most significant first. -/
def ofBigEndian (bs : Bytes) : Nat :=
  bs.foldl (fun acc b => acc * 256 + b.toNat) 0

@[simp] theorem length_bigEndian (n v : Nat) : (bigEndian n v).length = n := by
  induction n with
  | zero => rfl
  | succ n ih => simp [bigEndian, ih]

private theorem foldl_bigEndian (n v acc : Nat) :
    (bigEndian n v).foldl (fun acc b => acc * 256 + b.toNat) acc =
      acc * 256 ^ n + v % 256 ^ n := by
  induction n generalizing acc with
  | zero => simp [bigEndian, Nat.mod_one]
  | succ n ih =>
    have hmod : v % 256 ^ (n + 1) = (v / 256 ^ n % 256) * 256 ^ n + v % 256 ^ n := by
      rw [Nat.pow_succ, Nat.mod_mul, Nat.mul_comm (256 ^ n)]
      omega
    have hbyte : (UInt8.ofNat (v / 256 ^ n)).toNat = v / 256 ^ n % 256 := by simp
    rw [bigEndian, List.foldl_cons, ih, hmod, hbyte, Nat.add_mul, Nat.mul_assoc,
      Nat.mul_comm 256 (256 ^ n), ← Nat.pow_succ, Nat.add_assoc]

/-- A number that fits in `n` octets is read back from them. -/
theorem ofBigEndian_bigEndian {n v : Nat} (h : v < 256 ^ n) :
    ofBigEndian (bigEndian n v) = v := by
  simp [ofBigEndian, foldl_bigEndian, Nat.mod_eq_of_lt h]

private theorem foldl_ofBigEndian (bs : Bytes) (acc : Nat) :
    bs.foldl (fun acc b => acc * 256 + b.toNat) acc =
      acc * 256 ^ bs.length + ofBigEndian bs := by
  induction bs generalizing acc with
  | nil => simp [ofBigEndian]
  | cons b rest ih =>
    rw [ofBigEndian, List.foldl_cons, List.foldl_cons, ih, ih (0 * 256 + b.toNat),
      List.length_cons, Nat.pow_succ, Nat.zero_mul, Nat.zero_add, Nat.add_mul, Nat.mul_assoc,
      Nat.mul_comm 256, Nat.add_assoc]

/-- The first octet is the most significant one. -/
theorem ofBigEndian_cons (b : UInt8) (rest : Bytes) :
    ofBigEndian (b :: rest) = b.toNat * 256 ^ rest.length + ofBigEndian rest := by
  rw [ofBigEndian, List.foldl_cons, foldl_ofBigEndian, Nat.zero_mul, Nat.zero_add]

theorem ofBigEndian_lt (bs : Bytes) : ofBigEndian bs < 256 ^ bs.length := by
  induction bs with
  | nil => simp [ofBigEndian]
  | cons b rest ih =>
    have hb := b.toNat_lt
    calc ofBigEndian (b :: rest) = b.toNat * 256 ^ rest.length + ofBigEndian rest :=
          ofBigEndian_cons b rest
      _ < b.toNat * 256 ^ rest.length + 256 ^ rest.length := Nat.add_lt_add_left ih _
      _ = (b.toNat + 1) * 256 ^ rest.length := by rw [Nat.add_mul, Nat.one_mul]
      _ ≤ 256 * 256 ^ rest.length := Nat.mul_le_mul_right _ (by omega)
      _ = 256 ^ (b :: rest).length := by rw [List.length_cons, Nat.pow_succ, Nat.mul_comm]

/-- Only the low octets of a number are written. -/
theorem bigEndian_add_mul (n a v : Nat) : bigEndian n (a * 256 ^ n + v) = bigEndian n v := by
  induction n generalizing a with
  | zero => rfl
  | succ n ih =>
    have hpow : a * 256 ^ (n + 1) = a * 256 * 256 ^ n := by
      rw [Nat.pow_succ, Nat.mul_comm (256 ^ n), Nat.mul_assoc]
    rw [bigEndian, bigEndian, hpow, ih, Nat.add_comm (a * 256 * 256 ^ n),
      Nat.add_mul_div_right _ _ (Nat.pow_pos (by decide))]
    congr 1
    apply UInt8.toNat_inj.mp
    simp

/-- Octets are written again as they were read. -/
theorem bigEndian_ofBigEndian (bs : Bytes) : bigEndian bs.length (ofBigEndian bs) = bs := by
  induction bs with
  | nil => rfl
  | cons b rest ih =>
    have hlt := ofBigEndian_lt rest
    rw [ofBigEndian_cons, List.length_cons, bigEndian, bigEndian_add_mul, ih,
      Nat.add_comm, Nat.add_mul_div_right _ _ (Nat.pow_pos (by decide)),
      Nat.div_eq_of_lt hlt, Nat.zero_add, UInt8.ofNat_toNat]

/-- The eight octets of a two's complement number. -/
def ofInt64 (t : Int64) : Bytes := bigEndian 8 t.toUInt64.toNat

/-- The two's complement number that eight octets spell. -/
def toInt64 (bs : Bytes) : Int64 := (UInt64.ofNat (ofBigEndian bs)).toInt64

@[simp] theorem length_ofInt64 (t : Int64) : (ofInt64 t).length = 8 :=
  length_bigEndian 8 _

theorem toInt64_ofInt64 (t : Int64) : toInt64 (ofInt64 t) = t := by
  have h : ofBigEndian (ofInt64 t) = t.toUInt64.toNat :=
    ofBigEndian_bigEndian (n := 8) t.toUInt64.toNat_lt
  rw [toInt64, h, UInt64.ofNat_toNat]
  rfl

theorem ofInt64_toInt64 {bs : Bytes} (h : bs.length = 8) : ofInt64 (toInt64 bs) = bs := by
  have hlt : ofBigEndian bs < 2 ^ 64 := by
    have := ofBigEndian_lt bs
    rw [h] at this
    omega
  have hvalue : (toInt64 bs).toUInt64.toNat = ofBigEndian bs := by
    show (UInt64.ofNat (ofBigEndian bs)).toNat = _
    rw [UInt64.toNat_ofNat', Nat.mod_eq_of_lt hlt]
  rw [ofInt64, hvalue, ← h, bigEndian_ofBigEndian]

end Perimeter
