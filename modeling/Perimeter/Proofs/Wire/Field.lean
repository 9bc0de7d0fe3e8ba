import Perimeter.Proofs.Checks
import Perimeter.Wire.Message

/-!
# `Perimeter.Proofs.Wire.Field`: what the readers of a datagram read

Each reader of a field gives back octets that stand in the datagram. `slice_append_slice` puts
two neighbouring fields together, so a datagram is the concatenation of its fields, and the
`_ok` lemmas say which octets a reader has read.

The `_append` lemmas go the other way. A field that was written after `front` and before `back`
is read back at the offset `front.length`, whatever the two are.
-/

set_option autoImplicit false

namespace Perimeter.Wire

variable {datagram : Bytes} {offset n start middle stop : Nat}

/-- Neighbouring slices make one slice. -/
theorem slice_append_slice (hstart : start ≤ middle) (hstop : middle ≤ stop) :
    slice datagram start middle ++ slice datagram middle stop = slice datagram start stop := by
  have hsplit : slice datagram start stop =
      (slice datagram start stop).take (middle - start) ++
        (slice datagram start stop).drop (middle - start) := by simp
  rw [hsplit]
  -- Both halves are the same octets, counted from other ends.
  congr 1
  · simp only [slice, List.take_drop, List.take_take]
    congr 2
    omega
  · simp only [slice, List.drop_drop]
    congr 1
    omega

theorem slice_zero (datagram : Bytes) (stop : Nat) :
    slice datagram 0 stop = datagram.take stop := rfl

/-- Octets of a datagram one by one. -/
theorem slice_succ (h : offset < datagram.length) :
    slice datagram offset (offset + 1) = [octetAt datagram offset] := by
  have hdrop : datagram.drop offset = octetAt datagram offset :: datagram.drop (offset + 1) := by
    rw [List.drop_eq_getElem_cons h, octetAt, List.getD_eq_getElem?_getD,
      List.getElem?_eq_getElem h, Option.getD_some]
  rw [slice, List.drop_take, hdrop, Nat.add_sub_cancel_left]
  rfl

/-- A field holds the octets that stand at its offset. -/
theorem field_ok {f : Octets n} (h : field datagram offset n = .ok f) :
    f.bytes = slice datagram offset (offset + n) := by
  unfold field Octets.ofBytes? at h
  split at h
  · rename_i hsome
    split at hsome
    · cases hsome
      cases h
      rfl
    · cases hsome
  · cases h

/-- A number in two octets is written as the octets that it was read from. -/
theorem number16_ok {number : Nat} (h : number16 datagram offset = .ok number) :
    bigEndian 2 number = slice datagram offset (offset + 2) := by
  simp only [number16, Checks.bind_eq_ok, Checks.pure_eq_ok] at h
  obtain ⟨f, hfield, rfl⟩ := h
  rw [← field_ok hfield]
  have hbytes := bigEndian_ofBigEndian f.bytes
  rwa [f.length_eq] at hbytes

/-- A number in eight octets is written as the octets that it was read from. -/
theorem int64_ok {number : Int64} (h : int64 datagram offset = .ok number) :
    ofInt64 number = slice datagram offset (offset + 8) := by
  simp only [int64, Checks.bind_eq_ok, Checks.pure_eq_ok] at h
  obtain ⟨f, hfield, rfl⟩ := h
  rw [← field_ok hfield]
  exact ofInt64_toInt64 f.length_eq

theorem code_of_ofCode? {b : UInt8} {kind : Kind} (h : Kind.ofCode? b = some kind) :
    kind.code = b := by
  unfold Kind.ofCode? at h
  split at h
  · rename_i hb
    cases h
    exact hb.symm
  · split at h
    · rename_i hb
      cases h
      exact hb.symm
    · cases h

/-- A datagram whose header passes begins with that header. -/
theorem checkHeader_ok {kind : Kind} {u : Unit} (h : checkHeader datagram kind = .ok u)
    (hlength : 2 ≤ datagram.length) : slice datagram 0 2 = header kind := by
  have hoctets : slice datagram 0 2 = [octetAt datagram 0, octetAt datagram 1] := by
    rw [← slice_append_slice (Nat.zero_le 1) (Nat.le_succ 1), slice_succ (by omega),
      slice_succ (by omega)]
    rfl
  simp only [checkHeader, Checks.error_if_eq_ok, not_not] at h
  obtain ⟨hversion, hkind⟩ := h
  split at hkind
  · cases hkind
  · rename_i found hfound
    split at hkind
    · rename_i hexpected
      subst hexpected
      rw [hoctets, hversion, header, code_of_ofCode? hfound]
    · cases hkind

/-- A datagram passes the check of its length if it has that length. -/
theorem checkLength_ok_iff {declared : Nat} {u : Unit} :
    checkLength datagram declared = .ok u ↔ datagram.length = declared := by
  simp only [checkLength, Checks.error_if_eq_ok, and_true]
  omega

/-- A token that is read is ASCII and stands there as it is. -/
theorem tokenText_ok {bs : Bytes} {text : String} (h : tokenText bs = .ok text) :
    Text.isAscii bs ∧ Text.utf8 text = bs := by
  unfold tokenText at h
  split at h
  · rename_i hascii
    cases h
    exact ⟨hascii, Text.utf8_ofAscii hascii⟩
  · cases h

/-- A token can be sent if it is ASCII and neither too short nor too long. -/
theorem checkToken_ok_iff {token : String} {least : Nat} {u : Unit} :
    checkToken token least = .ok u ↔
      least ≤ (Text.utf8 token).length ∧ (Text.utf8 token).length ≤ maxTokenLength ∧
        Text.isAscii (Text.utf8 token) := by
  simp only [checkToken, Checks.error_if_eq_ok, not_or, Nat.not_lt]
  rw [and_assoc]
  refine and_congr_right fun _ => and_congr_right fun _ => ?_
  split <;> simp [*]

/-! ### Fields that were written are read -/

variable {front back : Bytes}

/-- What stands between two parts of a datagram. -/
theorem slice_append {part : Bytes} (hoffset : front.length = offset)
    (hstop : offset + part.length = stop) :
    slice (front ++ (part ++ back)) offset stop = part := by
  have htake : (front ++ (part ++ back)).take stop = front ++ part := by
    rw [← List.append_assoc]
    exact List.take_left' (by rw [List.length_append]; omega)
  rw [slice, htake]
  exact List.drop_left' hoffset

theorem octetAt_append {b : UInt8} (hoffset : front.length = offset) :
    octetAt (front ++ ([b] ++ back)) offset = b := by
  subst hoffset
  rw [octetAt, List.getD_eq_getElem?_getD, List.getElem?_append_right (Nat.le_refl _),
    Nat.sub_self]
  rfl

theorem field_append {f : Octets n} (hoffset : front.length = offset) :
    field (front ++ (f.bytes ++ back)) offset n = .ok f := by
  have hslice : slice (front ++ (f.bytes ++ back)) offset (offset + n) = f.bytes :=
    slice_append hoffset (by rw [f.length_eq])
  simp only [field, hslice, Octets.ofBytes?_bytes]

/-- A number that fits in two octets is read back. -/
theorem number16_append {number : Nat} (hoffset : front.length = offset)
    (hfits : number < 256 ^ 2) :
    number16 (front ++ (bigEndian 2 number ++ back)) offset = .ok number := by
  let written : Octets 2 := ⟨bigEndian 2 number, length_bigEndian 2 _⟩
  have hfield : field (front ++ (written.bytes ++ back)) offset 2 = .ok written :=
    field_append hoffset
  simp only [number16, Checks.bind_eq_ok, Checks.pure_eq_ok]
  exact ⟨_, hfield, ofBigEndian_bigEndian hfits⟩

theorem int64_append {number : Int64} (hoffset : front.length = offset) :
    int64 (front ++ (ofInt64 number ++ back)) offset = .ok number := by
  let written : Octets 8 := ⟨ofInt64 number, length_ofInt64 _⟩
  have hfield : field (front ++ (written.bytes ++ back)) offset 8 = .ok written :=
    field_append hoffset
  simp only [int64, Checks.bind_eq_ok, Checks.pure_eq_ok]
  exact ⟨_, hfield, toInt64_ofInt64 number⟩

/-- An ASCII text that was written is read as a token. -/
theorem tokenText_utf8 {text : String} (h : Text.isAscii (Text.utf8 text)) :
    tokenText (Text.utf8 text) = .ok text := by
  rw [tokenText, if_pos h, Text.utf8_injective (Text.utf8_ofAscii h)]

/-- A datagram that begins with the header of a kind passes the check for it. -/
theorem checkHeader_append (kind : Kind) (back : Bytes) :
    checkHeader (header kind ++ back) kind = .ok () := by
  cases kind <;> rfl

end Perimeter.Wire
