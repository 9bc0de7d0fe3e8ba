import Perimeter.Proofs.Wire.Field
import Perimeter.Wire.Grant

/-!
# `Perimeter.Proofs.Wire.Grant`: a grant and its datagram

The device that a grant is for is the only one to read it, so that reading a grant checks the
tag and the nonce as well. `decode_ok` writes a datagram down again from the grant that was read
in it, and `Layout.decode_eq` says what is read in a datagram that was written.

Together a datagram opens as a grant if and only if the device's secret makes it of that grant
and the grant answers the nonce (`opens_exactly_sealed`). The tag is checked before the nonce:
a grant for another knock is known to be genuine before it is refused.
-/

set_option autoImplicit false

namespace Perimeter.Grant

open Wire

variable {secret : KnockSecret} {datagram : Bytes} {nonce : Nonce} {grant : Grant} {tag : Tag}

/-- What a secret makes of a grant, if the token can be sent: the body and its tag. -/
theorem encode_eq_ok_iff_body :
    encode secret grant = .ok datagram ↔
      checkToken grant.token 1 = .ok () ∧
        grant.body ++ (tagOf secret (context ++ grant.body)).bytes = datagram := by
  simp only [encode, Checks.bind_eq_ok, Checks.pure_eq_ok]
  exact ⟨fun ⟨_, hcheck, h⟩ => ⟨hcheck, h⟩, fun ⟨hcheck, h⟩ => ⟨(), hcheck, h⟩⟩

/-- A datagram that opens as a grant is what the secret makes of that grant, and the grant
answers the nonce. -/
theorem decode_ok (h : decode secret datagram nonce = .ok grant) :
    encode secret grant = .ok datagram ∧ grant.nonce = nonce := by
  simp only [decode, Checks.bind_eq_ok, Checks.throw_bind, Checks.error_if_eq_ok,
    Checks.pure_eq_ok, not_not, Bool.not_eq_true', Bool.not_eq_false, checkLength_ok_iff] at h
  obtain ⟨-, hmin, _, hheader, found, hnonce, expiresAt, hexpiry, n, hn, hlength, _, htotal, tag,
    htag, hholds, hanswers, token, htoken, rfl⟩ := h
  refine ⟨?_, hanswers⟩
  have hlong : 61 ≤ datagram.length := Nat.not_lt.mp hmin
  have hsize : datagram.length = 60 + n := htotal
  obtain ⟨hascii, hbytes⟩ := tokenText_ok htoken
  have htokenLength : (Text.utf8 token).length = n := by
    rw [hbytes, length_slice]
    omega
  -- Field by field, the body is written as the octets that were read.
  have hbody : body ⟨found, expiresAt, token⟩ = datagram.take (28 + n) := by
    simp only [body]
    rw [← checkHeader_ok hheader (by omega), field_ok hnonce, int64_ok hexpiry, htokenLength,
      number16_ok hn, hbytes]
    rw [slice_append_slice, slice_append_slice, slice_append_slice, slice_append_slice,
      slice_zero] <;> omega
  refine encode_eq_ok_iff_body.mpr ⟨?_, ?_⟩
  · rw [checkToken_ok_iff, htokenLength, hbytes]
    exact ⟨by omega, by omega, hascii⟩
  · have hsame : tagOf secret (context ++ datagram.take (28 + n)) = tag := by
      simpa [tagHolds] using hholds
    rw [hbody, hsame, field_ok htag, ← slice_zero,
      slice_append_slice (Nat.zero_le _) (Nat.le_add_right _ _), slice_zero,
      List.take_of_length_le]
    show datagram.length ≤ 28 + n + 32
    omega

/-! ### A grant that was written is read -/

/-- Where the readers find the fields of a grant. -/
structure Layout (grant : Grant) (tag : Tag) (datagram : Bytes) : Prop where
  length_eq : datagram.length = fixedLength + (Text.utf8 grant.token).length
  header : checkHeader datagram .grant = .ok ()
  nonce : field datagram 2 16 = .ok grant.nonce
  expiresAt : int64 datagram 18 = .ok grant.expiresAt
  tokenLength : number16 datagram 26 = .ok (Text.utf8 grant.token).length
  token : slice datagram 28 (28 + (Text.utf8 grant.token).length) = Text.utf8 grant.token
  tag : field datagram (28 + (Text.utf8 grant.token).length) tagLength = .ok tag
  body : datagram.take (28 + (Text.utf8 grant.token).length) = grant.body

/-- The fields of a grant stand in its datagram where the readers look. -/
theorem layout_body (grant : Grant) (tag : Tag)
    (htoken : (Text.utf8 grant.token).length ≤ maxTokenLength) :
    grant.Layout tag (grant.body ++ tag.bytes) := by
  have hheader : (Wire.header .grant).length = 2 := rfl
  have hnonce := grant.nonce.length_eq
  have hbody : grant.body.length = 28 + (Text.utf8 grant.token).length := by
    have hlength := grant.length_body
    simp only [fixedLength, tagLength] at hlength
    omega
  simp only [maxTokenLength] at htoken
  -- Each field is what stands between the fields before it and the fields after it.
  let number := bigEndian 2 (Text.utf8 grant.token).length
  have hparts : grant.body ++ tag.bytes = Wire.header .grant ++ (grant.nonce.bytes ++
      (ofInt64 grant.expiresAt ++ (number ++ (Text.utf8 grant.token ++ tag.bytes)))) := by
    simp only [Grant.body, List.append_assoc]
    rfl
  exact {
    length_eq := by rw [List.length_append, tag.length_eq]; exact grant.length_body
    header := by rw [hparts]; exact checkHeader_append _ _
    nonce := by
      rw [hparts]
      exact field_append hheader
    expiresAt := by
      rw [hparts, ← List.append_assoc]
      exact int64_append (by rw [List.length_append, hheader, hnonce])
    tokenLength := by
      rw [hparts, ← List.append_assoc, ← List.append_assoc]
      refine number16_append ?_ (by omega)
      rw [List.length_append, List.length_append, hheader, hnonce, length_ofInt64]
    token := by
      rw [hparts, ← List.append_assoc, ← List.append_assoc, ← List.append_assoc]
      refine slice_append ?_ rfl
      rw [List.length_append, List.length_append, List.length_append, hheader, hnonce,
        length_ofInt64, length_bigEndian]
    tag := by
      have h : field (grant.body ++ (tag.bytes ++ [])) _ tagLength = .ok tag :=
        field_append hbody
      rwa [List.append_nil] at h
    body := List.take_left' hbody }

/-- What is read in a datagram that is laid out as a grant whose token could be sent. -/
theorem Layout.decode_eq (h : grant.Layout tag datagram)
    (htoken : checkToken grant.token 1 = .ok ()) :
    decode secret datagram nonce =
      if !tagHolds secret (context ++ grant.body) tag then .error .badTag
      else if grant.nonce ≠ nonce then .error .nonceMismatch
      else .ok grant := by
  obtain ⟨hsome, hfits, hascii⟩ := checkToken_ok_iff.mp htoken
  change (Text.utf8 grant.token).length ≤ 1024 at hfits
  have hlength : datagram.length = 60 + (Text.utf8 grant.token).length := h.length_eq
  have hmin : ¬ datagram.length < minLength := by
    show ¬ datagram.length < 61
    omega
  have hmax : ¬ maxLength < datagram.length := by
    show ¬ 1084 < datagram.length
    omega
  have hcount : ¬ ((Text.utf8 grant.token).length = 0 ∨
      maxTokenLength < (Text.utf8 grant.token).length) := by
    show ¬ (_ ∨ 1024 < _)
    omega
  have htotal : checkLength datagram (fixedLength + (Text.utf8 grant.token).length) = .ok () :=
    checkLength_ok_iff.mpr h.length_eq
  have hread : tokenText (Text.utf8 grant.token) = .ok grant.token := tokenText_utf8 hascii
  have htag : field datagram (28 + (Text.utf8 grant.token).length) 32 = .ok tag := h.tag
  unfold decode tagLength
  simp only [hmin, hmax, h.header, h.nonce, h.expiresAt, h.tokenLength, hcount, htotal, htag,
    h.body, h.token, hread, if_false, Checks.ok_bind, Checks.throw_bind]
  -- What is left is the tag, then the nonce.
  by_cases hholds : tagHolds secret (context ++ grant.body) tag
  · by_cases hanswers : grant.nonce = nonce
    · subst hanswers
      simp [hholds]
      rfl
    · simp [hholds, hanswers]
  · simp [hholds]

/-- What a secret makes of a grant opens under that secret to what answers the nonce. -/
theorem decode_of_encode (h : encode secret grant = .ok datagram) (nonce : Nonce) :
    decode secret datagram nonce =
      if grant.nonce ≠ nonce then .error .nonceMismatch else .ok grant := by
  obtain ⟨hcheck, rfl⟩ := encode_eq_ok_iff_body.mp h
  have hfits := (checkToken_ok_iff.mp hcheck).2.1
  have hholds : tagHolds secret (context ++ grant.body) (tagOf secret (context ++ grant.body)) := by
    simp [tagHolds]
  rw [(layout_body grant _ hfits).decode_eq hcheck, hholds]
  rfl

/-! ### Sealing and opening -/

/-- A grant can be written if and only if its token is ASCII, not empty and not too long. -/
theorem exists_encode_iff :
    (∃ datagram, encode secret grant = .ok datagram) ↔
      1 ≤ (Text.utf8 grant.token).length ∧ (Text.utf8 grant.token).length ≤ maxTokenLength ∧
        Text.isAscii (Text.utf8 grant.token) := by
  rw [← checkToken_ok_iff (u := ())]
  constructor
  · rintro ⟨datagram, h⟩
    exact (encode_eq_ok_iff_body.mp h).1
  · intro hcheck
    exact ⟨_, encode_eq_ok_iff_body.mpr ⟨hcheck, rfl⟩⟩

theorem length_of_encode (h : encode secret grant = .ok datagram) :
    datagram.length = fixedLength + (Text.utf8 grant.token).length := by
  obtain ⟨hcheck, rfl⟩ := encode_eq_ok_iff_body.mp h
  exact (layout_body grant _ (checkToken_ok_iff.mp hcheck).2.1).length_eq

/-- A datagram opens as a grant if and only if the device's secret makes it of that grant and
the grant answers the nonce. So every grant whose token is ASCII and fits, whatever its expiry,
opens to itself: its datagram is of an allowed length, is the only one that opens to it, and
is refused for its nonce by a device that waits for another. -/
theorem opens_exactly_sealed (secret : KnockSecret) :
    (∀ datagram nonce grant, decode secret datagram nonce = .ok grant ↔
      encode secret grant = .ok datagram ∧ grant.nonce = nonce) ∧
    (∀ grant : Grant,
      1 ≤ (Text.utf8 grant.token).length ∧ (Text.utf8 grant.token).length ≤ maxTokenLength ∧
        Text.isAscii (Text.utf8 grant.token) →
      ∃ datagram, encode secret grant = .ok datagram ∧
        decode secret datagram grant.nonce = .ok grant) ∧
    ∀ grant datagram, encode secret grant = .ok datagram →
      datagram.length ≤ maxLength ∧
      (∀ datagram' nonce, decode secret datagram' nonce = .ok grant → datagram' = datagram) ∧
      ∀ nonce, grant.nonce ≠ nonce → decode secret datagram nonce = .error .nonceMismatch := by
  have hopen : ∀ {grant datagram}, encode secret grant = .ok datagram →
      decode secret datagram grant.nonce = .ok grant := fun h => by
    rw [decode_of_encode h, if_neg (not_not_intro rfl)]
  refine ⟨fun datagram nonce grant => ⟨decode_ok, ?_⟩, fun grant htoken => ?_,
    fun grant datagram hseal => ⟨?_, fun datagram' nonce hopens => ?_, fun nonce hother => ?_⟩⟩
  · rintro ⟨hseal, rfl⟩
    exact hopen hseal
  · obtain ⟨datagram, hseal⟩ := exists_encode_iff.mpr htoken
    exact ⟨datagram, hseal, hopen hseal⟩
  · obtain ⟨-, hfits, -⟩ := exists_encode_iff.mp ⟨datagram, hseal⟩
    rw [length_of_encode hseal]
    exact Nat.add_le_add_left hfits fixedLength
  · -- Both are what the secret makes of the grant.
    have hseal' := (decode_ok hopens).1
    rw [hseal] at hseal'
    exact (Except.ok.inj hseal').symm
  · rw [decode_of_encode hseal, if_pos hother]

/-- A grant with an expiry before 1970 opens to itself under its own nonce, and only so. -/
theorem opens_exactly_sealed_of_negative_expiry :
    let secret : KnockSecret := ⟨List.replicate 16 7, by decide⟩
    let grant : Grant := ⟨⟨List.replicate 16 0, rfl⟩, -1, "a.b.c"⟩
    let other : Nonce := ⟨List.replicate 16 1, rfl⟩
    1 ≤ (Text.utf8 grant.token).length ∧ (Text.utf8 grant.token).length ≤ maxTokenLength ∧
      Text.isAscii (Text.utf8 grant.token) ∧ grant.nonce ≠ other ∧
    ∃ datagram, encode secret grant = .ok datagram ∧ datagram.length ≤ maxLength ∧
      decode secret datagram grant.nonce = .ok grant ∧
      (∀ datagram', decode secret datagram' grant.nonce = .ok grant → datagram' = datagram) ∧
      decode secret datagram other = .error .nonceMismatch := by
  intro secret grant other
  have hsome : 1 ≤ (Text.utf8 grant.token).length := by decide
  have hfits : (Text.utf8 grant.token).length ≤ maxTokenLength := by decide
  have hascii : Text.isAscii (Text.utf8 grant.token) := by decide
  have hother : grant.nonce ≠ other := by decide
  obtain ⟨-, hopen, hseal⟩ := opens_exactly_sealed secret
  obtain ⟨datagram, hencode, hdecode⟩ := hopen grant ⟨hsome, hfits, hascii⟩
  obtain ⟨hlength, honly, hrefused⟩ := hseal grant datagram hencode
  exact ⟨hsome, hfits, hascii, hother, datagram, hencode, hlength, hdecode,
    fun datagram' => honly datagram' grant.nonce, hrefused other hother⟩

end Perimeter.Grant
