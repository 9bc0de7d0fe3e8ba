import Perimeter.Proofs.Wire.Field
import Perimeter.Wire.Knock

/-!
# `Perimeter.Proofs.Wire.Knock`: a knock and its datagram

Nothing in a datagram is lost when it is read as a knock. `decode_ok` writes the datagram down
again from what was read: the body of the knock, which is what the tag covers, and the tag.
If the tag is the one that a secret gives, the datagram is therefore the very one that the
secret's holder would send (`encode_of_decode`).

Nothing in a knock is lost when it is written, except that no token and the empty token look
alike. `layout_body` says where each field of a knock stands in its datagram, and `Layout.decode_eq`
that the readers find it there. Together a datagram is what a secret makes of a knock if and
only if it reads as that knock and bears the secret's tag (`encode_eq_ok_iff`).
-/

set_option autoImplicit false

namespace Perimeter.Knock

open Wire

variable {datagram : Bytes} {received : Received}

/-- An octet and the field whose length it gives, as they are written again. -/
private theorem lengthOctet_eq {bs : Bytes} {b : UInt8} (h : bs.length = b.toNat) :
    [UInt8.ofNat bs.length] = [b] := by
  rw [h, UInt8.ofNat_toNat]

/-- A datagram that reads as a knock is the knock's body and the tag. The body is what the
tag covers, and the token in it could be sent again. -/
theorem decode_ok (h : decode datagram = .ok received) :
    datagram = received.knock.body ++ received.tag.bytes ∧
      received.authenticated = received.knock.body ∧
      checkToken (received.knock.token.getD "") 0 = .ok () := by
  simp only [decode, Checks.bind_eq_ok, Checks.throw_bind, Checks.error_if_eq_ok] at h
  obtain ⟨-, hmin, _, hheader, hid, hlength, h⟩ := h
  have hlong : 62 ≤ datagram.length := Nat.not_lt.mp hmin
  generalize hn : (octetAt datagram 2).toNat = n at hid hlength h
  cases htext : Text.ofUtf8? (slice datagram 3 (3 + n)) with
  | none =>
    rw [htext] at h
    cases h
  | some text =>
    simp only [htext, Checks.bind_eq_ok, Checks.mapError_eq_ok, Checks.error_if_eq_ok,
      checkLength_ok_iff, Except.ok.injEq, exists_eq_left'] at h
    obtain ⟨device, hdevice, timestamp, htime, nonce, hnonce, m, hm, hfits, _, htotal, h⟩ := h
    have hsize : datagram.length = 61 + n + m := htotal
    -- Either way the token is what stands before the tag.
    obtain ⟨token, ⟨hascii, htoken⟩, tag, htag, rfl⟩ : ∃ token : Option String,
        (Text.isAscii (slice datagram (3 + n + 26) (3 + n + 26 + m)) ∧
          Text.utf8 (token.getD "") = slice datagram (3 + n + 26) (3 + n + 26 + m)) ∧
        ∃ tag, field datagram (3 + n + 26 + m) tagLength = .ok tag ∧
          (⟨⟨device, timestamp, nonce, token⟩, tag, datagram.take (3 + n + 26 + m)⟩ : Received) =
            received := by
      split at h
      · rename_i hzero
        subst hzero
        have hnothing : slice datagram (3 + n + 26) (3 + n + 26 + 0) = [] := by
          apply List.eq_nil_of_length_eq_zero
          rw [length_slice]
          omega
        rw [hnothing]
        simp only [Checks.bind_eq_ok, Except.ok.injEq, exists_eq_left', Checks.pure_eq_ok] at h
        exact ⟨none, ⟨rfl, rfl⟩, h⟩
      · simp only [Checks.bind_eq_ok, Checks.map_eq_ok, Checks.pure_eq_ok] at h
        obtain ⟨_, ⟨token, htoken, rfl⟩, h⟩ := h
        exact ⟨some token, tokenText_ok htoken, h⟩
    have hidBytes : device.bytes = slice datagram 3 (3 + n) := by
      rw [DeviceId.bytes, DeviceId.text_of_ofText hdevice]
      exact Text.utf8_of_ofUtf8? htext
    have hidLength : device.bytes.length = (octetAt datagram 2).toNat := by
      rw [hidBytes, length_slice]
      omega
    have htokenLength : (Text.utf8 (token.getD "")).length = m := by
      rw [htoken, length_slice]
      omega
    -- Field by field, the body is written as the octets that were read.
    have hbody : body ⟨device, timestamp, nonce, token⟩ = slice datagram 0 (3 + n + 26 + m) := by
      simp only [body, tokenBytes]
      rw [← checkHeader_ok hheader (by omega), lengthOctet_eq hidLength,
        ← slice_succ (by omega), hidBytes, int64_ok htime, field_ok hnonce, htokenLength,
        number16_ok hm, htoken]
      simp only [Nat.add_assoc]
      rw [slice_append_slice, slice_append_slice, slice_append_slice, slice_append_slice,
        slice_append_slice, slice_append_slice] <;> omega
    refine ⟨?_, hbody.symm ▸ rfl, ?_⟩
    · show datagram = body _ ++ tag.bytes
      rw [hbody, field_ok htag, slice_append_slice (Nat.zero_le _) (Nat.le_add_right _ _),
        slice_zero, List.take_of_length_le]
      show datagram.length ≤ 3 + n + 26 + m + 32
      omega
    · show checkToken (token.getD "") 0 = _
      rw [checkToken_ok_iff, htokenLength, htoken]
      exact ⟨Nat.zero_le _, Nat.not_lt.mp hfits, hascii⟩

/-- A datagram that reads as a knock and bears the tag that a secret gives is what the secret
makes of that knock. -/
theorem encode_of_decode {secret : KnockSecret} (h : decode datagram = .ok received)
    (htag : tagHolds secret received.authenticated received.tag) :
    encode secret received.knock = .ok datagram := by
  obtain ⟨hdatagram, hauthenticated, hcheck⟩ := decode_ok h
  simp only [tagHolds, decide_eq_true_eq] at htag
  simp only [encode, hcheck, ← hauthenticated, htag]
  rw [hauthenticated, ← hdatagram]
  rfl

/-! ### A knock that was written is read -/

variable {knock : Knock} {tag : Tag}

/-- A knock as its receiver reads it: an empty token is none. -/
def asRead (knock : Knock) : Knock := { knock with token := knock.token.filter (· ≠ "") }

/-- An empty token is read as none, any other as it is. -/
theorem token_asRead (knock : Knock) :
    knock.asRead.token = if knock.tokenBytes.length = 0 then none else knock.token := by
  cases htoken : knock.token with
  | none => simp [asRead, htoken]
  | some token =>
    have hnil : Text.utf8 "" = [] := rfl
    have hempty : (Text.utf8 token).length = 0 ↔ token = "" := by
      rw [List.length_eq_zero_iff]
      exact ⟨fun h => Text.utf8_injective h, fun h => h ▸ rfl⟩
    by_cases h : token = "" <;> simp [asRead, tokenBytes, htoken, Option.filter, hempty, h, hnil]

theorem tokenBytes_asRead (knock : Knock) : knock.asRead.tokenBytes = knock.tokenBytes := by
  cases htoken : knock.token with
  | none => simp [asRead, tokenBytes, htoken]
  | some token => by_cases h : token = "" <;> simp [asRead, tokenBytes, htoken, Option.filter, h]

/-- Where the readers find the fields of a knock. -/
structure Layout (knock : Knock) (tag : Tag) (datagram : Bytes) : Prop where
  length_eq : datagram.length =
    fixedLength + knock.device.bytes.length + knock.tokenBytes.length
  header : checkHeader datagram .knock = .ok ()
  idLength : (octetAt datagram 2).toNat = knock.device.bytes.length
  id : slice datagram 3 (3 + knock.device.bytes.length) = knock.device.bytes
  timestamp : int64 datagram (3 + knock.device.bytes.length) = .ok knock.timestamp
  nonce : field datagram (3 + knock.device.bytes.length + 8) 16 = .ok knock.nonce
  tokenLength : number16 datagram (3 + knock.device.bytes.length + 24) =
    .ok knock.tokenBytes.length
  token : slice datagram (3 + knock.device.bytes.length + 26)
    (3 + knock.device.bytes.length + 26 + knock.tokenBytes.length) = knock.tokenBytes
  tag : field datagram (3 + knock.device.bytes.length + 26 + knock.tokenBytes.length) tagLength =
    .ok tag
  body : datagram.take (3 + knock.device.bytes.length + 26 + knock.tokenBytes.length) = knock.body

/-- The fields of a knock stand in its datagram where the readers look. -/
theorem layout_body (knock : Knock) (tag : Tag)
    (htoken : knock.tokenBytes.length ≤ maxTokenLength) :
    knock.Layout tag (knock.body ++ tag.bytes) := by
  have hid : knock.device.bytes.length ≤ 64 := knock.device.length_le
  have hheader : (Wire.header .knock).length = 2 := rfl
  have hnonce := knock.nonce.length_eq
  have hbody : knock.body.length =
      3 + knock.device.bytes.length + 26 + knock.tokenBytes.length := by
    have hlength := knock.length_body
    simp only [fixedLength, tagLength] at hlength
    omega
  simp only [maxTokenLength] at htoken
  -- Each field is what stands between the fields before it and the fields after it.
  let idOctet := UInt8.ofNat knock.device.bytes.length
  let number := bigEndian 2 knock.tokenBytes.length
  let rest := ofInt64 knock.timestamp ++ (knock.nonce.bytes ++ (number ++ (knock.tokenBytes ++
    tag.bytes)))
  have hparts : knock.body ++ tag.bytes =
      Wire.header .knock ++ ([idOctet] ++ (knock.device.bytes ++ rest)) := by
    simp only [Knock.body, List.append_assoc]
    rfl
  have hidEnd : (Wire.header .knock ++ [idOctet] ++ knock.device.bytes).length =
      3 + knock.device.bytes.length := by
    simp [hheader]
    omega
  exact {
    length_eq := by rw [List.length_append, tag.length_eq]; exact knock.length_body
    header := by rw [hparts]; exact checkHeader_append _ _
    idLength := by
      rw [hparts, octetAt_append hheader, UInt8.toNat_ofNat']
      omega
    id := by
      rw [hparts, ← List.append_assoc]
      exact slice_append rfl rfl
    timestamp := by
      rw [hparts, ← List.append_assoc, ← List.append_assoc]
      exact int64_append hidEnd
    nonce := by
      rw [hparts, ← List.append_assoc, ← List.append_assoc, ← List.append_assoc]
      exact field_append (by rw [List.length_append, hidEnd, length_ofInt64])
    tokenLength := by
      rw [hparts, ← List.append_assoc, ← List.append_assoc, ← List.append_assoc,
        ← List.append_assoc]
      refine number16_append ?_ (by omega)
      rw [List.length_append, List.length_append, hidEnd, length_ofInt64, hnonce]
    token := by
      rw [hparts, ← List.append_assoc, ← List.append_assoc, ← List.append_assoc,
        ← List.append_assoc, ← List.append_assoc]
      refine slice_append ?_ rfl
      rw [List.length_append, List.length_append, List.length_append, hidEnd, length_ofInt64,
        hnonce, length_bigEndian]
    tag := by
      have h : field (knock.body ++ (tag.bytes ++ [])) _ tagLength = .ok tag :=
        field_append hbody
      rwa [List.append_nil] at h
    body := List.take_left' hbody }

/-- What is laid out as a knock whose token could be sent reads as that knock. -/
theorem Layout.decode_eq (h : knock.Layout tag datagram)
    (htoken : checkToken (knock.token.getD "") 0 = .ok ()) :
    decode datagram = .ok ⟨knock.asRead, tag, knock.body⟩ := by
  obtain ⟨-, hfits, hascii⟩ := checkToken_ok_iff.mp htoken
  change knock.tokenBytes.length ≤ 1024 at hfits
  have hidPos := knock.device.length_bytes_pos
  have hidFits : knock.device.bytes.length ≤ 64 := knock.device.length_le
  have hlength : datagram.length = 61 + knock.device.bytes.length + knock.tokenBytes.length :=
    h.length_eq
  have hutf8 : Text.ofUtf8? knock.device.bytes = some knock.device.text := Text.ofUtf8?_utf8 _
  simp only [decode, Checks.bind_eq_ok, Checks.throw_bind, Checks.error_if_eq_ok,
    h.idLength, h.id, hutf8]
  simp only [Checks.mapError_eq_ok, h.timestamp, h.nonce, h.tokenLength, h.token, h.tag, h.body,
    Except.ok.injEq, exists_eq_left', knock.device.ofText?_text, checkLength_ok_iff]
  simp only [fixedLength, minLength, maxLength, maxDeviceIdLength, maxTokenLength, tagLength]
  refine ⟨by omega, by omega, (), h.header, by omega, by omega, by omega, (), by omega, ?_⟩
  -- What is left is the token, which is not looked at if it is empty.
  have htokenRead := knock.token_asRead
  split
  · rename_i hzero
    rw [if_pos hzero] at htokenRead
    show Except.ok _ = Except.ok _
    rw [← htokenRead]
    rfl
  · rename_i hsome
    rw [if_neg hsome] at htokenRead
    cases htoken : knock.token with
    | none =>
      rw [tokenBytes, htoken] at hsome
      exact absurd rfl hsome
    | some token =>
      have hbytes : knock.tokenBytes = Text.utf8 token := by rw [tokenBytes, htoken]; rfl
      rw [htoken] at htokenRead hascii
      have hread : tokenText (Text.utf8 token) = .ok token := tokenText_utf8 hascii
      rw [hbytes, hread]
      show Except.ok _ = Except.ok _
      rw [← htokenRead]
      rfl

/-- What a secret makes of a knock, if the token can be sent: the body and its tag. -/
theorem encode_eq_ok_iff_body {secret : KnockSecret} :
    encode secret knock = .ok datagram ↔
      checkToken (knock.token.getD "") 0 = .ok () ∧
        knock.body ++ (tagOf secret knock.body).bytes = datagram := by
  simp only [encode, Checks.bind_eq_ok, Checks.pure_eq_ok]
  exact ⟨fun ⟨_, hcheck, h⟩ => ⟨hcheck, h⟩, fun ⟨hcheck, h⟩ => ⟨(), hcheck, h⟩⟩

/-- What a secret makes of a knock reads as that knock, and the secret's tag covers all of it
but the tag itself. -/
theorem decode_of_encode {secret : KnockSecret} (h : encode secret knock = .ok datagram) :
    decode datagram = .ok ⟨knock.asRead, tagOf secret knock.body, knock.body⟩ := by
  obtain ⟨hcheck, rfl⟩ := encode_eq_ok_iff_body.mp h
  have hfits := (checkToken_ok_iff.mp hcheck).2.1
  exact (layout_body knock _ hfits).decode_eq hcheck

/-- To a sender, no token and the empty token are the same. -/
theorem encode_asRead (secret : KnockSecret) (knock : Knock) :
    encode secret knock.asRead = encode secret knock := by
  have hbody : knock.asRead.body = knock.body := by
    simp only [body, tokenBytes_asRead]
    rfl
  have htoken : knock.asRead.token.getD "" = knock.token.getD "" :=
    Text.utf8_injective (tokenBytes_asRead knock)
  rw [encode, encode, htoken, hbody]

/-- A datagram is what a secret makes of a knock if and only if it reads as that knock and
bears the secret's tag. -/
theorem encode_eq_ok_iff {secret : KnockSecret} :
    encode secret knock = .ok datagram ↔
      ∃ received, decode datagram = .ok received ∧ received.knock = knock.asRead ∧
        tagHolds secret received.authenticated received.tag := by
  constructor
  · intro h
    exact ⟨_, decode_of_encode h, rfl, by simp [tagHolds]⟩
  · rintro ⟨received, hdecode, hknock, htag⟩
    rw [← encode_asRead, ← hknock]
    exact encode_of_decode hdecode htag

/-! ### Writing and reading are inverse -/

/-- A knock can be written if and only if its token is ASCII and not too long. -/
theorem exists_encode_iff {secret : KnockSecret} :
    (∃ datagram, encode secret knock = .ok datagram) ↔
      Text.isAscii knock.tokenBytes ∧ knock.tokenBytes.length ≤ maxTokenLength := by
  have hcheck : checkToken (knock.token.getD "") 0 = .ok () ↔
      Text.isAscii knock.tokenBytes ∧ knock.tokenBytes.length ≤ maxTokenLength := by
    rw [checkToken_ok_iff]
    exact ⟨fun ⟨_, hfits, hascii⟩ => ⟨hascii, hfits⟩,
      fun ⟨hascii, hfits⟩ => ⟨Nat.zero_le _, hfits, hascii⟩⟩
  rw [← hcheck]
  constructor
  · rintro ⟨datagram, h⟩
    exact (encode_eq_ok_iff_body.mp h).1
  · intro h
    exact ⟨_, encode_eq_ok_iff_body.mpr ⟨h, rfl⟩⟩

/-- The body of a datagram is all of it but the tag. -/
theorem body_of_encode {secret : KnockSecret} (h : encode secret knock = .ok datagram) :
    knock.body = datagram.take (datagram.length - tagLength) := by
  obtain ⟨-, rfl⟩ := encode_eq_ok_iff_body.mp h
  rw [List.length_append, (tagOf secret knock.body).length_eq]
  exact (List.take_left' (Nat.add_sub_cancel _ _).symm).symm

/-- What is written is neither shorter nor longer than the format allows. -/
theorem length_of_encode {secret : KnockSecret} (h : encode secret knock = .ok datagram) :
    minLength ≤ datagram.length ∧ datagram.length ≤ maxLength := by
  obtain ⟨hcheck, rfl⟩ := encode_eq_ok_iff_body.mp h
  have htoken : knock.tokenBytes.length ≤ maxTokenLength := (checkToken_ok_iff.mp hcheck).2.1
  have hidPos := knock.device.length_bytes_pos
  have hidFits : knock.device.bytes.length ≤ maxDeviceIdLength := knock.device.length_le
  have hlength := knock.length_body
  have htag : (tagOf secret knock.body).bytes.length = tagLength := Octets.length_eq _
  rw [List.length_append, htag, hlength, minLength, maxLength]
  omega

/-- Writing and reading a knock are inverse under every secret. A knock can be written if its
token is ASCII and fits, and then all of it is read back from a datagram of an allowed length,
with a tag that holds over everything before it. A datagram that reads as a knock and whose
tag holds is what is written for that knock, so no other datagram means the same. -/
theorem write_read_inverse (secret : KnockSecret) :
    (∀ knock : Knock,
      ((∃ datagram, encode secret knock = .ok datagram) ↔
        Text.isAscii knock.tokenBytes ∧ knock.tokenBytes.length ≤ maxTokenLength) ∧
      ∀ datagram, encode secret knock = .ok datagram →
        minLength ≤ datagram.length ∧ datagram.length ≤ maxLength ∧
        ∃ tag, decode datagram =
            .ok ⟨knock.asRead, tag, datagram.take (datagram.length - tagLength)⟩ ∧
          tagHolds secret (datagram.take (datagram.length - tagLength)) tag) ∧
    ∀ datagram received, decode datagram = .ok received →
      tagHolds secret received.authenticated received.tag →
        encode secret received.knock = .ok datagram ∧
        ∀ datagram' received', decode datagram' = .ok received' →
          tagHolds secret received'.authenticated received'.tag →
            received'.knock = received.knock → datagram' = datagram := by
  refine ⟨fun knock => ⟨exists_encode_iff, fun datagram hencode => ?_⟩,
    fun datagram received hdecode htag => ?_⟩
  · obtain ⟨hmin, hmax⟩ := length_of_encode hencode
    refine ⟨hmin, hmax, tagOf secret knock.body, ?_, ?_⟩ <;> rw [← body_of_encode hencode]
    · exact decode_of_encode hencode
    · simp [tagHolds]
  · -- A datagram with a tag that holds is what is written for its knock, so that two of them
    -- with the same knock are one.
    have hencode := encode_of_decode hdecode htag
    refine ⟨hencode, fun datagram' received' hdecode' htag' hknock => ?_⟩
    have hencode' := encode_of_decode hdecode' htag'
    rw [hknock, hencode] at hencode'
    exact (Except.ok.inj hencode').symm

/-- A knock with an empty token: it can be written, is read back without a token, and is
written again as the same datagram. -/
theorem write_read_inverse_of_empty_token :
    let secret : KnockSecret := ⟨List.replicate 16 7, by decide⟩
    let knock : Knock := ⟨⟨"tablet", by decide, by decide⟩, -1, ⟨List.replicate 16 0, rfl⟩, some ""⟩
    Text.isAscii knock.tokenBytes ∧ knock.tokenBytes.length ≤ maxTokenLength ∧
    ∃ datagram received, encode secret knock = .ok datagram ∧
      decode datagram = .ok received ∧ received.knock = { knock with token := none } ∧
      tagHolds secret received.authenticated received.tag ∧
      encode secret { knock with token := none } = .ok datagram := by
  intro secret knock
  have hascii : Text.isAscii knock.tokenBytes := by decide
  have hfits : knock.tokenBytes.length ≤ maxTokenLength := by decide
  obtain ⟨hwrites, hreads⟩ := write_read_inverse secret
  obtain ⟨datagram, hencode⟩ := (hwrites knock).1.mpr ⟨hascii, hfits⟩
  obtain ⟨-, -, tag, hdecode, htag⟩ := (hwrites knock).2 datagram hencode
  exact ⟨hascii, hfits, datagram, _, hencode, hdecode, rfl, htag,
    (hreads datagram _ hdecode htag).1⟩

end Perimeter.Knock
