import Perimeter.Proofs.Wire.Knock

/-!
# `Perimeter.Proofs.Wire.Grammar`: which octets are a knock

The format of a knock is a row of fields, two of which give the length of a later one.
`Knock.Fields` is such a row, `Fields.Sound` says what the fields have to be, and
`Fields.Says` what they mean. None of the three mentions how a knock is read: offsets and
the order of the checks are the reader's own affair.

* `Fields.Sound.eq_of_append_eq`: where the fields of a row end can be told without looking behind
  them, so that a string of octets begins with one row at most.
* `Fields.exists_knock`: sound fields are those of a knock and a tag, and `sound_ofKnock` that
  the fields of a knock whose token could be sent are sound.
* `accepts_exactly_grammar`: the reader accepts what is a row of sound fields and nothing
  else, and says what the fields say.
-/

set_option autoImplicit false

namespace Perimeter.Knock

open Wire

/-- The fields of a knock behind its version and its kind. -/
structure Fields where
  idLength : UInt8
  id : Bytes
  time : Octets 8
  nonce : Nonce
  tokenLength : Octets 2
  token : Bytes
  tag : Tag

namespace Fields

/-- The fields in a row, behind the version and the kind of a knock. -/
def datagram (f : Fields) : Bytes :=
  [0x01, 0x01, f.idLength] ++ (f.id ++ (f.time.bytes ++ (f.nonce.bytes ++
    (f.tokenLength.bytes ++ (f.token ++ f.tag.bytes)))))

/-- What the fields of a knock have to be. -/
structure Sound (f : Fields) : Prop where
  length_id : f.id.length = f.idLength.toNat
  id_pos : 1 ≤ f.id.length
  id_le : f.id.length ≤ 64
  /-- The identifier is UTF-8. -/
  id_text : ∃ text : String, Text.utf8 text = f.id
  length_token : f.token.length = ofBigEndian f.tokenLength.bytes
  token_le : f.token.length ≤ 1024
  token_ascii : ∀ b ∈ f.token, b < 128

/-- What the fields of a knock mean. The time is a number in two's complement, and a token
without octets is none. -/
structure Says (f : Fields) (received : Received) : Prop where
  device : Text.utf8 received.knock.device.text = f.id
  timestamp : received.knock.timestamp.toInt = (ofBigEndian f.time.bytes : Int).bmod (2 ^ 64)
  nonce : received.knock.nonce = f.nonce
  no_token : f.token = [] → received.knock.token = none
  token : f.token ≠ [] → ∃ text, received.knock.token = some text ∧ Text.utf8 text = f.token
  tag : received.tag = f.tag
  /-- The tag is for all that stands before it. -/
  authenticated : received.authenticated ++ f.tag.bytes = f.datagram

/-! ### Where the fields end -/

/-- Fields of one width are told apart from what follows them. -/
private theorem octets_of_append_eq {n : Nat} {o o' : Octets n} {rest rest' : Bytes}
    (h : o.bytes ++ rest = o'.bytes ++ rest') : o = o' ∧ rest = rest' := by
  obtain ⟨hbytes, hrest⟩ := List.append_inj h (by rw [o.length_eq, o'.length_eq])
  exact ⟨Octets.ext hbytes, hrest⟩

/-- No octet behind a row of sound fields is needed to tell where it ends. -/
theorem Sound.eq_of_append_eq {f f' : Fields} {more more' : Bytes} (h : f.Sound) (h' : f'.Sound)
    (heq : f.datagram ++ more = f'.datagram ++ more') : f = f' ∧ more = more' := by
  simp only [datagram, List.append_assoc] at heq
  obtain ⟨hhead, heq⟩ := List.append_inj heq rfl
  have hidLength : f.idLength = f'.idLength := by simpa using hhead
  -- Each length is read before the field that it is for.
  obtain ⟨hid, heq⟩ := List.append_inj heq (by rw [h.length_id, h'.length_id, hidLength])
  obtain ⟨htime, heq⟩ := octets_of_append_eq heq
  obtain ⟨hnonce, heq⟩ := octets_of_append_eq heq
  obtain ⟨htokenLength, heq⟩ := octets_of_append_eq heq
  obtain ⟨htoken, heq⟩ :=
    List.append_inj heq (by rw [h.length_token, h'.length_token, htokenLength])
  obtain ⟨htag, hmore⟩ := octets_of_append_eq heq
  refine ⟨?_, hmore⟩
  cases f
  cases f'
  simp_all

/-! ### The fields of a knock -/

/-- The fields of a knock with a tag. -/
def ofKnock (knock : Knock) (tag : Tag) : Fields where
  idLength := UInt8.ofNat knock.device.bytes.length
  id := knock.device.bytes
  time := ⟨ofInt64 knock.timestamp, length_ofInt64 _⟩
  nonce := knock.nonce
  tokenLength := ⟨bigEndian 2 knock.tokenBytes.length, length_bigEndian 2 _⟩
  token := knock.tokenBytes
  tag := tag

theorem datagram_ofKnock (knock : Knock) (tag : Tag) :
    (ofKnock knock tag).datagram = knock.body ++ tag.bytes := by
  simp [datagram, ofKnock, body, header, version, Kind.code]

/-- The fields of a knock are sound if its token could be sent. -/
theorem sound_ofKnock {knock : Knock} {tag : Tag}
    (htoken : checkToken (knock.token.getD "") 0 = .ok ()) : (ofKnock knock tag).Sound := by
  obtain ⟨-, hfits, hascii⟩ := checkToken_ok_iff.mp htoken
  change knock.tokenBytes.length ≤ 1024 at hfits
  have hid : knock.device.bytes.length ≤ 64 := knock.device.length_le
  exact {
    length_id := by
      show _ = (UInt8.ofNat knock.device.bytes.length).toNat
      rw [UInt8.toNat_ofNat', Nat.mod_eq_of_lt (by omega)]
      rfl
    id_pos := knock.device.length_bytes_pos
    id_le := hid
    id_text := ⟨knock.device.text, rfl⟩
    length_token := by
      have hnumber : knock.tokenBytes.length < 256 ^ 2 := by omega
      exact (ofBigEndian_bigEndian hnumber).symm
    token_le := hfits
    token_ascii := by
      have hall : ∀ b ∈ Text.utf8 (knock.token.getD ""), b < 128 := by
        simpa [Text.isAscii] using hascii
      exact hall }

/-- Sound fields are those of a knock whose token could be sent. -/
theorem exists_knock {f : Fields} (h : f.Sound) :
    ∃ knock : Knock, ofKnock knock f.tag = f ∧
      checkToken (knock.token.getD "") 0 = .ok () := by
  obtain ⟨text, htext⟩ := h.id_text
  have hascii : Text.isAscii f.token := by simpa [Text.isAscii] using h.token_ascii
  have hne : text ≠ "" := by
    rintro rfl
    have hpos := h.id_pos
    rw [← htext] at hpos
    cases hpos
  let device : DeviceId := ⟨text, hne, htext ▸ h.id_le⟩
  -- An empty token and none have the same fields, so that the knock may be given one either way.
  let knock : Knock := ⟨device, toInt64 f.time.bytes, f.nonce, some (Text.ofAscii f.token)⟩
  have htoken : Text.utf8 (Text.ofAscii f.token) = f.token := Text.utf8_ofAscii hascii
  refine ⟨knock, ?_, ?_⟩
  · have htime : ofInt64 (toInt64 f.time.bytes) = f.time.bytes := ofInt64_toInt64 f.time.length_eq
    have hnumber := bigEndian_ofBigEndian f.tokenLength.bytes
    rw [f.tokenLength.length_eq, ← h.length_token] at hnumber
    have hlength : UInt8.ofNat f.id.length = f.idLength := by rw [h.length_id, UInt8.ofNat_toNat]
    cases f
    simp only [ofKnock, knock, tokenBytes, Option.getD_some, htoken, DeviceId.bytes, device, htext,
      htime, hnumber, hlength]
  · show checkToken (Text.ofAscii f.token) 0 = _
    rw [checkToken_ok_iff, htoken]
    exact ⟨Nat.zero_le _, h.token_le, hascii⟩

/-- The number in two's complement that eight octets are read as. -/
theorem toInt_toInt64 (bs : Bytes) :
    (toInt64 bs).toInt = (ofBigEndian bs : Int).bmod (2 ^ 64) := by
  rw [toInt64, UInt64.toInt64_ofNat', Int64.toInt_ofNat']

/-- The fields of a knock say what its receiver reads. -/
theorem says_ofKnock (knock : Knock) (tag : Tag) :
    (ofKnock knock tag).Says ⟨knock.asRead, tag, knock.body⟩ where
  device := rfl
  timestamp := by
    show knock.timestamp.toInt = (ofBigEndian (ofInt64 knock.timestamp) : Int).bmod (2 ^ 64)
    rw [← toInt_toInt64, toInt64_ofInt64]
  nonce := rfl
  no_token := by
    intro hnil
    have hlength : knock.tokenBytes.length = 0 := List.length_eq_zero_iff.mpr hnil
    rw [token_asRead, if_pos hlength]
  token := by
    intro hsome
    have hlength : knock.tokenBytes.length ≠ 0 := fun h => hsome (List.length_eq_zero_iff.mp h)
    rw [token_asRead, if_neg hlength]
    cases htoken : knock.token with
    | none =>
      refine absurd ?_ hsome
      show Text.utf8 (knock.token.getD "") = []
      rw [htoken]
      rfl
    | some text =>
      refine ⟨text, rfl, ?_⟩
      show _ = Text.utf8 (knock.token.getD "")
      rw [htoken]
      rfl
  tag := rfl
  authenticated := (datagram_ofKnock knock tag).symm

/-- Fields have one meaning. -/
theorem Says.eq {f : Fields} {received received' : Received} (h : f.Says received)
    (h' : f.Says received') : received = received' := by
  obtain ⟨⟨⟨text, _, _⟩, timestamp, nonce, token⟩, tag, authenticated⟩ := received
  obtain ⟨⟨⟨text', _, _⟩, timestamp', nonce', token'⟩, tag', authenticated'⟩ := received'
  obtain rfl : text = text' := Text.utf8_injective (h.device.trans h'.device.symm)
  obtain rfl : timestamp = timestamp' := Int64.toInt_inj.mp (h.timestamp.trans h'.timestamp.symm)
  obtain rfl : nonce = nonce' := h.nonce.trans h'.nonce.symm
  obtain rfl : tag = tag' := h.tag.trans h'.tag.symm
  obtain rfl : authenticated = authenticated' :=
    List.append_cancel_right (h.authenticated.trans h'.authenticated.symm)
  obtain rfl : token = token' := by
    by_cases hnil : f.token = []
    · exact (h.no_token hnil).trans (h'.no_token hnil).symm
    · obtain ⟨t, ht, htext⟩ := h.token hnil
      obtain ⟨t', ht', htext'⟩ := h'.token hnil
      obtain rfl : t = t' := Text.utf8_injective (htext.trans htext'.symm)
      exact ht.trans ht'.symm
  rfl

end Fields

/-! ### What is accepted -/

/-- A row of sound fields is read as what the fields say. -/
theorem decode_of_sound {f : Fields} (h : f.Sound) :
    ∃ received, decode f.datagram = .ok received ∧ f.Says received := by
  obtain ⟨knock, hfields, htoken⟩ := Fields.exists_knock h
  have hlayout := layout_body knock f.tag (checkToken_ok_iff.mp htoken).2.1
  rw [← Fields.datagram_ofKnock, hfields] at hlayout
  have hread := Fields.says_ofKnock knock f.tag
  rw [hfields] at hread
  exact ⟨_, hlayout.decode_eq htoken, hread⟩

/-- What is read as a knock is a row of sound fields. -/
theorem sound_of_decode {datagram : Bytes} {received : Received}
    (h : decode datagram = .ok received) :
    ∃ f : Fields, f.Sound ∧ f.datagram = datagram := by
  obtain ⟨hdatagram, -, htoken⟩ := decode_ok h
  exact ⟨.ofKnock received.knock received.tag, Fields.sound_ofKnock htoken,
    hdatagram ▸ Fields.datagram_ofKnock _ _⟩

/-- Of two strings of octets that are read as knocks, neither begins with the other. -/
theorem eq_of_accepted_append {datagram more : Bytes} {received received' : Received}
    (h : decode datagram = .ok received) (h' : decode (datagram ++ more) = .ok received') :
    more = [] := by
  obtain ⟨f, hsound, rfl⟩ := sound_of_decode h
  obtain ⟨f', hsound', hlonger⟩ := sound_of_decode h'
  have heq : f.datagram ++ more = f'.datagram ++ [] := by rw [hlonger, List.append_nil]
  exact (hsound.eq_of_append_eq hsound' heq).2

/-- The reader accepts the format and nothing else. A datagram is read as a knock exactly if it is
a row of sound fields: version and kind, the length of the identifier and one to sixty-four octets
of UTF-8, the time in eight octets, sixteen octets of nonce, the length of the token in two octets
and up to 1024 octets of ASCII, and thirty-two octets of tag. There is one such row, and what is
read is what it says. So no accepted datagram is accepted any more when octets are appended to it
or cut off its end. -/
theorem accepts_exactly_grammar (datagram : Bytes) :
    ((∃ received, decode datagram = .ok received) ↔
      ∃ f : Fields, f.Sound ∧ f.datagram = datagram) ∧
    (∀ f : Fields, f.Sound → f.datagram = datagram →
      (∀ received, decode datagram = .ok received ↔ f.Says received) ∧
      ∀ f' : Fields, f'.Sound → f'.datagram = datagram → f' = f) ∧
    ∀ received, decode datagram = .ok received →
      (∀ more, more ≠ [] → ∀ received', decode (datagram ++ more) ≠ .ok received') ∧
      ∀ n, n < datagram.length → ∀ received', decode (datagram.take n) ≠ .ok received' := by
  refine ⟨⟨?_, ?_⟩, ?_, ?_⟩
  · rintro ⟨received, h⟩
    exact sound_of_decode h
  · rintro ⟨f, hsound, rfl⟩
    obtain ⟨received, h, -⟩ := decode_of_sound hsound
    exact ⟨received, h⟩
  · rintro f hsound rfl
    obtain ⟨received, h, hread⟩ := decode_of_sound hsound
    refine ⟨fun received' => ?_, fun f' hsound' heq => ?_⟩
    · rw [h, Except.ok.injEq]
      exact ⟨fun heq => heq ▸ hread, fun hread' => hread.eq hread'⟩
    · have hsame : f'.datagram ++ [] = f.datagram ++ [] := by rw [heq]
      exact (hsound'.eq_of_append_eq hsound hsame).1
  · intro received h
    refine ⟨fun more hmore received' h' => hmore (eq_of_accepted_append h h'), ?_⟩
    intro n hn received' h'
    -- What is left begins the whole, which is what was cut off longer.
    rw [← List.take_append_drop n datagram] at h
    have hnil := eq_of_accepted_append h' h
    rw [List.drop_eq_nil_iff] at hnil
    omega

/-- A knock with a time before 1970 and a token: it is read, as what its fields say, and no longer
when its last octet is missing or another follows. -/
theorem accepts_exactly_grammar_of_token :
    let f : Fields := ⟨6, Text.utf8 "tablet", ⟨List.replicate 8 0xFF, rfl⟩,
      ⟨List.replicate 16 0, rfl⟩, ⟨[0, 5], rfl⟩, Text.utf8 "token", ⟨List.replicate 32 9, rfl⟩⟩
    f.Sound ∧ ∃ received, decode f.datagram = .ok received ∧ f.Says received ∧
      received.knock.timestamp = -1 ∧ received.knock.token = some "token" ∧
      [0] ≠ [] ∧ (∀ received', decode (f.datagram ++ [0]) ≠ .ok received') ∧
      70 < f.datagram.length ∧ ∀ received', decode (f.datagram.take 70) ≠ .ok received' := by
  intro f
  have hsound : f.Sound := {
    length_id := by decide
    id_pos := by decide
    id_le := by decide
    id_text := ⟨"tablet", rfl⟩
    length_token := by decide
    token_le := by decide
    token_ascii := by decide +kernel }
  obtain ⟨hiff, hread, hcut⟩ := accepts_exactly_grammar f.datagram
  obtain ⟨received, h⟩ := hiff.mpr ⟨f, hsound, rfl⟩
  have hmeans := ((hread f hsound rfl).1 received).mp h
  obtain ⟨text, htoken, htext⟩ := hmeans.token (by decide)
  obtain ⟨hlonger, hshorter⟩ := hcut received h
  have htimestamp : received.knock.timestamp.toInt = (-1 : Int64).toInt :=
    hmeans.timestamp.trans (by decide)
  exact ⟨hsound, received, h, hmeans, Int64.toInt_inj.mp htimestamp,
    htoken.trans (congrArg some (Text.utf8_injective htext)), by decide,
    hlonger [0] (by decide), by decide, hshorter 70 (by decide)⟩

end Perimeter.Knock
