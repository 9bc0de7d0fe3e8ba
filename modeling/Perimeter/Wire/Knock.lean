import Perimeter.Wire.Message

/-!
# `Perimeter.Wire.Knock`: the knock

A knock is one datagram in which a device says who it is and when, with a nonce
and, at the gateway, a token:

    version, kind, length of the identifier, identifier, time (8), nonce (16),
    length of the token (2), token, tag (32)

The tag covers every octet before it. Reading a knock does not check the tag:
that needs the secret of the device that the knock names.

* `length_body`: the octets that the tag covers.
-/

set_option autoImplicit false

namespace Perimeter

/-- What a knock says. -/
structure Knock where
  device : DeviceId
  /-- Unix seconds on the sender's clock. -/
  timestamp : Int64
  nonce : Nonce
  /-- A token of the controller, presented to the gateway. -/
  token : Option String
deriving DecidableEq

namespace Knock

open Wire

/-- The octets of a knock besides its identifier and its token. -/
def fixedLength : Nat := 1 + 1 + 1 + 8 + 16 + 2 + tagLength

/-- The shortest knock. -/
def minLength : Nat := fixedLength + 1

/-- The longest knock. -/
def maxLength : Nat := fixedLength + maxDeviceIdLength + maxTokenLength

/-- The token as it is sent: no token and the empty one are the same. -/
def tokenBytes (knock : Knock) : Bytes := Text.utf8 (knock.token.getD "")

/-- The octets that the tag covers. -/
def body (knock : Knock) : Bytes :=
  header .knock ++ [UInt8.ofNat knock.device.bytes.length] ++ knock.device.bytes ++
    ofInt64 knock.timestamp ++ knock.nonce.bytes ++
    bigEndian 2 knock.tokenBytes.length ++ knock.tokenBytes

/-- The datagram of a knock, authenticated with the device's secret. -/
def encode (secret : KnockSecret) (knock : Knock) : Except Error Bytes := do
  checkToken (knock.token.getD "") 0
  return knock.body ++ (tagOf secret knock.body).bytes

/-- A knock as read, with the tag it carries and the octets that the tag covers. -/
structure Received where
  knock : Knock
  tag : Tag
  authenticated : Bytes
deriving DecidableEq

/-- Reads a knock. The lengths are looked at before the content, and the tag is
not checked. -/
def decode (datagram : Bytes) : Except Error Received := do
  if maxLength < datagram.length then
    throw (.oversized datagram.length maxLength)
  if datagram.length < minLength then
    throw (.insufficientData minLength datagram.length)
  checkHeader datagram .knock
  let idLength := (octetAt datagram 2).toNat
  if idLength = 0 ∨ maxDeviceIdLength < idLength then
    throw (.malformed (.deviceIdLength idLength))
  let withoutToken := fixedLength + idLength
  if datagram.length < withoutToken then
    throw (.insufficientData withoutToken datagram.length)
  let idEnd := 3 + idLength
  let idBytes := slice datagram 3 idEnd
  let text ← match Text.ofUtf8? idBytes with
    | some text => .ok text
    | none => .error (.malformed (.deviceIdNotUtf8 ((Text.Fault.find idBytes).getD ⟨0, none⟩)))
  let device ← (DeviceId.ofText text).mapError fun e => .malformed (.deviceIdRefused e)
  let timestamp ← int64 datagram idEnd
  let nonce ← field datagram (idEnd + 8) 16
  let tokenLength ← number16 datagram (idEnd + 24)
  if maxTokenLength < tokenLength then
    throw (.malformed (.tokenTooLong tokenLength))
  checkLength datagram (withoutToken + tokenLength)
  let tokenEnd := idEnd + 26 + tokenLength
  let token ←
    if tokenLength = 0 then .ok none
    else some <$> tokenText (slice datagram (idEnd + 26) tokenEnd)
  let tag ← field datagram tokenEnd tagLength
  return ⟨⟨device, timestamp, nonce, token⟩, tag, datagram.take tokenEnd⟩

theorem length_body (knock : Knock) :
    knock.body.length + tagLength =
      fixedLength + knock.device.bytes.length + knock.tokenBytes.length := by
  simp [body, header, fixedLength, tagLength, knock.nonce.length_eq]
  omega

end Knock

/-- An identifier with its secret: all that a device needs to knock. -/
structure Credentials where
  id : DeviceId
  secret : KnockSecret
deriving DecidableEq

namespace Credentials

/-- The knock of this device with a given nonce. -/
def knock (who : Credentials) (timestamp : Int64) (nonce : Nonce) (token : Option String) :
    Except Wire.Error Bytes :=
  Knock.encode who.secret ⟨who.id, timestamp, nonce, token⟩

end Credentials

end Perimeter
