import Perimeter.Wire.Message

/-!
# `Perimeter.Wire.Grant`: the grant

A grant is the controller's answer to a knock: a token, the time at which it
expires, and the nonce of the knock that it answers.

    version, kind, nonce (16), expiry (8), length of the token (2), token, tag (32)

The tag covers a fixed context and every octet before it, so that a grant cannot
be taken for a knock under the same secret.

* `length_body`: the octets of a grant that the tag covers.
-/

set_option autoImplicit false

namespace Perimeter

/-- What a grant says. -/
structure Grant where
  /-- The nonce of the knock that is answered. -/
  nonce : Nonce
  /-- Unix seconds at which the token expires. -/
  expiresAt : Int64
  token : String
deriving DecidableEq

namespace Grant

open Wire

/-- The octets of a grant besides its token. -/
def fixedLength : Nat := 1 + 1 + 16 + 8 + 2 + tagLength

/-- The shortest grant. -/
def minLength : Nat := fixedLength + 1

/-- The longest grant. -/
def maxLength : Nat := fixedLength + maxTokenLength

/-- What stands before a grant under its tag. -/
def context : Bytes := Text.utf8 "sdp-grant-v1"

/-- The octets of a grant before its tag. -/
def body (grant : Grant) : Bytes :=
  header .grant ++ grant.nonce.bytes ++ ofInt64 grant.expiresAt ++
    bigEndian 2 (Text.utf8 grant.token).length ++ Text.utf8 grant.token

/-- The datagram of a grant, authenticated with the device's secret. -/
def encode (secret : KnockSecret) (grant : Grant) : Except Error Bytes := do
  checkToken grant.token 1
  return grant.body ++ (tagOf secret (context ++ grant.body)).bytes

/-- Reads the grant that answers a knock, checking its tag before its nonce. -/
def decode (secret : KnockSecret) (datagram : Bytes) (expected : Nonce) :
    Except Error Grant := do
  if maxLength < datagram.length then
    throw (.oversized datagram.length maxLength)
  if datagram.length < minLength then
    throw (.insufficientData minLength datagram.length)
  checkHeader datagram .grant
  let nonce ← field datagram 2 16
  let expiresAt ← int64 datagram 18
  let tokenLength ← number16 datagram 26
  if tokenLength = 0 ∨ maxTokenLength < tokenLength then
    throw (.malformed (.grantTokenLength tokenLength))
  checkLength datagram (fixedLength + tokenLength)
  let tokenEnd := 28 + tokenLength
  let tag ← field datagram tokenEnd tagLength
  if !tagHolds secret (context ++ datagram.take tokenEnd) tag then
    throw .badTag
  if nonce ≠ expected then
    throw .nonceMismatch
  let token ← tokenText (slice datagram 28 tokenEnd)
  return ⟨nonce, expiresAt, token⟩

theorem length_body (grant : Grant) :
    grant.body.length + tagLength = fixedLength + (Text.utf8 grant.token).length := by
  simp [body, header, fixedLength, tagLength, grant.nonce.length_eq]
  omega

end Grant

end Perimeter
