import Perimeter.Json.Text
import Perimeter.Uuid

/-!
# `Perimeter.Token.Claims`: what a token says

A token names the device, the services that it may reach, who issued it, from when
to when it counts, and a number of its own. The claims are one JSON object, written
without blanks and read with any members besides.

* `write`, `read?`: the two directions between claims and octets.
-/

set_option autoImplicit false

namespace Perimeter.Token

/-- What a token says. -/
structure Claims where
  issuer : String
  /-- The identifier of the device. -/
  subject : String
  issuedAt : Int64
  expiresAt : Int64
  /-- The services that the device may reach. -/
  scope : List String
  id : Uuid
deriving DecidableEq

namespace Claims

/-- Whether the scope names a service. -/
def allows (claims : Claims) (service : String) : Bool := claims.scope.contains service

/-- The object of the claims. -/
def write (claims : Claims) : Bytes :=
  Json.object [
    ("iss", Json.quote claims.issuer),
    ("sub", Json.quote claims.subject),
    ("iat", Json.integer claims.issuedAt),
    ("exp", Json.integer claims.expiresAt),
    ("scope", Json.array (claims.scope.map Json.quote)),
    ("jti", Json.quote claims.id.text)]

/-- The start of validity is not looked at, but it must not be a list or an object
with something in it. -/
def isStart : Json.Value → Bool
  | .array items => items.isEmpty
  | .object members => members.isEmpty
  | _ => true

/-- Reads an object as claims. Every claim must stand exactly once, the audience and
the start of validity at most once, and all other members are passed over. -/
def read? (text : Bytes) : Option Claims := do
  let members ← (← Json.parse text).members?
  let issuer ← (← Json.required? members "iss").text?
  let subject ← (← Json.required? members "sub").text?
  let issuedAt ← (← Json.required? members "iat").int64?
  let expiresAt ← (← Json.required? members "exp").int64?
  let scope ← (← Json.required? members "scope").texts?
  let id ← Uuid.ofText? (← (← Json.required? members "jti").text?)
  let audience ← Json.optional? members "aud"
  let start ← Json.optional? members "nbf"
  -- An audience may have any form, but the whole of it is looked at.
  if audience.isSound && isStart start then
    return ⟨issuer, subject, issuedAt, expiresAt, scope, id⟩
  else none

end Claims

end Perimeter.Token
