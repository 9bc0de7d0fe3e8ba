import Perimeter.Token
import Perimeter.Validation
import Perimeter.Wire.Grant

/-!
# `Perimeter.Controller.GrantDesk`: the answers to knocks

The controller answers a knock that passed every check with a grant: a fresh
token, bound to the nonce of the knock and authenticated with the secret of the
device. A device without services has nothing to be granted and gets no answer,
which looks from outside like a knock that did not count. Neither does a knock for which no
token can be issued, or whose grant cannot be written.

* `onKnock`: what the sender of a knock hears.
-/

set_option autoImplicit false

namespace Perimeter

/-- Why a knock that counts gets no grant although it should. -/
inductive GrantError where
  | token (cause : Token.Error)
  | encode (cause : Wire.Error)
deriving DecidableEq

/-- The error in words. There are none for a breakdown. -/
def GrantError.message? : GrantError → Option String
  | .token cause => cause.message?.map fun words => s!"token issuance failed: {words}"
  | .encode cause => some s!"grant encoding failed: {cause.message}"

/-- What issues grants and counts them. -/
structure GrantDesk where
  issuer : TokenIssuer
  issued : Nat
  /-- The number of knocks from devices without services. -/
  refused : Nat

namespace GrantDesk

/-- A desk that has issued nothing yet. -/
def new (issuer : TokenIssuer) : GrantDesk := ⟨issuer, 0, 0⟩

/-- The grant for a knock, with a token of the given number. -/
def grantFor (desk : GrantDesk) (now : Int64) (id : Uuid) (knock : ValidatedKnock) :
    Except Token.Error Grant := do
  let (token, claims) ← desk.issuer.issue knock.device now id
  return ⟨knock.nonce, claims.expiresAt, token⟩

/-- Answers a knock: nothing for a device without services, otherwise the datagram of
a grant. A token that cannot be issued and a grant that cannot be written are counted
nowhere. -/
def grant (desk : GrantDesk) (now : Int64) (id : Uuid) (knock : ValidatedKnock) :
    GrantDesk × Except GrantError (Option Bytes) :=
  if knock.device.services.isEmpty then
    ({ desk with refused := desk.refused + 1 }, .ok none)
  else match desk.grantFor now id knock with
    | .error cause => (desk, .error (.token cause))
    | .ok grant => match Grant.encode knock.device.secret grant with
      | .error cause => (desk, .error (.encode cause))
      | .ok datagram => ({ desk with issued := desk.issued + 1 }, .ok (some datagram))

/-- What the sender of a knock hears: an error is silence. -/
def onKnock (desk : GrantDesk) (now : Int64) (id : Uuid) (knock : ValidatedKnock) :
    GrantDesk × Option Bytes :=
  match desk.grant now id knock with
  | (after, .ok answer) => (after, answer)
  | (after, .error _) => (after, none)

end GrantDesk

end Perimeter
