import Perimeter.Tls.Certificate

/-!
# `Perimeter.Tls.Verifier`: whose certificates are accepted

A handshake shows certificates of the other side. The gateway accepts one certificate
only: that of the device whose knock was admitted. The agent accepts that of its
gateway. An authority may vouch for certificates. What it takes for an authority to do
so is a matter of its own, and all that counts here is its answer.

* `ClientVerifier.forDevice_ok_iff`: which devices can be told by their certificates.
-/

set_option autoImplicit false

namespace Perimeter.Tls

/-- The certificates that a side of a handshake presents. -/
structure Presented where
  /-- What its own certificate shows of it. -/
  holder : PresentedIdentity
  /-- All of them, its own first. -/
  certificates : List Bytes

/-- A certificate and those sent along with it. -/
def Presented.ofCertificates (own : Bytes) (others : List Bytes) : Presented :=
  ⟨Certificate.identityOf own, own :: others⟩

/-- Who vouches for devices. -/
structure Authority where
  /-- The names by which devices are told whose certificates will do. -/
  names : List String
  vouches : Presented → Bool

/-- Why a certificate is not accepted. -/
inductive Mismatch where
  /-- No authority vouches for it. -/
  | unvouched
  /-- It is not the one asked for. -/
  | unbound
deriving DecidableEq

/-- The reason in words. -/
def Mismatch.message : Mismatch → String
  | .unvouched => "invalid peer certificate: UnknownIssuer"
  | .unbound => "invalid peer certificate: ApplicationVerificationFailure"

/-- Why no certificate of a device can be accepted. -/
inductive VerifierError where
  /-- The device is bound by a name, and there is no authority. -/
  | missingAuthority (device : DeviceId)
deriving DecidableEq

/-- The error in words. -/
def VerifierError.message : VerifierError → String
  | .missingAuthority device =>
    s!"client verifier error: device {device.text} is bound by common name " ++
      "but no client CA is configured"

/-- What the gateway asks of the certificate of a device. -/
structure ClientVerifier where
  binding : IdentityBinding
  /-- Who has to vouch for the certificate. -/
  authority : Option Authority

namespace ClientVerifier

/-- What is asked of a device. An authority counts only where the binding needs one. -/
def forDevice (device : Device) (authority : Option Authority) :
    Except VerifierError ClientVerifier :=
  if device.identity.requiresAuthority then
    match authority with
    | some a => .ok ⟨device.identity, some a⟩
    | none => .error (.missingAuthority device.id)
  else .ok ⟨device.identity, none⟩

/-- Whether a handshake asks for a certificate. -/
def asks (_ : ClientVerifier) : Bool := true

/-- Whether a handshake ends without one. -/
def insists (_ : ClientVerifier) : Bool := true

/-- The names that a handshake gives as hints. -/
def hints (v : ClientVerifier) : List String := (v.authority.map (·.names)).getD []

/-- Checks what a device presents: the authority first, then the binding. -/
def check (v : ClientVerifier) (presented : Presented) : Except Mismatch Unit :=
  if v.authority.any fun a => !a.vouches presented then .error .unvouched
  else if v.binding.isMetBy presented.holder then .ok ()
  else .error .unbound

theorem forDevice_ok_iff {device : Device} {authority : Option Authority} :
    (∃ v, forDevice device authority = .ok v) ↔
      (device.identity.requiresAuthority → authority.isSome) := by
  unfold forDevice
  cases device.identity.requiresAuthority <;> cases authority <;> simp

end ClientVerifier

/-- How an agent tells its gateway. -/
inductive ServerTrust where
  /-- By an authority, which vouches for certificates that bear a name. -/
  | named (vouches : String → Presented → Bool) (name : String)
  /-- By the digest of the certificate. -/
  | pinned (digest : Octets 32)

/-- Checks what a gateway presents. -/
def ServerTrust.check (presented : Presented) : ServerTrust → Except Mismatch Unit
  | .named vouches name => if vouches name presented then .ok () else .error .unvouched
  | .pinned digest => if digest = presented.holder.fingerprint then .ok () else .error .unbound

end Perimeter.Tls
