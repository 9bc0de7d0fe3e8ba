import Perimeter.Hex
import Perimeter.Text.Blank

/-!
# `Perimeter.Device`: devices and what they must prove

A device proves itself twice: its knock is authenticated with a secret shared
with the control plane, and its certificate must satisfy the identity bound to
it. Both facts belong to one identifier, which ties the anonymous datagram
channel to the authenticated connection.

* `DeviceId.ofText?_text`: an identifier is accepted again from its own text.
* `KnockSecret.ofHex`, `IdentityBinding.ofFingerprintHex`: the readers of the two
  hexadecimal fields of a configuration entry.
-/

set_option autoImplicit false

namespace Perimeter

/-- The longest identifier, in octets. -/
def maxDeviceIdLength : Nat := 64

/-- The shortest knock secret, in octets. -/
def minKnockSecretLength : Nat := 16

/-- The octets of a certificate fingerprint. -/
def fingerprintLength : Nat := 32

/-- The fields of an entry that are written in hexadecimal. -/
inductive HexField where
  | knockSecret
  | certFingerprint
deriving DecidableEq

/-- The field as messages call it. -/
def HexField.name : HexField → String
  | .knockSecret => "knock_secret"
  | .certFingerprint => "cert_fingerprint"

/-- Why a value about a device is refused. -/
inductive DeviceError where
  | emptyId
  | idTooLong (length : Nat)
  | secretTooShort (length : Nat)
  | invalidHex (field : HexField) (cause : Hex.Error)
  | badFingerprintLength (length : Nat)
deriving DecidableEq

/-- The error in words. -/
def DeviceError.message : DeviceError → String
  | .emptyId => "device id must not be empty"
  | .idTooLong n => s!"device id is {n} bytes, maximum is {maxDeviceIdLength}"
  | .secretTooShort n => s!"knock secret is {n} bytes, minimum is {minKnockSecretLength}"
  | .invalidHex field cause => s!"invalid hex in {field.name}: {cause.message}"
  | .badFingerprintLength n =>
    s!"certificate fingerprint must be {fingerprintLength} bytes, got {n}"

/-- An identifier: a text of one to sixty-four octets. -/
structure DeviceId where
  text : String
  text_ne : text ≠ ""
  length_le : (Text.utf8 text).length ≤ maxDeviceIdLength
deriving DecidableEq

namespace DeviceId

/-- Accepts a text as an identifier. -/
def ofText (text : String) : Except DeviceError DeviceId :=
  if hne : text = "" then .error .emptyId
  else if hle : (Text.utf8 text).length ≤ maxDeviceIdLength then .ok ⟨text, hne, hle⟩
  else .error (.idTooLong (Text.utf8 text).length)

/-- The octets of an identifier. -/
def bytes (id : DeviceId) : Bytes := Text.utf8 id.text

theorem ofText?_text (id : DeviceId) : ofText id.text = .ok id := by
  rw [ofText, dif_neg id.text_ne, dif_pos id.length_le]

theorem length_bytes_pos (id : DeviceId) : 0 < id.bytes.length :=
  List.length_pos_iff.mpr fun hnil => id.text_ne (Text.utf8_injective hnil)

theorem text_of_ofText {text : String} {id : DeviceId} (h : ofText text = .ok id) :
    id.text = text := by
  unfold ofText at h
  split at h
  · cases h
  · split at h
    · cases h
      rfl
    · cases h

end DeviceId

/-- The key that authenticates a device's knocks and the grants sent to it. -/
structure KnockSecret where
  bytes : Bytes
  length_ge : minKnockSecretLength ≤ bytes.length
deriving DecidableEq

namespace KnockSecret

/-- Accepts octets as a secret. -/
def ofBytes (bs : Bytes) : Except DeviceError KnockSecret :=
  if h : minKnockSecretLength ≤ bs.length then .ok ⟨bs, h⟩
  else .error (.secretTooShort bs.length)

/-- Reads a secret from hexadecimal digits, with blanks around them. -/
def ofHex (text : String) : Except DeviceError KnockSecret :=
  match Hex.decode (Text.utf8 (Text.trim text)) with
  | .ok bs => ofBytes bs
  | .error cause => .error (.invalidHex .knockSecret cause)

/-- How a secret is shown: by its length alone. -/
def redacted (secret : KnockSecret) : String :=
  s!"KnockSecret([redacted; {secret.bytes.length} bytes])"

end KnockSecret

/-- What a certificate presented in a handshake shows of its holder. -/
structure PresentedIdentity where
  fingerprint : Octets 32
  commonName : Option String
deriving DecidableEq

/-- What a device's certificate must look like. -/
inductive IdentityBinding where
  /-- The digest of the certificate is pinned. -/
  | fingerprint (digest : Octets 32)
  /-- The subject's common name is fixed, and a trusted authority vouches for it. -/
  | commonName (name : String)
deriving DecidableEq

namespace IdentityBinding

/-- Reads a pinned digest from hexadecimal digits. Colons are dropped first, then
the blanks at both ends. -/
def ofFingerprintHex (text : String) : Except DeviceError IdentityBinding :=
  let cleaned := Text.trimList (text.toList.filter (· ≠ ':'))
  match Hex.decode (Text.utf8 (String.ofList cleaned)) with
  | .error cause => .error (.invalidHex .certFingerprint cause)
  | .ok bs =>
    match Octets.ofBytes? fingerprintLength bs with
    | some digest => .ok (.fingerprint digest)
    | none => .error (.badFingerprintLength bs.length)

/-- Whether a presented certificate is the one bound. A common name is compared
as text: that an authority vouches for it is checked by whoever asks. -/
def isMetBy (binding : IdentityBinding) (presented : PresentedIdentity) : Bool :=
  match binding with
  | .fingerprint digest => digest = presented.fingerprint
  | .commonName name => presented.commonName = some name

/-- Whether the binding is worth something only with an authority's signature. -/
def requiresAuthority : IdentityBinding → Bool
  | .fingerprint _ => false
  | .commonName _ => true

end IdentityBinding

/-- A registered device. -/
structure Device where
  id : DeviceId
  secret : KnockSecret
  identity : IdentityBinding
  /-- The services that the device may reach. -/
  services : List String
deriving DecidableEq

/-- Whether a device may reach a service. -/
def Device.permits (device : Device) (service : String) : Bool :=
  device.services.contains service

end Perimeter
