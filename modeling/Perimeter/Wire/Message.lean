import Perimeter.Device
import Perimeter.Digest.Hmac

/-!
# `Perimeter.Wire.Message`: what all datagrams have in common

Both kinds of datagram open with a version and a kind, carry their numbers most
significant octet first, and end in a tag over all that stands before it. The
readers of this module take a field at an offset and say how many octets would
have been needed when it is not all there.

* `field_eq_ok`: a field that lies inside the datagram is read.
-/

set_option autoImplicit false

namespace Perimeter

/-- The sixteen random octets that make a knock unique. -/
abbrev Nonce := Octets 16

/-- An authentication tag. -/
abbrev Tag := Octets 32

namespace Wire

/-- The version of the format. -/
def version : UInt8 := 0x01

/-- The longest token that a message may carry, in octets. -/
def maxTokenLength : Nat := 1024

/-- The octets of a tag. -/
def tagLength : Nat := 32

/-- The kinds of datagram. -/
inductive Kind where
  | knock
  | grant
deriving DecidableEq

namespace Kind

/-- The second octet of a datagram of this kind. -/
def code : Kind → UInt8
  | knock => 0x01
  | grant => 0x02

/-- The kind that an octet stands for. -/
def ofCode? (b : UInt8) : Option Kind :=
  if b = 0x01 then some knock else if b = 0x02 then some grant else none

/-- The kind as messages call it. -/
def name : Kind → String
  | knock => "Knock"
  | grant => "Grant"

end Kind

/-- What is wrong with the content of a datagram. -/
inductive Fault where
  /-- The identifier of a knock is empty or too long. -/
  | deviceIdLength (length : Nat)
  | deviceIdNotUtf8 (fault : Text.Fault)
  | deviceIdRefused (cause : DeviceError)
  /-- A received knock declares more token than is allowed. -/
  | tokenTooLong (length : Nat)
  /-- A token to be sent is shorter than `least` or too long. -/
  | tokenLength (length least : Nat)
  /-- A received grant declares no token or more than is allowed. -/
  | grantTokenLength (length : Nat)
  | tokenNotAscii
  | trailing (count : Nat)
deriving DecidableEq

/-- The fault in words. -/
def Fault.message : Fault → String
  | deviceIdLength n => s!"device id length {n} outside 1..={maxDeviceIdLength}"
  | deviceIdNotUtf8 fault => s!"device id is not UTF-8: {fault.message}"
  | deviceIdRefused cause => cause.message
  | tokenTooLong n => s!"token length {n} exceeds {maxTokenLength}"
  | tokenLength n least => s!"token length {n} outside {least}..={maxTokenLength}"
  | grantTokenLength n => s!"grant token length {n} outside 1..={maxTokenLength}"
  | tokenNotAscii => "token is not ASCII"
  | trailing n => s!"{n} trailing bytes after tag"

/-- Why a datagram is refused, or cannot be written. -/
inductive Error where
  | insufficientData (needed available : Nat)
  | oversized (size most : Nat)
  | unknownKind (code : UInt8)
  | unexpectedKind (expected found : Kind)
  | unsupportedVersion (version : UInt8)
  | malformed (fault : Fault)
  | lengthMismatch (declared available : Nat)
  | badTag
  | nonceMismatch
deriving DecidableEq

/-- Two upper-case hexadecimal digits. -/
def upperHex (b : UInt8) : String :=
  String.ofList ((Hex.encodeBytes [b]).map fun d => (Char.ofNat d.toNat).toUpper)

/-- The error in words. -/
def Error.message : Error → String
  | insufficientData needed available =>
    s!"insufficient data: need at least {needed} bytes, got {available}"
  | oversized size most => s!"datagram of {size} bytes exceeds maximum of {most}"
  | unknownKind code => s!"unknown message type: 0x{upperHex code}"
  | unexpectedKind expected found => s!"expected {expected.name} message, got {found.name}"
  | unsupportedVersion v => s!"unsupported protocol version: {v.toNat}"
  | malformed fault => s!"malformed payload: {fault.message}"
  | lengthMismatch declared available =>
    s!"length mismatch: fields declare {declared} bytes, datagram has {available}"
  | badTag => "authentication tag mismatch"
  | nonceMismatch => "grant nonce does not match the knock"

/-- The two octets that open a datagram of a kind. -/
def header (kind : Kind) : Bytes := [version, kind.code]

/-- The octet at an offset, zero past the end. -/
def octetAt (datagram : Bytes) (offset : Nat) : UInt8 := datagram.getD offset 0

/-- Checks the version, then that the kind is known and the expected one. -/
def checkHeader (datagram : Bytes) (expected : Kind) : Except Error Unit :=
  if octetAt datagram 0 ≠ version then .error (.unsupportedVersion (octetAt datagram 0))
  else match Kind.ofCode? (octetAt datagram 1) with
    | none => .error (.unknownKind (octetAt datagram 1))
    | some found => if found = expected then .ok () else .error (.unexpectedKind expected found)

/-- Checks that a datagram is as long as its fields say. -/
def checkLength (datagram : Bytes) (declared : Nat) : Except Error Unit :=
  if datagram.length < declared then .error (.lengthMismatch declared datagram.length)
  else if declared < datagram.length then
    .error (.malformed (.trailing (datagram.length - declared)))
  else .ok ()

/-- Checks a token that is to be sent. -/
def checkToken (token : String) (least : Nat) : Except Error Unit :=
  let length := (Text.utf8 token).length
  if length < least ∨ maxTokenLength < length then .error (.malformed (.tokenLength length least))
  else if Text.isAscii (Text.utf8 token) then .ok ()
  else .error (.malformed .tokenNotAscii)

/-- The octets of a datagram from an offset up to another. -/
def slice (datagram : Bytes) (start stop : Nat) : Bytes := (datagram.take stop).drop start

/-- The field of `n` octets at an offset. -/
def field (datagram : Bytes) (offset n : Nat) : Except Error (Octets n) :=
  match Octets.ofBytes? n (slice datagram offset (offset + n)) with
  | some f => .ok f
  | none => .error (.insufficientData (offset + n) datagram.length)

/-- The number in two octets at an offset. -/
def number16 (datagram : Bytes) (offset : Nat) : Except Error Nat := do
  return ofBigEndian (← field datagram offset 2).bytes

/-- The two's complement number in eight octets at an offset. -/
def int64 (datagram : Bytes) (offset : Nat) : Except Error Int64 := do
  return toInt64 (← field datagram offset 8).bytes

/-- Octets as a token. -/
def tokenText (bs : Bytes) : Except Error String :=
  if Text.isAscii bs then .ok (Text.ofAscii bs) else .error (.malformed .tokenNotAscii)

/-- The tag of a device's messages over some octets. -/
def tagOf (secret : KnockSecret) (data : Bytes) : Tag := Hmac.tag secret.bytes data

/-- Whether a tag is the one that the secret gives. -/
def tagHolds (secret : KnockSecret) (data : Bytes) (tag : Tag) : Bool :=
  tagOf secret data = tag

theorem length_slice (datagram : Bytes) (start stop : Nat) :
    (slice datagram start stop).length = min stop datagram.length - start := by
  simp [slice]

theorem field_eq_ok {datagram : Bytes} {offset n : Nat} (h : offset + n ≤ datagram.length) :
    field datagram offset n =
      .ok ⟨slice datagram offset (offset + n), by rw [length_slice]; omega⟩ := by
  have hlen : (slice datagram offset (offset + n)).length = n := by rw [length_slice]; omega
  simp [field, Octets.ofBytes?, hlen]

end Wire

end Perimeter
