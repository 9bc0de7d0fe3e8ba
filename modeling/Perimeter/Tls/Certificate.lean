import Perimeter.Device
import Perimeter.Digest.Sha256
import Perimeter.Tls.Der

/-!
# `Perimeter.Tls.Certificate`: what a certificate shows of its holder

Two facts about a certificate matter here: its digest, which any octets have, and
the common name of its subject, which only a well-formed certificate has. A
certificate that cannot be read shows less of its holder, never more.

    version (optional), serial number, algorithm, issuer, validity, subject, key,
    two identifiers (optional), extensions (optional)

Only the first common name counts, and only if it is written in a kind of text whose
octets are UTF-8.

* `identityOf_fingerprint`: the digest does not depend on what the octets hold.
-/

set_option autoImplicit false

namespace Perimeter.Tls.Certificate

open Der

/-- Whether the content of an element is a string of bits: spare bits are zero. -/
def isBits : Bytes → Bool
  | [] => false
  | [unused] => unused = 0
  | unused :: bits => match bits.getLast? with
    | none => false
    | some last => unused ≤ 8 && last.toNat % 2 ^ unused.toNat = 0

/-- Reads a string of bits. -/
def bits? : Reader Unit := fun bs => do
  let (e, rest) ← tagged? bitString bs
  if !e.constructed && isBits e.content then return ((), rest) else none

/-- Reads an object identifier. -/
def identifier? : Reader Bytes := fun bs => do
  let (e, rest) ← tagged? objectIdentifier bs
  if e.constructed then none else return (e.content, rest)

/-- Reads an algorithm: an identifier and perhaps a parameter. -/
def algorithm? : Reader Unit :=
  within? sequence fun content => do
    let (_, parameter) ← identifier? content
    if parameter.isEmpty || (element? parameter).isSome then some () else none

/-- An attribute of a name. -/
structure Attribute where
  kind : Bytes
  value : Element

/-- Reads an attribute. -/
def attribute? : Reader Attribute :=
  within? sequence fun content => do
    let (kind, rest) ← identifier? content
    let (value, _) ← element? rest
    return ⟨kind, value⟩

/-- Reads a part of a name: one attribute or more. -/
def namePart? : Reader (List Attribute) :=
  within? set fun content =>
    match (many attribute? content).1 with
    | [] => none
    | attributes => some attributes

/-- Reads a name. Its attributes stand in order. -/
def name? : Reader (List Attribute) :=
  within? sequence fun content => some (many namePart? content).1.flatten

/-- The value of two decimal digits. -/
def twoDigits? (a b : UInt8) : Option Nat :=
  if 0x30 ≤ a ∧ a ≤ 0x39 ∧ 0x30 ≤ b ∧ b ≤ 0x39 then
    some ((a.toNat - 0x30) * 10 + (b.toNat - 0x30))
  else none

/-- The values of pairs of decimal digits. -/
def pairs? : Bytes → Option (List Nat)
  | [] => some []
  | [_] => none
  | a :: b :: rest => do
    let n ← twoDigits? a b
    return n :: (← pairs? rest)

/-- The days of a month. -/
def daysIn (year month : Nat) : Nat :=
  if month = 2 then
    if year % 4 = 0 ∧ (year % 100 ≠ 0 ∨ year % 400 = 0) then 29 else 28
  else if month = 4 ∨ month = 6 ∨ month = 9 ∨ month = 11 then 30
  else 31

/-- Whether a year, a month, a day and the numbers of the time of day are a time. -/
def isMoment (year month day : Nat) (time : List Nat) : Bool :=
  1 ≤ month && month ≤ 12 && 1 ≤ day && day ≤ daysIn year month &&
    time.getD 0 0 ≤ 23 && time.getD 1 0 ≤ 59 && time.getD 2 0 ≤ 59

/-- Octets without the `Z` at their end. -/
def withoutZone? (bs : Bytes) : Option Bytes :=
  if bs.getLast? = some 0x5A then some bs.dropLast else none

/-- Whether the content of an element is a time whose year has two digits. Years from
fifty on lie in the century before. -/
def isShortTime (content : Bytes) : Bool :=
  match withoutZone? content >>= pairs? with
  | some [yy, month, day, hour, minute, second] =>
    isMoment (if 50 ≤ yy then 1900 + yy else 2000 + yy) month day [hour, minute, second]
  | _ => false

/-- Whether octets are a fraction of a second: a point and up to three digits. -/
def isFraction : Bytes → Bool
  | [] => true
  | point :: digits =>
    point = 0x2E && digits.length ≤ 3 && digits.all fun b => 0x30 ≤ b && b ≤ 0x39

/-- Whether the content of an element is a time whose year has four digits. Minutes
and seconds may be missing. -/
def isLongTime (content : Bytes) : Bool :=
  match withoutZone? content with
  | none => false
  | some digits =>
    isFraction (digits.drop 14) &&
      match pairs? (digits.take 14) with
      | some (yy :: y :: month :: day :: hour :: time) =>
        isMoment (yy * 100 + y) month day (hour :: time)
      | _ => false

/-- Reads a time. -/
def time? : Reader Unit := fun bs => do
  let (e, rest) ← element? bs
  let sound := e.number = utcTime && isShortTime e.content ||
    e.number = generalizedTime && isLongTime e.content
  if !e.constructed && sound then return ((), rest) else none

/-- Reads a validity: two times. -/
def validity? : Reader Unit :=
  within? sequence fun content => do
    let (_, rest) ← time? content
    let (_, _) ← time? rest
    return ()

/-- Reads a key: its algorithm and its bits. -/
def key? : Reader Unit :=
  within? sequence fun content => do
    let (_, rest) ← algorithm? content
    let (_, _) ← bits? rest
    return ()

/-- Whether the content of an element is a number from zero up to four octets long, in
as few octets as it needs. -/
def isVersion : Bytes → Bool
  | [] => false
  | [b] => b < 128
  | a :: b :: rest => (a ≠ 0 || 128 ≤ b) && a < 128 && rest.length + (if a = 0 then 1 else 2) ≤ 4

/-- Skips an element of a context tag if it stands in front and what it holds will do. -/
def optional? (number : Nat) (sound : Element → Bool) (bs : Bytes) : Option Bytes :=
  if bs.isEmpty then some bs
  else do
    let ((tagClass, _, n), _) ← tag? bs
    if tagClass = .context ∧ n = number then
      let (e, rest) ← element? bs
      if sound e then some rest else none
    else some bs

/-- Whether an element holds a version. -/
def holdsVersion (e : Element) : Bool :=
  match tagged? integer e.content with
  | some (v, _) => !v.constructed && isVersion v.content
  | none => false

/-- Reads an extension: an identifier, perhaps a mark that it is critical, and its
content. -/
def extension? : Reader Unit :=
  within? sequence fun content => do
    let (_, rest) ← identifier? content
    let rest := match element? rest with
      | some (e, more) => if e.number = 1 ∧ e.content.length = 1 then more else rest
      | none => rest
    let (_, _) ← tagged? octetString rest
    return ()

/-- Whether the octets behind the key are extensions, if there are any. -/
def areExtensions (bs : Bytes) : Bool :=
  bs.isEmpty ||
    match tag? bs with
    | none => false
    | some ((_, _, number), rest) =>
      match length? rest with
      | none => false
      | some (_, content) =>
        let listed := within? sequence (fun inner => some (many extension? inner).2) content
        number = 3 && listed = some ([], [])

/-- Reads what is signed in a certificate and gives the attributes of the subject. -/
def signedPart? : Reader (List Attribute) :=
  within? sequence fun content => do
    -- The version stands in an element of its own, and is one if it is missing.
    let rest ← optional? 0 holdsVersion content
    let (_, rest) ← tagged? integer rest
    let (_, rest) ← algorithm? rest
    let (_, rest) ← name? rest
    let (_, rest) ← validity? rest
    let (subject, rest) ← name? rest
    let (_, rest) ← key? rest
    -- Identifiers of the issuer and of the subject, which nobody uses.
    let rest ← optional? 1 (fun e => !e.constructed && isBits e.content) rest
    let rest ← optional? 2 (fun e => !e.constructed && isBits e.content) rest
    if areExtensions rest then some subject else none

/-- The attributes of the subject of a certificate. -/
def subject? (certificate : Bytes) : Option (List Attribute) := do
  let (subject, _) ← within? sequence (fun content => do
    let (subject, rest) ← signedPart? content
    let (_, rest) ← algorithm? rest
    let (_, _) ← bits? rest
    return subject) certificate
  return subject

/-- The identifier of the attribute "common name". -/
def commonNameKind : Bytes := [0x55, 0x04, 0x03]

/-- The kinds of text whose octets are UTF-8. -/
def textKinds : List Nat := [utf8String, numericString, printableString, ia5String]

/-- The text that an element holds. -/
def text? (e : Element) : Option String :=
  if textKinds.contains e.number then Text.ofUtf8? e.content else none

/-- The common name of the subject of a certificate. -/
def commonName? (certificate : Bytes) : Option String := do
  let name ← (← subject? certificate).find? fun a => a.kind = commonNameKind
  text? name.value

/-- What a certificate shows of its holder. -/
def identityOf (certificate : Bytes) : PresentedIdentity :=
  ⟨Sha256.digest certificate, commonName? certificate⟩

theorem identityOf_fingerprint (certificate : Bytes) :
    (identityOf certificate).fingerprint = Sha256.digest certificate := rfl

/-- The digest of a certificate in hexadecimal digits, the form that entries pin it in. -/
def fingerprintHex (certificate : Bytes) : String :=
  Hex.encode (identityOf certificate).fingerprint.bytes

end Perimeter.Tls.Certificate
