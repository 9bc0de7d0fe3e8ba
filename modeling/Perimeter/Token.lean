import Perimeter.Base64Url
import Perimeter.Device
import Perimeter.Digest.Hmac
import Perimeter.Token.Claims
import Perimeter.Token.Header

/-!
# `Perimeter.Token`: signed tokens

The controller writes down what a device may do and signs it with a secret that it
shares with the gateway. A token is three parts between dots: the header, the
claims, and the keyed digest of the first two with their dot, all in letters.

The signature is compared as text and before the claims are looked at, so that a
forged token learns nothing about what its claims would have been worth.

Two sums with the time may be out of range of a machine word, the expiry of a new token
and the latest time at which a token that counts now may have been issued. To issue or
to verify a token breaks down if its sum is.

* `compact`: how header, claims and signature make a token.
* `splitLast?_append`: a text is cut at its last dot.
-/

set_option autoImplicit false

namespace Perimeter

/-- The shortest secret for tokens, in octets. -/
def minTokenSecretLength : Nat := 32

namespace Token

/-- Why a token has no readable parts. -/
inductive Malformation where
  /-- There are fewer than two dots. -/
  | notThreeParts
  | base64
  | json
  | missingExpiry
deriving DecidableEq

/-- The malformation in words. -/
def Malformation.message : Malformation → String
  | notThreeParts => "InvalidToken"
  | base64 => "Base64 error"
  | json => "JSON error"
  | missingExpiry => "Missing required claim: exp"

/-- Why a token is refused. -/
inductive Error where
  | malformed (cause : Malformation)
  | unsupportedAlgorithm (algorithm : Algorithm)
  | badSignature
  | wrongIssuer (expected : String)
  | expired (expiresAt now : Int64)
  | notYetValid (issuedAt now : Int64)
  | secretTooShort (length : Nat)
  /-- A sum with the time is out of range. -/
  | outOfRange
deriving DecidableEq

/-- The error in words. There are none for a sum out of range. -/
def Error.message? : Error → Option String
  | malformed cause => some s!"malformed token: {cause.message}"
  | unsupportedAlgorithm a => some s!"unsupported token algorithm: {a.name}"
  | badSignature => some "token signature is invalid"
  | wrongIssuer expected => some s!"token not issued by {Text.quoted expected}"
  | expired expiresAt now => some s!"token expired at {expiresAt.toInt}, now {now.toInt}"
  | notYetValid issuedAt now =>
    some s!"token issued in the future (iat {issuedAt.toInt}, now {now.toInt})"
  | secretTooShort n => some s!"token secret is {n} bytes, minimum is {minTokenSecretLength}"
  | outOfRange => none

/-- The dot between the parts. -/
def dot : UInt8 := 0x2E

/-- What stands before and after the last dot. -/
def splitLast? : Bytes → Option (Bytes × Bytes)
  | [] => none
  | b :: rest =>
    match splitLast? rest with
    | some (before, after) => some (b :: before, after)
    | none => if b = dot then some ([], rest) else none

/-- The three parts of a token. The first may itself hold dots. -/
structure Parts where
  header : Bytes
  payload : Bytes
  signature : Bytes

/-- Cuts a token at its last two dots. -/
def Parts.ofBytes? (token : Bytes) : Option Parts := do
  let (message, signature) ← splitLast? token
  let (header, payload) ← splitLast? message
  return ⟨header, payload, signature⟩

/-- What is signed: the first two parts with their dot. -/
def message (header payload : Bytes) : Bytes := header ++ dot :: payload

/-- The signature of a message as letters. -/
def signature (secret message : Bytes) : Bytes :=
  Base64Url.encode (Hmac.tag secret message).bytes

/-- The token of a header and claims, both as octets. -/
def compact (secret header payload : Bytes) : Bytes :=
  let signed := message (Base64Url.encode header) (Base64Url.encode payload)
  signed ++ dot :: signature secret signed

theorem splitLast?_of_not_mem {bs : Bytes} (h : dot ∉ bs) : splitLast? bs = none := by
  induction bs with
  | nil => rfl
  | cons b rest ih =>
    have hb : b ≠ dot := fun e => h (e ▸ List.mem_cons_self)
    simp [splitLast?, ih fun hm => h (List.mem_cons_of_mem _ hm), hb]

theorem splitLast?_append {before after : Bytes} (h : dot ∉ after) :
    splitLast? (before ++ dot :: after) = some (before, after) := by
  induction before with
  | nil => simp [splitLast?, splitLast?_of_not_mem h]
  | cons b rest ih => simp [splitLast?, ih]

end Token

/-- What signs and verifies tokens: a secret, the name that tokens bear, and how long
they count. -/
structure TokenIssuer where
  secret : Bytes
  secret_length_ge : minTokenSecretLength ≤ secret.length
  issuer : String
  /-- Seconds. -/
  ttl : Nat
deriving DecidableEq

namespace TokenIssuer

open Token

/-- The shortest time that a token counts, in seconds. -/
def minTtl : Nat := 10

/-- The longest time that a token counts, in seconds. -/
def maxTtl : Nat := 900

/-- The time that a token counts unless something else is asked for, in seconds. -/
def defaultTtl : Nat := 120

/-- How far in the future a token may be issued, in seconds. -/
def leeway : Int64 := 60

/-- An issuer with a secret long enough. The time to live is brought within bounds. -/
def new (secret : Bytes) (issuer : String) (ttl : Nat) : Except Error TokenIssuer :=
  if h : minTokenSecretLength ≤ secret.length then
    .ok ⟨secret, h, issuer, min (max ttl minTtl) maxTtl⟩
  else .error (.secretTooShort secret.length)

/-- What a token issued to a device says. -/
def claimsFor (t : TokenIssuer) (device : Device) (now : Int64) (id : Uuid) : Claims where
  issuer := t.issuer
  subject := device.id.text
  issuedAt := now
  expiresAt := now + Int64.ofNat t.ttl
  scope := device.services
  id := id

/-- The token of some claims. -/
def sign (t : TokenIssuer) (claims : Claims) : String :=
  Text.ofAscii (compact t.secret Header.issued claims.write)

/-- The token that is issued to a device. -/
def tokenFor (t : TokenIssuer) (device : Device) (now : Int64) (id : Uuid) : String :=
  t.sign (t.claimsFor device now id)

/-- Issues a token to a device. -/
def issue (t : TokenIssuer) (device : Device) (now : Int64) (id : Uuid) :
    Except Error (String × Claims) :=
  if now.toInt + t.ttl < 2 ^ 63 then .ok (t.tokenFor device now id, t.claimsFor device now id)
  else .error .outOfRange

/-- Reads a part of a token that is JSON. -/
def readPart {α : Type} (read? : Bytes → Option α) (part : Bytes) : Except Error α :=
  match Base64Url.decode part with
  | none => .error (.malformed .base64)
  | some octets => match read? octets with
    | none => .error (.malformed .json)
    | some a => .ok a

/-- Checks what claims say against the issuer and the time. -/
def check (t : TokenIssuer) (claims : Claims) (now : Int64) : Except Error Claims :=
  if claims.expiresAt < 0 then .error (.malformed .missingExpiry)
  else if claims.issuer ≠ t.issuer then .error (.wrongIssuer t.issuer)
  else if 2 ^ 63 ≤ now.toInt + leeway.toInt then .error .outOfRange
  else if now + leeway < claims.issuedAt then .error (.notYetValid claims.issuedAt now)
  else if claims.expiresAt < now then .error (.expired claims.expiresAt now)
  else .ok claims

/-- Verifies a token: its header, its signature, then its claims. -/
def verify (t : TokenIssuer) (token : String) (now : Int64) : Except Error Claims := do
  match Parts.ofBytes? (Text.utf8 token) with
  | none => .error (.malformed .notThreeParts)
  | some parts =>
    let algorithm ← readPart Header.read? parts.header
    if algorithm ≠ .hs256 then
      throw (.unsupportedAlgorithm algorithm)
    -- As text: two spellings of the same octets are two signatures.
    if parts.signature ≠ signature t.secret (message parts.header parts.payload) then
      throw .badSignature
    -- Only claims that the secret vouches for are read.
    let claims ← readPart Claims.read? parts.payload
    t.check claims now

end TokenIssuer

end Perimeter
