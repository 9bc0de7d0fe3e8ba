import Perimeter.Proofs.Token.Window
import Perimeter.Proofs.Wire.Field

/-!
# `Perimeter.Proofs.Token.Issued`: a token in the hands of its receiver

An issued token can be sent if it is not too long (`checkToken_tokenFor`), and how long it is
depends on its claims alone (`length_tokenFor`). Whoever has the secret and the name of the issuer
finds it valid in its window (`verify_tokenFor_of_window`).

Two sums of machine words decide on that. Only claims whose expiry is not negative are of any use:
then the expiry is in range, and is the time to live after the issue (`toInt_expiresAt_of_nonneg`).
The time with the minute of leeway is out of range in the last minute of the machine's time, and the
verification of a token that was just issued breaks down.
-/

set_option autoImplicit false

namespace Perimeter.TokenIssuer

open Token

variable {t signer : TokenIssuer} {device : Device} {id : Uuid} {now issuedAt : Int64}

theorem ttl_le_of_ofNanoseconds {secret : Bytes} {issuer : String} {ttl : Nat}
    (h : ofNanoseconds secret issuer ttl = .ok t) : t.ttl ≤ maxTtl := by
  unfold ofNanoseconds at h
  split at h
  · cases h
    exact lifetime_le ttl
  · cases h

/-- An expiry that is not negative is the time to live after the issue. -/
theorem toInt_expiresAt_of_nonneg (httl : signer.ttl ≤ maxTtl)
    (hexpiry : 0 ≤ (signer.claimsFor device issuedAt id).expiresAt) :
    (signer.claimsFor device issuedAt id).expiresAt.toInt = issuedAt.toInt + signer.ttl := by
  by_cases hhigh : issuedAt.toInt + signer.ttl < 2 ^ 63
  · exact toInt_expiresAt device id httl hhigh
  -- A sum that does not fit is negative as a word.
  · have hissued := issuedAt.toInt_lt
    have hseconds : (Int64.ofNat signer.ttl).toInt = signer.ttl := by
      rw [Int64.toInt_ofNat_of_lt]
      exact Nat.lt_of_le_of_lt httl (by decide)
    change signer.ttl ≤ 900 at httl
    have hsum : (signer.claimsFor device issuedAt id).expiresAt.toInt =
        Int.bmod (issuedAt.toInt + signer.ttl) (2 ^ 64) := by
      show (issuedAt + Int64.ofNat signer.ttl).toInt = _
      rw [Int64.toInt_add, hseconds]
    rw [Int64.le_iff_toInt_le, hsum, Int.bmod_def] at hexpiry
    exfalso
    change 0 ≤ _ at hexpiry
    split at hexpiry <;> omega

/-- An expiry that is not negative is in range. -/
theorem lt_of_expiresAt_nonneg (httl : signer.ttl ≤ maxTtl)
    (hexpiry : 0 ≤ (signer.claimsFor device issuedAt id).expiresAt) :
    issuedAt.toInt + signer.ttl < 2 ^ 63 := by
  rw [← toInt_expiresAt_of_nonneg httl hexpiry]
  exact Int64.toInt_lt _

/-- Whoever has the secret and the name of the issuer finds an issued token valid from a minute
before its issue to its expiry. In the last minute of the machine's time the verification breaks
down. -/
theorem verify_tokenFor_of_window (hsecret : signer.secret = t.secret)
    (hissuer : signer.issuer = t.issuer)
    (hexpiry : 0 ≤ (signer.claimsFor device issuedAt id).expiresAt)
    (httl : signer.ttl ≤ maxTtl) (hearly : issuedAt.toInt - 60 ≤ now.toInt)
    (hlate : now.toInt ≤ issuedAt.toInt + signer.ttl) :
    t.verify (signer.tokenFor device issuedAt id) now =
      if now.toInt + 60 < 2 ^ 63 then .ok (signer.claimsFor device issuedAt id)
      else .error .outOfRange := by
  have hexpiresAt := toInt_expiresAt_of_nonneg httl hexpiry
  rw [verify_tokenFor device id hsecret]
  split
  next hfits =>
    refine check_ok_iff.mpr ⟨rfl, hexpiry, hissuer, hfits, ?_, ?_⟩
    · show issuedAt.toInt ≤ _
      omega
    · rw [Int64.le_iff_toInt_le, hexpiresAt]
      exact hlate
  next hover => exact check_outOfRange_iff.mpr ⟨hexpiry, hissuer, Int.not_lt.mp hover⟩

/-! ### The text of a token -/

/-- A token has as many octets as characters, one at least, and all of them ASCII. -/
theorem utf8_tokenFor (signer : TokenIssuer) (device : Device) (issuedAt : Int64) (id : Uuid) :
    let octets := Text.utf8 (signer.tokenFor device issuedAt id)
    octets.length = (signer.tokenFor device issuedAt id).length ∧ 1 ≤ octets.length ∧
      Text.isAscii octets := by
  intro octets
  let payload := (signer.claimsFor device issuedAt id).write
  have hoctets : octets = compact signer.secret Header.issued payload := utf8_ofAscii_compact
  refine ⟨?_, ?_, ?_⟩
  · rw [hoctets]
    show _ = (Text.ofAscii (compact signer.secret Header.issued payload)).length
    rw [Text.ofAscii, String.length_ofList, List.length_map]
  · rw [hoctets, length_compact]
    omega
  · rw [hoctets]
    exact isAscii_compact

/-- A token that is not too long can be sent. -/
theorem checkToken_tokenFor
    (hshort : (signer.tokenFor device issuedAt id).length ≤ Wire.maxTokenLength) :
    Wire.checkToken (signer.tokenFor device issuedAt id) 1 = .ok () := by
  obtain ⟨hlength, hsome, hascii⟩ := utf8_tokenFor signer device issuedAt id
  exact Wire.checkToken_ok_iff.mpr ⟨hsome, hlength ▸ hshort, hascii⟩

/-- How long a token is depends on its claims alone. -/
theorem length_tokenFor (signer : TokenIssuer) (device : Device) (issuedAt : Int64) (id : Uuid) :
    (signer.tokenFor device issuedAt id).length =
      (4 * (signer.claimsFor device issuedAt id).write.length + 2) / 3 + 81 := by
  have hheader : Header.issued.length = 27 := by decide
  rw [← (utf8_tokenFor signer device issuedAt id).1]
  show (Text.utf8 (Text.ofAscii (compact signer.secret Header.issued _))).length = _
  rw [utf8_ofAscii_compact, length_compact, hheader]
  omega

end Perimeter.TokenIssuer
