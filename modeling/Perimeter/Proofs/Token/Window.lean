import Perimeter.Proofs.Token.Claims
import Perimeter.Proofs.Token.Compact

/-!
# `Perimeter.Proofs.Token.Window`: when a token counts

A token is issued as long as its expiry is in range (`issue_ok_iff`). Whoever has the secret reads
it back as its claims (`verify_tokenFor`), so all that is left to the verifier is the check of the
claims, and of that only the time. A token counts from a minute before it was issued, since clocks
differ, to the end of its time to live (`verifies_exactly_in_window`).

The time to live may have a part of a second, which a token loses: `lifetime` is what is left.
-/

set_option autoImplicit false

namespace Perimeter.TokenIssuer

open Token

/-- Nanoseconds in a second. -/
def secondNs : Nat := 10 ^ 9

/-- The whole seconds that a token counts, for a time to live in nanoseconds. The time to live
is brought within bounds first. -/
def lifetime (ttl : Nat) : Nat := min (max ttl (minTtl * secondNs)) (maxTtl * secondNs) / secondNs

/-- An issuer for a time to live in nanoseconds. -/
def ofNanoseconds (secret : Bytes) (issuer : String) (ttl : Nat) : Except Error TokenIssuer :=
  if h : minTokenSecretLength ≤ secret.length then .ok ⟨secret, h, issuer, lifetime ttl⟩
  else .error (.secretTooShort secret.length)

/-- Only the whole seconds of a time to live count. -/
theorem ofNanoseconds_eq_new (secret : Bytes) (issuer : String) (ttl : Nat) :
    ofNanoseconds secret issuer ttl = new secret issuer (ttl / secondNs) := by
  have hlifetime : lifetime ttl = min (max (ttl / secondNs) minTtl) maxTtl := by
    simp only [lifetime, secondNs, minTtl, maxTtl]
    omega
  rw [ofNanoseconds, new, hlifetime]

theorem lifetime_le (ttl : Nat) : lifetime ttl ≤ maxTtl := by
  simp only [lifetime, secondNs, minTtl, maxTtl]
  omega

variable {t signer : TokenIssuer} {claims : Claims} {now issuedAt : Int64}

/-! ### The claims of an issued token -/

/-- A token is issued as long as its expiry is in range. -/
theorem issue_ok_iff {device : Device} {id : Uuid} {issued : String × Claims} :
    t.issue device now id = .ok issued ↔ now.toInt + t.ttl < 2 ^ 63 ∧
      issued = (t.tokenFor device now id, t.claimsFor device now id) := by
  unfold issue
  split
  next hfits =>
    rw [Except.ok.injEq, eq_comm]
    exact (and_iff_right hfits).symm
  next hover => exact iff_of_false (fun h => by cases h) fun h => hover h.1

/-- To issue a token breaks down if its expiry is out of range. -/
theorem issue_error_iff {device : Device} {id : Uuid} {reason : Error} :
    t.issue device now id = .error reason ↔ 2 ^ 63 ≤ now.toInt + t.ttl ∧ reason = .outOfRange := by
  unfold issue
  split
  next hfits => exact iff_of_false (fun h => by cases h) fun h => Int.not_le.mpr hfits h.1
  next hover =>
    rw [Except.error.injEq, eq_comm]
    exact (and_iff_right (Int.not_lt.mp hover)).symm

/-- Whoever has the secret reads an issued token back as its claims, and checks them. -/
theorem verify_tokenFor (device : Device) (id : Uuid) (hsecret : signer.secret = t.secret) :
    t.verify (signer.tokenFor device issuedAt id) now =
      t.check (signer.claimsFor device issuedAt id) now :=
  verify_sign hsecret (Claims.read?_write _)

/-- The expiry of a token, as a number. -/
theorem toInt_expiresAt (device : Device) (id : Uuid) (httl : signer.ttl ≤ maxTtl)
    (hhigh : issuedAt.toInt + signer.ttl < 2 ^ 63) :
    (signer.claimsFor device issuedAt id).expiresAt.toInt = issuedAt.toInt + signer.ttl := by
  have hissued := issuedAt.le_toInt
  have hseconds : (Int64.ofNat signer.ttl).toInt = signer.ttl := by
    rw [Int64.toInt_ofNat_of_lt]
    exact Nat.lt_of_le_of_lt httl (by decide)
  show (issuedAt + Int64.ofNat signer.ttl).toInt = _
  rw [Int64.toInt_add, hseconds]
  exact Int.bmod_eq_of_le (by omega) (by omega)

/-! ### The window -/

/-- What the check makes of claims of the right issuer, by the time. -/
theorem check_eq_of_issuer (hissuer : claims.issuer = t.issuer)
    (hexpiry : 0 ≤ claims.expiresAt.toInt) (hnow : now.toInt + 60 < 2 ^ 63) :
    t.check claims now =
      if now.toInt < claims.issuedAt.toInt - 60 then .error (.notYetValid claims.issuedAt now)
      else if claims.expiresAt.toInt < now.toInt then .error (.expired claims.expiresAt now)
      else .ok claims := by
  have hsigned : ¬ claims.expiresAt < 0 := by
    rw [Int64.not_lt, Int64.le_iff_toInt_le]
    exact hexpiry
  have hearly : now.toInt + 60 < claims.issuedAt.toInt ↔
      now.toInt < claims.issuedAt.toInt - 60 := by omega
  rw [check_eq, if_neg hsigned, if_neg (not_not_intro hissuer), if_neg (Int.not_le.mpr hnow)]
  simp only [hearly, Int64.lt_iff_toInt_lt]

/-- A token verifies exactly in its window. Whoever has the secret and the name of its issuer
reads it back as the claims that it was issued with, from a minute before its issue to the end
of its time to live, and refuses it as not yet valid before that and as expired after it. -/
theorem verifies_exactly_in_window (secret : Bytes) (issuer : String) (ttl ttl' : Nat)
    (device : Device) (id : Uuid) (issuedAt now : Int64)
    (hsecret : 32 ≤ secret.length) (hlow : 0 ≤ issuedAt.toInt + lifetime ttl)
    (hhigh : issuedAt.toInt + lifetime ttl < 2 ^ 63) (hnow : now.toInt + 60 < 2 ^ 63) :
    ∃ signer verifier, ofNanoseconds secret issuer ttl = .ok signer ∧
      ofNanoseconds secret issuer ttl' = .ok verifier ∧
      ∃ token issued, signer.issue device issuedAt id = .ok (token, issued) ∧
      (∀ claims, verifier.verify token now = .ok claims ↔ claims = issued ∧
        issuedAt.toInt - 60 ≤ now.toInt ∧ now.toInt ≤ issuedAt.toInt + lifetime ttl) ∧
      (now.toInt < issuedAt.toInt - 60 →
        verifier.verify token now = .error (.notYetValid issuedAt now)) ∧
      (issuedAt.toInt + lifetime ttl < now.toInt →
        verifier.verify token now = .error (.expired issued.expiresAt now)) := by
  let signer : TokenIssuer := ⟨secret, hsecret, issuer, lifetime ttl⟩
  let verifier : TokenIssuer := ⟨secret, hsecret, issuer, lifetime ttl'⟩
  let issued := signer.claimsFor device issuedAt id
  refine ⟨signer, verifier, dif_pos hsecret, dif_pos hsecret, _, issued,
    issue_ok_iff.mpr ⟨hhigh, rfl⟩, ?_⟩
  have hsame : signer.secret = verifier.secret := rfl
  have hexpiresAt : issued.expiresAt.toInt = issuedAt.toInt + lifetime ttl :=
    toInt_expiresAt device id (lifetime_le ttl) hhigh
  rw [← hexpiresAt] at hlow
  -- The verifier knows the secret and the issuer, so that only the time is left to check.
  have hverify : verifier.verify (signer.tokenFor device issuedAt id) now =
      if now.toInt < issuedAt.toInt - 60 then .error (.notYetValid issuedAt now)
      else if issuedAt.toInt + lifetime ttl < now.toInt then
        .error (.expired issued.expiresAt now)
      else .ok issued := by
    rw [verify_tokenFor device id hsame, check_eq_of_issuer rfl hlow hnow, ← hexpiresAt]
    rfl
  refine ⟨fun claims => ?_, fun hearly => ?_, fun hlate => ?_⟩ <;> rw [hverify]
  · rw [Checks.error_if_eq_ok, Checks.error_if_eq_ok, Except.ok.injEq, Int.not_lt, Int.not_lt]
    constructor
    · rintro ⟨hissued, hexpired, rfl⟩
      exact ⟨rfl, hissued, hexpired⟩
    · rintro ⟨rfl, hissued, hexpired⟩
      exact ⟨hissued, hexpired, rfl⟩
  · exact if_pos hearly
  · rw [if_neg (by omega), if_pos hlate]

/-- A token with ten and a half seconds to live, of a device whose service has a name that is
written with escapes: it verifies in its tenth second and not in its eleventh. -/
theorem verifies_exactly_in_window_of_fraction :
    let secret : Bytes := List.replicate 32 7
    let device : Device :=
      ⟨⟨"tablet", by decide, by decide⟩, ⟨List.replicate 16 7, by decide⟩, .commonName "tablet",
        ["\"\\\n"]⟩
    let id : Uuid := ⟨Octets.zero 16⟩
    let issuedAt : Int64 := 1000
    let ttl : Nat := 10500000000
    (32 ≤ secret.length ∧ 0 ≤ issuedAt.toInt + lifetime ttl ∧
      issuedAt.toInt + lifetime ttl < 2 ^ 63 ∧ (1010 : Int64).toInt + 60 < 2 ^ 63 ∧
      (1011 : Int64).toInt + 60 < 2 ^ 63) ∧
    ∃ signer verifier, ofNanoseconds secret "controller" ttl = .ok signer ∧
      ofNanoseconds secret "controller" 0 = .ok verifier ∧
      ∃ token issued, signer.issue device issuedAt id = .ok (token, issued) ∧
      verifier.verify token 1010 = .ok issued ∧
      verifier.verify token 1011 = .error (.expired issued.expiresAt 1011) := by
  intro secret device id issuedAt ttl
  have hsecret : 32 ≤ secret.length := by decide
  have hlow : 0 ≤ issuedAt.toInt + lifetime ttl := by decide
  have hhigh : issuedAt.toInt + lifetime ttl < 2 ^ 63 := by decide
  obtain ⟨signer, verifier, hsigner, hverifier, token, issued, hissue, hwindow, -, -⟩ :=
    verifies_exactly_in_window secret "controller" ttl 0 device id issuedAt 1010 hsecret hlow hhigh
      (by decide)
  obtain ⟨signer', verifier', hsigner', hverifier', token', issued', hissue', -, -, hlate⟩ :=
    verifies_exactly_in_window secret "controller" ttl 0 device id issuedAt 1011 hsecret hlow hhigh
      (by decide)
  obtain rfl := Except.ok.inj (hsigner.symm.trans hsigner')
  obtain rfl := Except.ok.inj (hverifier.symm.trans hverifier')
  cases hissue.symm.trans hissue'
  exact ⟨⟨hsecret, hlow, hhigh, by decide, by decide⟩, signer, verifier, hsigner, hverifier, token,
    issued, hissue, (hwindow _).mpr ⟨rfl, by decide, by decide⟩, hlate (by decide)⟩

end Perimeter.TokenIssuer
