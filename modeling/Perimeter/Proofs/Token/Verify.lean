import Perimeter.Proofs.Checks
import Perimeter.Token

/-!
# `Perimeter.Proofs.Token.Verify`: which tokens verify

A token verifies if it reads as one that the secret vouches for and its claims stand the
check against the issuer and the time. Only the check looks at the time
(`verify_ok_iff`), so a token has the same claims whenever it verifies
(`claims_eq_of_verify`).

The check adds a minute to the time. In the last minute that a machine can count the sum is out
of range, and then a token that has come so far makes the verification break down
(`verify_outOfRange_iff`).
-/

set_option autoImplicit false

namespace Perimeter.TokenIssuer

open Token

variable {t : TokenIssuer} {token : String} {claims claims' : Claims} {now now' : Int64}

theorem toInt_leeway : leeway.toInt = 60 := by decide

/-- The check of the time adds machine words, which is right as long as the sum fits. -/
theorem toInt_add_leeway (h : now.toInt + 60 < 2 ^ 63) :
    (now + leeway).toInt = now.toInt + 60 := by
  have hnow := now.le_toInt
  rw [Int64.toInt_add, toInt_leeway]
  exact Int.bmod_eq_of_le (by omega) (by omega)

/-- The check of claims by the numbers that its words stand for. -/
theorem check_eq (t : TokenIssuer) (claims : Claims) (now : Int64) :
    t.check claims now =
      if claims.expiresAt < 0 then .error (.malformed .missingExpiry)
      else if claims.issuer ≠ t.issuer then .error (.wrongIssuer t.issuer)
      else if 2 ^ 63 ≤ now.toInt + 60 then .error .outOfRange
      else if now.toInt + 60 < claims.issuedAt.toInt then .error (.notYetValid claims.issuedAt now)
      else if claims.expiresAt < now then .error (.expired claims.expiresAt now)
      else .ok claims := by
  rw [check, toInt_leeway]
  by_cases hfits : now.toInt + 60 < 2 ^ 63
  · simp only [Int64.lt_iff_toInt_lt (x := now + leeway), toInt_add_leeway hfits]
  · simp only [Int.not_lt.mp hfits, if_true]

/-- What claims must say to stand the check, which gives them back. -/
theorem check_ok_iff :
    t.check claims now = .ok claims' ↔
      claims' = claims ∧ 0 ≤ claims.expiresAt ∧ claims.issuer = t.issuer ∧
        now.toInt + 60 < 2 ^ 63 ∧ claims.issuedAt.toInt ≤ now.toInt + 60 ∧
        now ≤ claims.expiresAt := by
  simp only [check_eq, Checks.error_if_eq_ok, Int64.not_lt, not_not, Int.not_le, Int.not_lt,
    Except.ok.injEq]
  constructor
  · rintro ⟨hexpiry, hissuer, hfits, hissued, hexpired, rfl⟩
    exact ⟨rfl, hexpiry, hissuer, hfits, hissued, hexpired⟩
  · rintro ⟨rfl, hexpiry, hissuer, hfits, hissued, hexpired⟩
    exact ⟨hexpiry, hissuer, hfits, hissued, hexpired, rfl⟩

/-- When the check breaks down: the claims are of this issuer, and the sum is out of range. -/
theorem check_outOfRange_iff :
    t.check claims now = .error .outOfRange ↔
      0 ≤ claims.expiresAt ∧ claims.issuer = t.issuer ∧ 2 ^ 63 ≤ now.toInt + 60 := by
  rw [check_eq, ← Int64.not_lt]
  by_cases hexpiry : claims.expiresAt < 0
  · simp [hexpiry]
  · by_cases hissuer : claims.issuer = t.issuer
    · rw [if_neg hexpiry, if_neg (not_not_intro hissuer)]
      by_cases hover : 2 ^ 63 ≤ now.toInt + 60
      · rw [if_pos hover]
        exact iff_of_true rfl ⟨hexpiry, hissuer, hover⟩
      · rw [if_neg hover]
        refine iff_of_false (fun hcheck => ?_) fun h => hover h.2.2
        split at hcheck
        · cases hcheck
        · split at hcheck <;> cases hcheck
    · simp [hexpiry, hissuer]

/-- A token reads as claims that the secret vouches for, whatever they say. -/
def Vouches (t : TokenIssuer) (token : String) (claims : Claims) : Prop :=
  ∃ parts, Parts.ofBytes? (Text.utf8 token) = some parts ∧
    readPart Header.read? parts.header = .ok .hs256 ∧
    parts.signature = signature t.secret (message parts.header parts.payload) ∧
    readPart Claims.read? parts.payload = .ok claims

/-- A token verifies as claims that the secret vouches for and that stand the check. -/
theorem verify_ok_iff :
    t.verify token now = .ok claims ↔
      t.Vouches token claims ∧ t.check claims now = .ok claims := by
  unfold verify Vouches
  cases hparts : Parts.ofBytes? (Text.utf8 token) with
  | none => simp
  | some parts =>
    simp only [Checks.bind_eq_ok, Checks.throw_bind, Checks.error_if_eq_ok, not_not,
      Option.some.injEq, exists_eq_left']
    constructor
    · rintro ⟨algorithm, hheader, rfl, hsignature, read, hread, hcheck⟩
      obtain rfl := (check_ok_iff.mp hcheck).1
      exact ⟨⟨hheader, hsignature, hread⟩, hcheck⟩
    · rintro ⟨⟨hheader, hsignature, hread⟩, hcheck⟩
      exact ⟨_, hheader, rfl, hsignature, _, hread, hcheck⟩

/-- What the secret vouches for is only as good as its claims. -/
theorem verify_of_vouches (h : t.Vouches token claims) :
    t.verify token now = t.check claims now := by
  obtain ⟨parts, hparts, hheader, hsignature, hpayload⟩ := h
  rw [verify, hparts]
  simp only [hheader, hpayload, hsignature]
  simp [bind, Except.bind]

theorem readPart_ne_outOfRange {α : Type} (read? : Bytes → Option α) (part : Bytes) :
    readPart read? part ≠ .error .outOfRange := by
  unfold readPart
  split
  · simp
  · split <;> simp

/-- A verification breaks down only over claims that the secret vouches for. -/
theorem verify_outOfRange_iff :
    t.verify token now = .error .outOfRange ↔
      ∃ claims, t.Vouches token claims ∧ t.check claims now = .error .outOfRange := by
  refine ⟨fun h => ?_, fun ⟨claims, hvouches, hcheck⟩ => verify_of_vouches hvouches ▸ hcheck⟩
  unfold verify at h
  cases hparts : Parts.ofBytes? (Text.utf8 token) with
  | none =>
    rw [hparts] at h
    cases h
  | some parts =>
    -- None of the parts breaks down when it is read, so the check of the claims does.
    simp only [hparts, Checks.bind_eq_error, Checks.throw_bind, Checks.error_if_eq_error,
      readPart_ne_outOfRange, reduceCtorEq, and_false, false_or, not_not] at h
    obtain ⟨algorithm, hheader, rfl, hsignature, claims, hread, hcheck⟩ := h
    exact ⟨claims, ⟨parts, hparts, hheader, hsignature, hread⟩, hcheck⟩

/-- The secret vouches for one reading of a token. -/
theorem Vouches.eq (h : t.Vouches token claims) (h' : t.Vouches token claims') :
    claims = claims' := by
  obtain ⟨parts, hparts, -, -, hread⟩ := h
  obtain ⟨parts', hparts', -, -, hread'⟩ := h'
  rw [hparts] at hparts'
  cases hparts'
  rw [hread] at hread'
  exact Except.ok.inj hread'

/-- A token verifies as the same claims whenever it does. -/
theorem claims_eq_of_verify (h : t.verify token now = .ok claims)
    (h' : t.verify token now' = .ok claims') : claims = claims' :=
  (verify_ok_iff.mp h).1.eq (verify_ok_iff.mp h').1

/-- A token does not verify after its expiry. -/
theorem le_expiresAt_of_verify (h : t.verify token now = .ok claims) :
    now ≤ claims.expiresAt :=
  (check_ok_iff.mp (verify_ok_iff.mp h).2).2.2.2.2.2

end Perimeter.TokenIssuer
