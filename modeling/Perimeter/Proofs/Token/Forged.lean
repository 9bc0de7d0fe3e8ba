import Perimeter.Proofs.Token.Compact

/-!
# `Perimeter.Proofs.Token.Forged`: what a forged token is told

A token is forged if its last part is not the signature that the secret makes of the first two.
The signature is compared before the claims are looked at, so all that is left to decide about a
forgery is its header: `forgedVerdict` is what becomes of it, by the header alone.

* `verify_of_forged`: a forgery is refused with the verdict on its header, whatever its claims
  are and whatever time it is.
* `signed_or_forged`: a token is signed, or a forgery, or not in three parts.
* `signed_of_claims_error`, `signed_of_malformed_claims`: what a verdict says about claims, it
  says of a signed token.
-/

set_option autoImplicit false

namespace Perimeter.TokenIssuer

open Token

variable {t : TokenIssuer} {token : String} {header : Bytes} {now : Int64}

/-- A token with the header given, two dots in the right places, and another signature than the
secret's. -/
def Forged (t : TokenIssuer) (header : Bytes) (token : String) : Prop :=
  ∃ payload given, Text.utf8 token = message header payload ++ dot :: given ∧
    dot ∉ payload ∧ dot ∉ given ∧ given ≠ signature t.secret (message header payload)

/-- A token with the signature that the secret makes of its first two parts. -/
def Signed (t : TokenIssuer) (token : String) : Prop :=
  ∃ header payload, Text.utf8 token =
    message header payload ++ dot :: signature t.secret (message header payload)

/-- What becomes of a forgery with a header. -/
def forgedVerdict (header : Bytes) : Error :=
  match readPart Header.read? header with
  | .error fault => fault
  | .ok algorithm =>
    if algorithm = .hs256 then .badSignature else .unsupportedAlgorithm algorithm

/-- A part of a token that cannot be read is malformed. -/
theorem malformed_of_readPart {α : Type} {read? : Bytes → Option α} {part : Bytes}
    {fault : Error} (h : readPart read? part = .error fault) :
    fault = .malformed .base64 ∨ fault = .malformed .json := by
  unfold readPart at h
  split at h
  · cases h
    exact .inl rfl
  · split at h
    · cases h
      exact .inr rfl
    · cases h

/-- A forgery is malformed, or for another algorithm, or bears a bad signature. -/
theorem forgedVerdict_cases (header : Bytes) :
    (readPart Header.read? header = .error (forgedVerdict header) ∧
      (forgedVerdict header = .malformed .base64 ∨ forgedVerdict header = .malformed .json)) ∨
    (∃ algorithm, readPart Header.read? header = .ok algorithm ∧ algorithm ≠ .hs256 ∧
      forgedVerdict header = .unsupportedAlgorithm algorithm) ∨
    readPart Header.read? header = .ok .hs256 ∧ forgedVerdict header = .badSignature := by
  unfold forgedVerdict
  cases hread : readPart Header.read? header with
  | error fault => exact .inl ⟨rfl, malformed_of_readPart hread⟩
  | ok algorithm =>
    by_cases halgorithm : algorithm = .hs256
    · exact .inr (.inr ⟨congrArg _ halgorithm, if_pos halgorithm⟩)
    · exact .inr (.inl ⟨algorithm, rfl, halgorithm, if_neg halgorithm⟩)

/-- A forgery is refused with the verdict on its header. -/
theorem verify_of_forged (h : t.Forged header token) (now : Int64) :
    t.verify token now = .error (forgedVerdict header) := by
  obtain ⟨payload, given, htoken, hpayload, hgiven, hne⟩ := h
  have hparts : Parts.ofBytes? (Text.utf8 token) = some ⟨header, payload, given⟩ :=
    ofBytes?_eq_some_iff.mpr ⟨htoken, hpayload, hgiven⟩
  simp only [verify, hparts]
  rcases forgedVerdict_cases header with
    ⟨hread, -⟩ | ⟨algorithm, hread, hother, hverdict⟩ | ⟨hread, hverdict⟩
  · rw [hread]
    rfl
  · rw [hread, hverdict, Checks.ok_bind, if_pos hother]
    rfl
  · rw [hread, hverdict, Checks.ok_bind, if_neg (not_not.mpr rfl)]
    simp only [if_pos hne]
    rfl

/-- A token in three parts is signed or a forgery. -/
theorem signed_or_forged_of_parts {parts : Parts}
    (hparts : Parts.ofBytes? (Text.utf8 token) = some parts) :
    t.Signed token ∨ t.Forged parts.header token := by
  obtain ⟨htoken, hpayload, hgiven⟩ := ofBytes?_eq_some_iff.mp hparts
  by_cases hsigned : parts.signature = signature t.secret (message parts.header parts.payload)
  · exact .inl ⟨parts.header, parts.payload, hsigned ▸ htoken⟩
  · exact .inr ⟨parts.payload, parts.signature, htoken, hpayload, hgiven, hsigned⟩

/-- A token is signed, or has not three parts, or is a forgery. -/
theorem signed_or_forged (t : TokenIssuer) (token : String) :
    t.Signed token ∨ (∀ now, t.verify token now = .error (.malformed .notThreeParts)) ∨
      ∃ header, t.Forged header token := by
  cases hparts : Parts.ofBytes? (Text.utf8 token) with
  | none =>
    refine .inr (.inl fun now => ?_)
    simp only [verify, hparts]
  | some parts =>
    rcases signed_or_forged_of_parts hparts with hsigned | hforged
    · exact .inl hsigned
    · exact .inr (.inr ⟨parts.header, hforged⟩)

/-- The errors that say something about the claims of a token. A part that cannot be read may
also be the header. -/
def OfClaims : Error → Prop
  | .wrongIssuer _ | .expired .. | .notYetValid .. | .outOfRange | .malformed .missingExpiry => True
  | _ => False

/-- An error of the claims comes with a signature. -/
theorem signed_of_claims_error {reason : Error} (h : t.verify token now = .error reason)
    (hclaims : OfClaims reason) : t.Signed token := by
  rcases t.signed_or_forged token with hsigned | hparts | ⟨header, hforged⟩
  · exact hsigned
  · cases h.symm.trans (hparts now)
    exact hclaims.elim
  · cases h.symm.trans (verify_of_forged hforged now)
    rcases forgedVerdict_cases header with
      ⟨-, hverdict | hverdict⟩ | ⟨algorithm, -, -, hverdict⟩ | ⟨-, hverdict⟩ <;>
    · rw [hverdict] at hclaims
      exact hclaims.elim

/-- A token with a header that can be read has a part that cannot be read only with a
signature. -/
theorem signed_of_malformed_claims {parts : Parts} {algorithm : Algorithm} {cause : Malformation}
    (hparts : Parts.ofBytes? (Text.utf8 token) = some parts)
    (hheader : readPart Header.read? parts.header = .ok algorithm)
    (h : t.verify token now = .error (.malformed cause)) : t.Signed token := by
  rcases signed_or_forged_of_parts hparts with hsigned | hforged
  · exact hsigned
  · have hverdict := h.symm.trans (verify_of_forged hforged now)
    rcases forgedVerdict_cases parts.header with
      ⟨hunread, -⟩ | ⟨other, -, -, hother⟩ | ⟨-, hbad⟩
    · cases hheader.symm.trans hunread
    · rw [hother] at hverdict
      cases hverdict
    · rw [hbad] at hverdict
      cases hverdict

end Perimeter.TokenIssuer
