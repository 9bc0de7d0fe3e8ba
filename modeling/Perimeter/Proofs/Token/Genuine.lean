import Perimeter.Proofs.Token.Claims
import Perimeter.Proofs.Token.Compact

/-!
# `Perimeter.Proofs.Token.Genuine`: which tokens are accepted

A token is accepted if it is what the secret makes of a header and claims, the header names the
algorithm of the secret, and the claims are of this issuer and of this time
(`accepts_exactly_genuine`). No other text is accepted: there is one way to write what is
signed, and one signature for it. So an accepted token has its two dots and no more
(`count_dot_compact`), and it is refused with any other signature
(`Vouches.not_of_signature_ne`).

In the last minute that a machine can count no token is accepted. A genuine one makes the
verification break down there (`breaks_down_of_last_minute`).
-/

set_option autoImplicit false

namespace Perimeter.TokenIssuer

open Token

variable {t : TokenIssuer} {token token' : String} {claims : Claims} {now : Int64}

/-- A token is what the secret makes of a header and claims, octet for octet. The header names the
algorithm of the secret, the object of the claims tells them, and they are of this issuer. -/
def Genuine (t : TokenIssuer) (token : String) (claims : Claims) : Prop :=
  ∃ header payload, Text.utf8 token = compact t.secret header payload ∧
    Header.read? header = some .hs256 ∧
    (∃ v members, Json.parse payload = some v ∧ v.members? = some members ∧
      claims.Told members) ∧
    0 ≤ claims.expiresAt ∧ claims.issuer = t.issuer

/-- The secret vouches for a genuine token, and its claims are of this issuer. -/
theorem genuine_iff :
    t.Genuine token claims ↔
      t.Vouches token claims ∧ 0 ≤ claims.expiresAt ∧ claims.issuer = t.issuer := by
  rw [Genuine, vouches_iff_compact]
  constructor
  · rintro ⟨header, payload, htoken, hheader, hpayload, hchecks⟩
    exact ⟨⟨header, payload, htoken, hheader, Claims.read?_eq_some_iff.mpr hpayload⟩, hchecks⟩
  · rintro ⟨⟨header, payload, htoken, hheader, hpayload⟩, hchecks⟩
    exact ⟨header, payload, htoken, hheader, Claims.read?_eq_some_iff.mp hpayload, hchecks⟩

/-- Whoever has the secret and the name of an issuer signs genuine tokens. -/
theorem genuine_sign (hexpiry : 0 ≤ claims.expiresAt) (hissuer : claims.issuer = t.issuer) :
    t.Genuine (t.sign claims) claims :=
  ⟨Header.issued, claims.write, utf8_ofAscii_compact, by decide +kernel,
    ⟨_, _, claims.parse_write, Json.members?_escaped _, claims.told_members⟩, hexpiry, hissuer⟩

/-- A verification breaks down over a genuine token in the last minute that a machine can count, and
over nothing else. -/
theorem breaksDown_iff :
    t.verify token now = .error .outOfRange ↔
      (∃ claims, t.Genuine token claims) ∧ 2 ^ 63 ≤ now.toInt + 60 := by
  simp only [verify_outOfRange_iff, genuine_iff, check_outOfRange_iff]
  constructor
  · rintro ⟨claims, hvouches, hexpiry, hissuer, hover⟩
    exact ⟨⟨claims, hvouches, hexpiry, hissuer⟩, hover⟩
  · rintro ⟨⟨claims, hvouches, hexpiry, hissuer⟩, hover⟩
    exact ⟨claims, hvouches, hexpiry, hissuer, hover⟩

/-- A token has two dots. -/
theorem count_dot_compact (secret header payload : Bytes) :
    (compact secret header payload).count dot = 2 := by
  have hnone : ∀ bs : Bytes, (Base64Url.encode bs).count dot = 0 :=
    fun bs => List.count_eq_zero.mpr (dot_not_mem_encode bs)
  rw [compact, message, signature, List.count_append, List.count_append, List.count_cons_self,
    List.count_cons_self, hnone, hnone, hnone]

/-- What the secret vouches for is cut at its last dot into what is signed, which holds the
other dot, and the signature of that. -/
theorem Vouches.eq_signature {signed given : Bytes} (h : t.Vouches token claims)
    (htoken : Text.utf8 token = signed ++ dot :: given) (hgiven : dot ∉ given) :
    dot ∈ signed ∧ given = signature t.secret signed := by
  obtain ⟨header, payload, hcompact, -, -⟩ := vouches_iff_compact.mp h
  have hcut : splitLast? (Text.utf8 token) = some (signed, given) :=
    htoken ▸ splitLast?_append hgiven
  rw [hcompact, compact, splitLast?_append (dot_not_mem_signature _ _)] at hcut
  cases hcut
  exact ⟨List.mem_append_right _ List.mem_cons_self, rfl⟩

/-- What the secret vouches for has two dots, so that none is left over for the signature. -/
theorem Vouches.dot_not_mem {signed given : Bytes} (h : t.Vouches token claims)
    (htoken : Text.utf8 token = signed ++ dot :: given) (hsigned : dot ∈ signed) :
    dot ∉ given := by
  obtain ⟨header, payload, hcompact, -, -⟩ := vouches_iff_compact.mp h
  have hcount := count_dot_compact t.secret header payload
  rw [← hcompact, htoken, List.count_append, List.count_cons_self] at hcount
  have hpositive := List.count_pos_iff.mpr hsigned
  exact List.count_eq_zero.mp (by omega)

/-- What the secret vouches for has no other signature that it vouches for as well. -/
theorem Vouches.not_of_signature_ne {signed given given' : Bytes} {claims' : Claims}
    (h : t.Vouches token claims) (htoken : Text.utf8 token = signed ++ dot :: given)
    (hgiven : dot ∉ given) (htoken' : Text.utf8 token' = signed ++ dot :: given')
    (hne : given' ≠ given) : ¬ t.Vouches token' claims' := by
  intro h'
  obtain ⟨hsigned, heq⟩ := h.eq_signature htoken hgiven
  -- A dot in the other signature would be the third, so that both are cut at the same place.
  have hgiven' := h'.dot_not_mem htoken' hsigned
  obtain ⟨-, heq'⟩ := h'.eq_signature htoken' hgiven'
  exact hne (heq'.trans heq.symm)

/-- A token is accepted exactly if it is genuine and of this time, which must not be the last
minute that a machine can count: in that minute no token is accepted, and a genuine one makes the
verification break down. An accepted token has two dots, and with any other signature it is refused
at all times. -/
theorem accepts_exactly_genuine (t : TokenIssuer) (token : String) (now : Int64)
    (claims : Claims) :
    (t.verify token now = .ok claims ↔
      t.Genuine token claims ∧ now.toInt + 60 < 2 ^ 63 ∧
        claims.issuedAt.toInt ≤ now.toInt + 60 ∧ now ≤ claims.expiresAt) ∧
    (t.verify token now = .error .outOfRange ↔
      (∃ claims', t.Genuine token claims') ∧ 2 ^ 63 ≤ now.toInt + 60) ∧
    (t.verify token now = .ok claims →
      (Text.utf8 token).count dot = 2 ∧
      ∀ signed given, Text.utf8 token = signed ++ dot :: given → dot ∉ given →
        ∀ token' given', Text.utf8 token' = signed ++ dot :: given' → given' ≠ given →
          ∀ now' claims', t.verify token' now' ≠ .ok claims') := by
  refine ⟨?_, breaksDown_iff, fun h => ⟨?_, ?_⟩⟩
  · rw [verify_ok_iff, genuine_iff, check_ok_iff]
    constructor
    · rintro ⟨hvouches, -, hexpiry, hissuer, htime⟩
      exact ⟨⟨hvouches, hexpiry, hissuer⟩, htime⟩
    · rintro ⟨⟨hvouches, hexpiry, hissuer⟩, htime⟩
      exact ⟨hvouches, rfl, hexpiry, hissuer, htime⟩
  · obtain ⟨header, payload, htoken, -, -⟩ := vouches_iff_compact.mp (verify_ok_iff.mp h).1
    rw [htoken, count_dot_compact]
  · intro signed given htoken hgiven token' given' htoken' hne now' claims' h'
    exact (verify_ok_iff.mp h).1.not_of_signature_ne htoken hgiven htoken' hne
      (verify_ok_iff.mp h').1

/-- A token that was just issued: it is accepted, has two dots, and is refused when padding
follows its signature. -/
theorem accepts_exactly_genuine_of_issued :
    let t : TokenIssuer := ⟨List.replicate 32 7, by decide, "controller", 120⟩
    let claims : Claims := ⟨"controller", "tablet", 1000, 1120, ["ssh"], ⟨Octets.zero 16⟩⟩
    let token := t.sign claims
    t.verify token 1000 = .ok claims ∧ (Text.utf8 token).count dot = 2 ∧
      ∀ token', Text.utf8 token' = Text.utf8 token ++ [0x3D] →
        ∀ now' claims', t.verify token' now' ≠ .ok claims' := by
  intro t claims token
  obtain ⟨hiff, -, hshape⟩ := accepts_exactly_genuine t token 1000 claims
  have hok : t.verify token 1000 = .ok claims :=
    hiff.mpr ⟨genuine_sign (by decide) rfl, by decide, by decide, by decide⟩
  obtain ⟨hcount, hrefused⟩ := hshape hok
  refine ⟨hok, hcount, fun token' htoken' => ?_⟩
  let signed := message (Base64Url.encode Header.issued) (Base64Url.encode claims.write)
  have htoken : Text.utf8 token = signed ++ dot :: signature t.secret signed := utf8_ofAscii_compact
  refine hrefused signed _ htoken (dot_not_mem_signature _ _) token'
    (signature t.secret signed ++ [0x3D]) ?_ ?_
  · rw [htoken', htoken, List.append_assoc]
    rfl
  · intro heq
    simpa using congrArg List.length heq

/-- Eleven seconds before the end of the machine's time, and a token that is issued then for ten
seconds: it is genuine and of this time, and it is not accepted. Its verification breaks down,
because a minute later is no time that the machine can count. -/
theorem breaks_down_of_last_minute :
    let t : TokenIssuer := ⟨List.replicate 32 0x42, by decide, "sdp-controller", 10⟩
    let now : Int64 := 9223372036854775797
    let claims : Claims :=
      ⟨"sdp-controller", "dev-1", now, 9223372036854775807, ["ssh"], ⟨Octets.zero 16⟩⟩
    t.Genuine (t.sign claims) claims ∧ claims.issuedAt.toInt ≤ now.toInt + 60 ∧
      now ≤ claims.expiresAt ∧ (∀ claims', t.verify (t.sign claims) now ≠ .ok claims') ∧
      t.verify (t.sign claims) now = .error .outOfRange ∧
      Error.outOfRange.message? = none := by
  intro t now claims
  have hgenuine : t.Genuine (t.sign claims) claims := genuine_sign (by decide) rfl
  have hbreaks : t.verify (t.sign claims) now = .error .outOfRange := by
    obtain ⟨hvouches, hexpiry, hissuer⟩ := genuine_iff.mp hgenuine
    rw [verify_of_vouches hvouches, check_outOfRange_iff]
    exact ⟨hexpiry, hissuer, by decide⟩
  refine ⟨hgenuine, by decide, by decide, fun claims' h => ?_, hbreaks, rfl⟩
  cases hbreaks.symm.trans h

end Perimeter.TokenIssuer
