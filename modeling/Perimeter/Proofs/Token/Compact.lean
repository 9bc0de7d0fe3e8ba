import Perimeter.Proofs.Token.Verify

/-!
# `Perimeter.Proofs.Token.Compact`: the three parts of a token

A token is cut at its last two dots, and its parts are letters, among which there is no dot.
So a token that `compact` puts together is cut into the parts that it was made of
(`ofBytes?_compact`), and since letters spell octets in one way, whatever a secret vouches for
has been put together like that (`vouches_iff_compact`).

* `verify_sign`: a token that was signed is as good as its claims.
-/

set_option autoImplicit false

namespace Perimeter

namespace Token

/-! ### Dots -/

theorem not_mem_of_splitLast? {bs : Bytes} (h : splitLast? bs = none) : dot ∉ bs := by
  induction bs with
  | nil => exact List.not_mem_nil
  | cons b rest ih =>
    rw [splitLast?] at h
    cases hrest : splitLast? rest with
    | some parts =>
      rw [hrest] at h
      cases h
    | none =>
      rw [hrest] at h
      have hb : b ≠ dot := fun hb => by simp [hb] at h
      intro hmem
      rcases List.mem_cons.mp hmem with hdot | hmem
      · exact hb hdot.symm
      · exact ih hrest hmem

/-- A text is cut at its last dot. -/
theorem splitLast?_eq_some_iff {bs before after : Bytes} :
    splitLast? bs = some (before, after) ↔ bs = before ++ dot :: after ∧ dot ∉ after := by
  refine ⟨fun h => ?_, fun ⟨heq, hdot⟩ => heq ▸ splitLast?_append hdot⟩
  induction bs generalizing before with
  | nil => cases h
  | cons b rest ih =>
    rw [splitLast?] at h
    cases hrest : splitLast? rest with
    | some parts =>
      -- The last dot is in the rest.
      rw [hrest] at h
      cases h
      obtain ⟨heq, hdot⟩ := ih hrest
      exact ⟨congrArg (b :: ·) heq, hdot⟩
    | none =>
      -- The rest has no dot, so that this octet is the last or there is none.
      rw [hrest] at h
      by_cases hb : b = dot
      · rw [if_pos hb] at h
        cases h
        exact ⟨congrArg (· :: after) hb, not_mem_of_splitLast? hrest⟩
      · rw [if_neg hb] at h
        cases h

/-- A token is cut at its last two dots. -/
theorem ofBytes?_eq_some_iff {token : Bytes} {parts : Parts} :
    Parts.ofBytes? token = some parts ↔
      token = message parts.header parts.payload ++ dot :: parts.signature ∧
        dot ∉ parts.payload ∧ dot ∉ parts.signature := by
  simp only [Parts.ofBytes?, Option.bind_eq_bind, Option.bind_eq_some_iff, Option.pure_def,
    Option.some.injEq, Prod.exists, splitLast?_eq_some_iff]
  constructor
  · rintro ⟨_, signature, ⟨rfl, hsignature⟩, header, payload, ⟨rfl, hpayload⟩, rfl⟩
    exact ⟨rfl, hpayload, hsignature⟩
  · rintro ⟨rfl, hpayload, hsignature⟩
    exact ⟨_, _, ⟨rfl, hsignature⟩, _, _, ⟨rfl, hpayload⟩, rfl⟩

/-! ### Letters -/

private theorem letter_spec : ∀ b : UInt8, (Base64Url.value? b).isSome → b ≠ dot ∧ b < 128 :=
  forall_octet (by decide +kernel)

theorem dot_not_mem_encode (bs : Bytes) : dot ∉ Base64Url.encode bs := by
  intro hdot
  exact (letter_spec dot (Base64Url.isSome_value?_of_mem_encode hdot)).1 rfl

theorem dot_not_mem_signature (secret message : Bytes) : dot ∉ signature secret message :=
  dot_not_mem_encode _

theorem isAscii_encode (bs : Bytes) : Text.isAscii (Base64Url.encode bs) := by
  rw [Text.isAscii, List.all_eq_true]
  intro b hb
  exact decide_eq_true (letter_spec b (Base64Url.isSome_value?_of_mem_encode hb)).2

variable {secret header payload : Bytes}

private theorem isAscii_join {front back : Bytes} (hfront : Text.isAscii front)
    (hback : Text.isAscii back) : Text.isAscii (front ++ dot :: back) := by
  simp only [Text.isAscii, List.all_append, List.all_cons] at *
  rw [hfront, hback]
  rfl

theorem isAscii_compact : Text.isAscii (compact secret header payload) :=
  isAscii_join (isAscii_join (isAscii_encode header) (isAscii_encode payload)) (isAscii_encode _)

theorem length_signature (secret message : Bytes) : (signature secret message).length = 43 := by
  rw [signature, Base64Url.length_encode, (Hmac.tag secret message).length_eq]

/-- A token is as long as its header and its claims make it. -/
theorem length_compact :
    (compact secret header payload).length =
      (4 * header.length + 2) / 3 + (4 * payload.length + 2) / 3 + 45 := by
  simp only [compact, message, List.length_append, List.length_cons, Base64Url.length_encode,
    length_signature]
  omega

/-- A token is text. -/
theorem utf8_ofAscii_compact :
    Text.utf8 (Text.ofAscii (compact secret header payload)) = compact secret header payload :=
  Text.utf8_ofAscii isAscii_compact

/-- A token is cut into the parts that it was made of. -/
theorem ofBytes?_compact :
    Parts.ofBytes? (compact secret header payload) =
      some ⟨Base64Url.encode header, Base64Url.encode payload,
        signature secret (message (Base64Url.encode header) (Base64Url.encode payload))⟩ :=
  ofBytes?_eq_some_iff.mpr ⟨rfl, dot_not_mem_encode _, dot_not_mem_signature _ _⟩

end Token

namespace TokenIssuer

open Token

variable {t : TokenIssuer} {token : String} {claims : Claims}

theorem readPart_encode {α : Type} {read? : Bytes → Option α} {octets : Bytes} {a : α}
    (h : read? octets = some a) : readPart read? (Base64Url.encode octets) = .ok a := by
  simp only [readPart, Base64Url.decode_encode, h]

/-- What is read in a part is spelled by it, and the part is how it is spelled. -/
theorem readPart_ok_iff {α : Type} {read? : Bytes → Option α} {part : Bytes} {a : α} :
    readPart read? part = .ok a ↔
      ∃ octets, part = Base64Url.encode octets ∧ read? octets = some a := by
  refine ⟨fun h => ?_, fun ⟨octets, heq, hread⟩ => heq ▸ readPart_encode hread⟩
  unfold readPart at h
  cases hdecode : Base64Url.decode part with
  | none =>
    rw [hdecode] at h
    cases h
  | some octets =>
    rw [hdecode] at h
    cases hread : read? octets with
    | none => simp [hread] at h
    | some read =>
      simp only [hread, Except.ok.injEq] at h
      exact ⟨octets, (Base64Url.encode_of_decode hdecode).symm, h ▸ hread⟩

/-- The secret vouches for what has been put together with it, and for nothing else. -/
theorem vouches_iff_compact :
    t.Vouches token claims ↔ ∃ header payload,
      Text.utf8 token = compact t.secret header payload ∧
        Header.read? header = some .hs256 ∧ Claims.read? payload = some claims := by
  constructor
  · rintro ⟨parts, hparts, hheader, hsignature, hpayload⟩
    obtain ⟨htoken, -, -⟩ := ofBytes?_eq_some_iff.mp hparts
    -- The parts were read, so that they are how their octets are spelled.
    obtain ⟨header, hheaderEq, hheaderRead⟩ := readPart_ok_iff.mp hheader
    obtain ⟨payload, hpayloadEq, hpayloadRead⟩ := readPart_ok_iff.mp hpayload
    refine ⟨header, payload, ?_, hheaderRead, hpayloadRead⟩
    rw [htoken, hsignature, hheaderEq, hpayloadEq]
    rfl
  · rintro ⟨header, payload, htoken, hheader, hpayload⟩
    exact ⟨_, htoken ▸ ofBytes?_compact, readPart_encode hheader, rfl, readPart_encode hpayload⟩

/-- A token that has been signed is as good as its claims, to whoever has the secret. -/
theorem verify_sign {signer : TokenIssuer} {now : Int64} (hsecret : signer.secret = t.secret)
    (hread : Claims.read? claims.write = some claims) :
    t.verify (signer.sign claims) now = t.check claims now := by
  refine verify_of_vouches (vouches_iff_compact.mpr ⟨Header.issued, claims.write, ?_, ?_, hread⟩)
  · rw [sign, utf8_ofAscii_compact, hsecret]
  · decide +kernel

end TokenIssuer

end Perimeter
