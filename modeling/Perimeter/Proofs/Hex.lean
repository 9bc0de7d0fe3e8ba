import Mathlib
import Perimeter.Proofs.Checks
import Perimeter.Tls.Certificate

/-!
# `Perimeter.Proofs.Hex`: hexadecimal fields say what their digits spell

An entry pins the digest of a certificate and holds a secret, both as a text of hexadecimal
digits. A wrong octet would pin another certificate, so the readers are described from both sides:
a text is read as exactly the octets that its digits spell.

`Spells` has two digits for each octet and either case for each digit. What it says of the octets
of a text it says of its characters, because every digit is ASCII (`decode_utf8_eq_ok_iff`). The
readers clean a text before they read it. A digest may be `Decorated`: a colon may have been put in
at any place, even inside an octet or outside the blanks, and blanks at both ends. Whatever the
order in which that was done, the one filter and the one trim undo it
(`Decorated.trimList_filter`), since a colon is no blank and no digit is either.

* `Hex.decode_utf8_eq_ok_iff`: a text is read as the octets that it spells.
* `Hex.spells_iff_map_toLower`: in lower case, what spells octets is what they are written as.
* `hex_fields_read_as_spelled`: the digest and the secret of an entry.
-/

set_option autoImplicit false

namespace Perimeter

namespace Hex

/-! ### Digits that spell octets -/

/-- A character is the digit of a value, in lower or upper case. -/
def IsDigit (c : Char) (v : Nat) : Prop :=
  v < 16 ∧ (c = Nat.digitChar v ∨ c = (Nat.digitChar v).toUpper)

/-- Characters that spell octets: two digits for each, the high half first, in any mix of cases. -/
inductive Spells : List Char → Bytes → Prop where
  | nil : Spells [] []
  | cons {high low : Char} {octet : UInt8} {digits : List Char} {rest : Bytes}
    (hhigh : IsDigit high (octet.toNat / 16)) (hlow : IsDigit low (octet.toNat % 16))
    (hrest : Spells digits rest) : Spells (high :: low :: digits) (octet :: rest)

variable {c : Char} {v : Nat} {digits digits' : List Char} {bs : Bytes}

/-- What holds of the two digits of every value below sixteen holds of every digit. -/
theorem IsDigit.induction {p : Char → Nat → Prop} (h : IsDigit c v)
    (hlower : ∀ v : Fin 16, p (Nat.digitChar v) v)
    (hupper : ∀ v : Fin 16, p (Nat.digitChar v).toUpper v) : p c v := by
  obtain ⟨hlt, rfl | rfl⟩ := h
  · exact hlower ⟨v, hlt⟩
  · exact hupper ⟨v, hlt⟩

/-- A digit is one octet in a text, and is read as its value. -/
theorem IsDigit.octet (h : IsDigit c v) :
    String.utf8EncodeChar c = [UInt8.ofNat c.toNat] ∧
      digit? (UInt8.ofNat c.toNat) = some (UInt8.ofNat v) :=
  h.induction (p := fun c v => String.utf8EncodeChar c = [UInt8.ofNat c.toNat] ∧
    digit? (UInt8.ofNat c.toNat) = some (UInt8.ofNat v)) (by decide) (by decide)

theorem IsDigit.toLower_eq (h : IsDigit c v) : c.toLower = Nat.digitChar v :=
  h.induction (p := fun c v => c.toLower = Nat.digitChar v) (by decide) (by decide)

/-- Neither blanks nor colons are digits. -/
theorem IsDigit.plain (h : IsDigit c v) : Text.isBlank c = false ∧ c ≠ ':' :=
  h.induction (p := fun c _ => Text.isBlank c = false ∧ c ≠ ':') (by decide) (by decide)

/-- A character that is the digit of a value when it is in lower case. -/
theorem isDigit_of_toLower_eq (hlt : v < 16) (h : c.toLower = Nat.digitChar v) : IsDigit c v := by
  refine ⟨hlt, ?_⟩
  by_cases hupper : c.isUpper
  · have hnot := Char.not_isLower_of_isUpper hupper
    rw [← h, Char.toUpper_toLower_eq_toUpper, Char.toUpper_eq_of_not_isLower hnot]
    exact .inr rfl
  · exact .inl ((Char.toLower_eq_of_not_isUpper hupper).symm.trans h)

instance (c : Char) (v : Nat) : Decidable (IsDigit c v) := inferInstanceAs (Decidable (_ ∧ _))

/-- An octet that is read as a value is a digit of that value. -/
private theorem all_digit? : ∀ b : UInt8,
    (digit? b).all fun v => b < 128 ∧ IsDigit (Char.ofNat b.toNat) v.toNat :=
  forall_octet (by decide +kernel)

/-- The digits of octets that are written are those in lower case. -/
private theorem ofNat_digit : ∀ b : UInt8,
    Char.ofNat (digit (b / 16)).toNat = Nat.digitChar (b.toNat / 16) ∧
      Char.ofNat (digit (b % 16)).toNat = Nat.digitChar (b.toNat % 16) :=
  forall_octet (by decide +kernel)

/-- Two digits for each octet. -/
theorem Spells.length (h : Spells digits bs) : digits.length = 2 * bs.length := by
  induction h with
  | nil => rfl
  | cons hhigh hlow hrest ih =>
    simp only [List.length_cons, ih]
    omega

/-- A spelling holds neither blanks nor colons. -/
theorem Spells.plain (h : Spells digits bs) :
    ∀ c ∈ digits, Text.isBlank c = false ∧ c ≠ ':' := by
  induction h with
  | nil => simp
  | cons hhigh hlow hrest ih =>
    intro c hc
    rcases List.mem_cons.mp hc with rfl | hc
    · exact hhigh.plain
    · rcases List.mem_cons.mp hc with rfl | hc
      · exact hlow.plain
      · exact ih c hc

/-- What octets are written as spells them. -/
theorem spells_encode (bs : Bytes) : Spells (encode bs).toList bs := by
  rw [encode, Text.ofAscii, String.toList_ofList]
  induction bs with
  | nil => exact .nil
  | cons b rest ih =>
    have hb := b.toNat_lt
    obtain ⟨hhigh, hlow⟩ := ofNat_digit b
    exact .cons ⟨by omega, .inl hhigh⟩ ⟨by omega, .inl hlow⟩ ih

/-- The characters that spell octets are those which, in lower case, the octets are written
as. -/
theorem spells_iff_map_toLower :
    Spells digits bs ↔ digits.map Char.toLower = (encode bs).toList := by
  rw [encode, Text.ofAscii, String.toList_ofList]
  constructor
  · intro h
    induction h with
    | nil => rfl
    | @cons high low b digits rest hhigh hlow hrest ih =>
      obtain ⟨hwrittenHigh, hwrittenLow⟩ := ofNat_digit b
      simp only [List.map_cons, encodeBytes, hhigh.toLower_eq, hlow.toLower_eq, ih, hwrittenHigh,
        hwrittenLow]
  -- The octets say how the characters go in pairs.
  · intro h
    induction bs generalizing digits with
    | nil =>
      rw [List.map_eq_nil_iff.mp h]
      exact .nil
    | cons b rest ih =>
      have hb := b.toNat_lt
      obtain ⟨hwrittenHigh, hwrittenLow⟩ := ofNat_digit b
      simp only [encodeBytes, List.map_cons, hwrittenHigh, hwrittenLow] at h
      obtain ⟨high, tail, rfl, hhigh, htail⟩ := List.map_eq_cons_iff.mp h
      obtain ⟨low, digits, rfl, hlow, hdigits⟩ := List.map_eq_cons_iff.mp htail
      exact .cons (isDigit_of_toLower_eq (by omega) hhigh) (isDigit_of_toLower_eq (by omega) hlow)
        (ih hdigits)

/-- A spelling stays one when the case of its letters changes. -/
theorem Spells.map_toUpper (h : Spells digits bs) : Spells (digits.map Char.toUpper) bs := by
  rw [spells_iff_map_toLower] at h ⊢
  rw [← h, List.map_map]
  exact List.map_congr_left fun c _ => Char.toLower_toUpper_eq_toLower c

/-! ### The reader of digits -/

private theorem halves_of_join {high low : UInt8} (hhigh : high.toNat < 16)
    (hlow : low.toNat < 16) :
    (high * 16 + low).toNat / 16 = high.toNat ∧ (high * 16 + low).toNat % 16 = low.toNat := by
  have hvalue : (high * 16 + low).toNat = high.toNat * 16 + low.toNat := by
    simp only [UInt8.toNat_add, UInt8.toNat_mul, UInt8.reduceToNat]
    omega
  rw [hvalue]
  omega

private theorem isDigit_of_digitAt {b value : UInt8} {index : Nat}
    (h : digitAt b index = .ok value) :
    b < 128 ∧ IsDigit (Char.ofNat b.toNat) value.toNat := by
  unfold digitAt at h
  split at h
  case h_1 value' hdigit =>
    cases h
    have hall := all_digit? b
    rw [hdigit, Option.all_some, decide_eq_true_eq] at hall
    exact hall
  case h_2 => cases h

/-- Octets that are read are digits in ASCII, and spell what is read. -/
theorem spells_of_decodePairs {index : Nat} {octets : Bytes}
    (h : decodePairs index octets = .ok bs) :
    Text.isAscii octets ∧ Spells (Text.ofAscii octets).toList bs := by
  rw [Text.ofAscii, String.toList_ofList]
  fun_induction decodePairs index octets generalizing bs with
  | case1 index =>
    cases h
    exact ⟨rfl, .nil⟩
  | case2 index octet => cases h
  | case3 index high low rest ih =>
    obtain ⟨highValue, hhigh, h⟩ := Checks.bind_eq_ok.mp h
    obtain ⟨lowValue, hlow, h⟩ := Checks.bind_eq_ok.mp h
    obtain ⟨bs, hrest, h⟩ := Checks.bind_eq_ok.mp h
    cases h
    obtain ⟨hhighAscii, hhighDigit⟩ := isDigit_of_digitAt hhigh
    obtain ⟨hlowAscii, hlowDigit⟩ := isDigit_of_digitAt hlow
    obtain ⟨hascii, hspells⟩ := ih hrest
    obtain ⟨hquotient, hremainder⟩ := halves_of_join hhighDigit.1 hlowDigit.1
    refine ⟨?_, .cons ?_ ?_ hspells⟩
    · simp only [Text.isAscii, List.all_cons, hhighAscii, hlowAscii, decide_true,
        Bool.true_and] at hascii ⊢
      exact hascii
    · rw [hquotient]
      exact hhighDigit
    · rw [hremainder]
      exact hlowDigit

/-- Characters that spell octets are one octet each, and those octets are read. -/
theorem Spells.decodePairs (h : Spells digits bs) (index : Nat) :
    Hex.decodePairs index (Text.utf8 (String.ofList digits)) = .ok bs := by
  rw [Text.utf8_ofList]
  induction h generalizing index with
  | nil => rfl
  | @cons high low octet digits rest hhigh hlow hrest ih =>
    obtain ⟨hhighOctets, hhighDigit⟩ := hhigh.octet
    obtain ⟨hlowOctets, hlowDigit⟩ := hlow.octet
    have hjoin : UInt8.ofNat (octet.toNat / 16) * 16 + UInt8.ofNat (octet.toNat % 16) = octet := by
      have hoctet := octet.toNat_lt
      apply UInt8.toNat_inj.mp
      simp only [UInt8.toNat_add, UInt8.toNat_mul, UInt8.toNat_ofNat', UInt8.reduceToNat]
      omega
    simp only [List.flatMap_cons, hhighOctets, hlowOctets, List.cons_append, List.nil_append,
      Hex.decodePairs, digitAt, hhighDigit, hlowDigit, Checks.ok_bind, ih, hjoin]
    rfl

/-- A text is read as octets if and only if its characters spell them. -/
theorem decode_utf8_eq_ok_iff {text : String} :
    decode (Text.utf8 text) = .ok bs ↔ Spells text.toList bs := by
  constructor
  · intro h
    obtain ⟨-, h⟩ := Checks.error_if_eq_ok.mp h
    obtain ⟨hascii, hspells⟩ := spells_of_decodePairs h
    have htext : Text.ofAscii (Text.utf8 text) = text :=
      Text.utf8_injective (Text.utf8_ofAscii hascii)
    rwa [htext] at hspells
  · intro h
    have hread : Hex.decodePairs 0 (Text.utf8 text) = .ok bs := by
      simpa only [String.ofList_toList] using h.decodePairs 0
    have hlength := (spells_of_decodePairs hread).2.length
    rw [Text.ofAscii, String.toList_ofList, List.length_map] at hlength
    -- The length is looked at before the digits, and what they spell shows that it is even.
    exact Checks.error_if_eq_ok.mpr ⟨by omega, hread⟩

/-- What another text must look like to spell the same: in lower case the two are one. -/
theorem Spells.iff_map_toLower (h : Spells digits bs) :
    Spells digits' bs ↔ digits'.map Char.toLower = digits.map Char.toLower := by
  rw [spells_iff_map_toLower, spells_iff_map_toLower.mp h]

end Hex

/-! ### Fields of a bounded width -/

theorem Octets.ofBytes?_eq_some_iff {n : Nat} {bs : Bytes} {octets : Octets n} :
    Octets.ofBytes? n bs = some octets ↔ bs = octets.bytes := by
  constructor
  · intro h
    unfold Octets.ofBytes? at h
    split at h
    · cases h
      rfl
    · cases h
  · rintro rfl
    exact Octets.ofBytes?_bytes octets

theorem KnockSecret.ofBytes_eq_ok_iff {bs : Bytes} {secret : KnockSecret} :
    KnockSecret.ofBytes bs = .ok secret ↔ bs = secret.bytes := by
  constructor
  · intro h
    unfold KnockSecret.ofBytes at h
    split at h
    · cases h
      rfl
    · cases h
  · rintro rfl
    exact dif_pos secret.length_ge

/-! ### What stands between and around the digits -/

namespace Text

variable {blank : Char} {cs : List Char}

theorem trimList_cons (h : isBlank blank) : trimList (blank :: cs) = trimList cs := by
  rw [trimList, List.dropWhile_cons_of_pos h]
  rfl

theorem trimList_concat (h : isBlank blank) : trimList (cs ++ [blank]) = trimList cs := by
  rw [trimList, trimList, List.dropWhile_append]
  split
  -- Nothing but blanks: both sides are empty.
  case isTrue hempty =>
    rw [List.isEmpty_iff.mp hempty, List.dropWhile_cons_of_pos h]
    rfl
  case isFalse =>
    rw [List.reverse_append, List.reverse_singleton, List.singleton_append,
      List.dropWhile_cons_of_pos h]

end Text

namespace IdentityBinding

/-- The characters of a text that the reader of a pinned digest goes by. -/
def cleaned (text : String) : List Char := Text.trimList (text.toList.filter (· ≠ ':'))

/-- Characters that were made of others by putting in colons, anywhere, and blanks, at the
ends. -/
inductive Decorated (written : List Char) : List Char → Prop where
  | plain : Decorated written written
  | colon {front back : List Char} (h : Decorated written (front ++ back)) :
    Decorated written (front ++ ':' :: back)
  | before {cs : List Char} {blank : Char} (hblank : Text.isBlank blank)
    (h : Decorated written cs) : Decorated written (blank :: cs)
  | after {cs : List Char} {blank : Char} (hblank : Text.isBlank blank)
    (h : Decorated written cs) : Decorated written (cs ++ [blank])

variable {written cs : List Char} {text text' : String} {binding : IdentityBinding}

private theorem ne_colon_of_isBlank {blank : Char} (h : Text.isBlank blank) : blank ≠ ':' := by
  rintro rfl
  exact absurd h (by decide)

/-- What was put in is dropped again, in whatever order it was put in. -/
theorem Decorated.trimList_filter (h : Decorated written cs)
    (hplain : ∀ c ∈ written, Text.isBlank c = false ∧ c ≠ ':') :
    Text.trimList (cs.filter (· ≠ ':')) = written := by
  induction h with
  | plain =>
    have hfilter : written.filter (· ≠ ':') = written := by
      simpa using fun c hc => (hplain c hc).2
    rw [hfilter]
    exact Text.trimList_of_edges (fun c hc => (hplain c (List.mem_of_mem_head? hc)).1)
      (fun c hc => (hplain c (List.mem_of_getLast? hc)).1)
  | colon h ih =>
    rw [← ih]
    simp
  | before hblank h ih =>
    rw [List.filter_cons_of_pos (by simpa using ne_colon_of_isBlank hblank),
      Text.trimList_cons hblank, ih]
  | @after cs blank hblank h ih =>
    have hkept : [blank].filter (· ≠ ':') = [blank] := by
      simpa using ne_colon_of_isBlank hblank
    rw [List.filter_append, hkept, Text.trimList_concat hblank, ih]

/-- A text is read if what is left of it spells a digest, and that is what it is read as. -/
theorem ofFingerprintHex_eq_ok_iff :
    ofFingerprintHex text = .ok binding ↔
      ∃ digest, binding = .fingerprint digest ∧ Hex.Spells (cleaned text) digest.bytes := by
  have hdecode : ∀ bs, Hex.decode (Text.utf8 (String.ofList (cleaned text))) = .ok bs ↔
      Hex.Spells (cleaned text) bs := by
    intro bs
    rw [Hex.decode_utf8_eq_ok_iff, String.toList_ofList]
  constructor
  · intro h
    simp only [ofFingerprintHex] at h
    split at h
    case h_1 => cases h
    case h_2 bs hbs =>
      split at h
      case h_2 => cases h
      case h_1 digest hdigest =>
        cases h
        rw [Octets.ofBytes?_eq_some_iff.mp hdigest] at hbs
        exact ⟨digest, rfl, (hdecode _).mp hbs⟩
  · rintro ⟨digest, rfl, hspells⟩
    have hread := (hdecode _).mpr hspells
    unfold cleaned at hread
    have hwidth : Octets.ofBytes? fingerprintLength digest.bytes = some digest :=
      Octets.ofBytes?_bytes digest
    simp only [ofFingerprintHex, hread, hwidth]

/-- The digits of a digest are read as that digest, whatever was put in. -/
theorem ofFingerprintHex_of_decorated {digest : Octets 32}
    (hspells : Hex.Spells written digest.bytes) (h : Decorated written text.toList) :
    ofFingerprintHex text = .ok (.fingerprint digest) := by
  refine ofFingerprintHex_eq_ok_iff.mpr ⟨digest, rfl, ?_⟩
  rw [cleaned, h.trimList_filter hspells.plain]
  exact hspells

/-- Which other texts are read as the same. -/
theorem ofFingerprintHex_iff_map_toLower (h : ofFingerprintHex text = .ok binding) :
    ofFingerprintHex text' = .ok binding ↔
      (cleaned text').map Char.toLower = (cleaned text).map Char.toLower := by
  obtain ⟨digest, rfl, hspells⟩ := ofFingerprintHex_eq_ok_iff.mp h
  rw [← hspells.iff_map_toLower, ofFingerprintHex_eq_ok_iff]
  constructor
  · rintro ⟨digest', hbinding, hspells'⟩
    cases hbinding
    exact hspells'
  · intro hspells'
    exact ⟨digest, rfl, hspells'⟩

end IdentityBinding

/-- A text is read as a secret if and only if what is between the blanks at its ends spells it. -/
theorem KnockSecret.ofHex_eq_ok_iff {text : String} {secret : KnockSecret} :
    ofHex text = .ok secret ↔ Hex.Spells (Text.trim text).toList secret.bytes := by
  rw [← Hex.decode_utf8_eq_ok_iff]
  unfold ofHex
  constructor
  · intro h
    split at h
    case h_1 bs hbs => rw [hbs, ofBytes_eq_ok_iff.mp h]
    case h_2 => cases h
  · intro h
    rw [h]
    exact ofBytes_eq_ok_iff.mpr rfl

/-- Which other texts are read as the same secret. -/
theorem KnockSecret.ofHex_iff_map_toLower {text text' : String} {secret : KnockSecret}
    (h : ofHex text = .ok secret) :
    ofHex text' = .ok secret ↔
      (Text.trim text').toList.map Char.toLower = (Text.trim text).toList.map Char.toLower := by
  rw [ofHex_eq_ok_iff, (ofHex_eq_ok_iff.mp h).iff_map_toLower]

/-! ### The fields of an entry -/

/-- The two fields that are written in hexadecimal are read as the octets that their digits
spell, and as nothing else. -/
theorem hex_fields_read_as_spelled :
    -- A digest is read from sixty-four digits,
    (∀ text digest, IdentityBinding.ofFingerprintHex text = .ok (.fingerprint digest) ↔
      (IdentityBinding.cleaned text).length = 64 ∧
        Hex.Spells (IdentityBinding.cleaned text) digest.bytes) ∧
    -- and a secret from an even number of them, enough for sixteen octets.
    (∀ text key, (∃ secret, KnockSecret.ofHex text = .ok secret ∧ secret.bytes = key) ↔
      (Text.trim text).toList.length % 2 = 0 ∧
        Hex.Spells (Text.trim text).toList key ∧ 16 ≤ key.length) ∧
    -- What a digest is written as is read back, in either case and with what may be put in.
    (∀ (digest : Octets 32) (written text : String),
      written = Hex.encode digest.bytes ∨ written = (Hex.encode digest.bytes).toUpper →
      IdentityBinding.Decorated written.toList text.toList →
      IdentityBinding.ofFingerprintHex text = .ok (.fingerprint digest)) ∧
    (∀ certificate,
      IdentityBinding.ofFingerprintHex (Tls.Certificate.fingerprintHex certificate) =
        .ok (.fingerprint (Tls.Certificate.identityOf certificate).fingerprint)) ∧
    -- Texts are read alike if they differ in nothing but that and the case of their letters.
    (∀ text text' binding, IdentityBinding.ofFingerprintHex text = .ok binding →
      (IdentityBinding.ofFingerprintHex text' = .ok binding ↔
        (IdentityBinding.cleaned text').map Char.toLower =
          (IdentityBinding.cleaned text).map Char.toLower)) ∧
    (∀ text text' secret, KnockSecret.ofHex text = .ok secret →
      (KnockSecret.ofHex text' = .ok secret ↔
        (Text.trim text').toList.map Char.toLower = (Text.trim text).toList.map Char.toLower)) := by
  refine ⟨?_, ?_, ?_, ?_, ?_, ?_⟩
  · intro text digest
    rw [IdentityBinding.ofFingerprintHex_eq_ok_iff]
    constructor
    · rintro ⟨digest, hbinding, hspells⟩
      cases hbinding
      have hlength := hspells.length
      rw [digest.length_eq] at hlength
      exact ⟨hlength, hspells⟩
    · intro h
      exact ⟨digest, rfl, h.2⟩
  · intro text key
    constructor
    · rintro ⟨secret, hread, rfl⟩
      have hspells := KnockSecret.ofHex_eq_ok_iff.mp hread
      have hlength := hspells.length
      exact ⟨by omega, hspells, secret.length_ge⟩
    · rintro ⟨-, hspells, hlength⟩
      exact ⟨⟨key, hlength⟩, KnockSecret.ofHex_eq_ok_iff.mpr hspells, rfl⟩
  · intro digest written text hwritten hdecorated
    apply IdentityBinding.ofFingerprintHex_of_decorated _ hdecorated
    rcases hwritten with rfl | rfl
    · exact Hex.spells_encode digest.bytes
    · rw [String.toUpper, String.toList_map]
      exact (Hex.spells_encode digest.bytes).map_toUpper
  · intro certificate
    exact IdentityBinding.ofFingerprintHex_of_decorated (Hex.spells_encode _) .plain
  · intro text text' binding hread
    exact IdentityBinding.ofFingerprintHex_iff_map_toLower hread
  · intro text text' secret hread
    exact KnockSecret.ofHex_iff_map_toLower hread

/-- Colons between the two digits of an octet and in front of blanks, blanks of two kinds and
letters of both cases, all at once. -/
theorem hex_fields_read_as_spelled_of_colons :
    let digest : Octets 32 := ⟨List.replicate 32 0xAB, rfl⟩
    let secret : KnockSecret := ⟨List.replicate 16 0xAB, by decide⟩
    let text := String.ofList
      (':' :: ' ' :: 'A' :: ':' :: 'B' :: (List.replicate 31 ['A', 'B']).flatten ++ ['\t'])
    IdentityBinding.Decorated (Hex.encode digest.bytes).toUpper.toList text.toList ∧
      IdentityBinding.ofFingerprintHex text = .ok (.fingerprint digest) ∧
      IdentityBinding.ofFingerprintHex (Hex.encode digest.bytes) = .ok (.fingerprint digest) ∧
      KnockSecret.ofHex " abABabABabABabABabABabABabABabAB\n" = .ok secret ∧
      KnockSecret.ofHex "ABABABABABABABABABABABABabababab" = .ok secret := by
  intro digest secret text
  have hdecorated :
      IdentityBinding.Decorated (Hex.encode digest.bytes).toUpper.toList text.toList := by
    rw [String.toUpper, String.toList_map, String.toList_ofList]
    refine .after rfl (@IdentityBinding.Decorated.colon _ [] _ (.before rfl
      (@IdentityBinding.Decorated.colon _ ['A'] _ ?_)))
    have hdigits : (Hex.encode digest.bytes).toList.map Char.toUpper =
        'A' :: 'B' :: (List.replicate 31 ['A', 'B']).flatten := by decide
    rw [hdigits]
    exact .plain
  obtain ⟨-, -, hread, -, halike, hsecrets⟩ := hex_fields_read_as_spelled
  have htext := hread digest _ text (.inr rfl) hdecorated
  have hsecret : KnockSecret.ofHex " abABabABabABabABabABabABabABabAB\n" = .ok secret := by
    decide +kernel
  refine ⟨hdecorated, htext, (halike text _ _ htext).mpr ?_, hsecret,
    (hsecrets _ _ _ hsecret).mpr ?_⟩
  · decide +kernel
  · decide +kernel

end Perimeter
