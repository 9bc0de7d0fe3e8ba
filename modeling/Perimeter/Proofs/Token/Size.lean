import Mathlib.Algebra.GroupWithZero.Nat
import Perimeter.Proofs.Json.Scalar
import Perimeter.Proofs.Token.Issued

/-!
# `Perimeter.Proofs.Token.Size`: how long a token is

A grant has room for a token of so many characters. How many a token has is known before it is
issued: its claims are written without blanks, the texts in them quoted, and then in letters
that stand for six bits each. The number of the token is the one thing that is drawn anew, and
it always takes the same room (`Uuid.length_quote_text`).

* `Token.Claims.length_write`: the octets of claims, text by text.
* `TokenIssuer.length_tokenFor_eq`: the characters of a token, from what is known of the device.
* `TokenIssuer.length_tokenFor_le_iff`: for which devices it can be sent.
* `TokenIssuer.claimsLength_le`: a bound on that which holds at every time.
-/

set_option autoImplicit false

namespace Perimeter

/-! ### Written values -/

namespace Json

/-- Written values take their own room, and a comma stands between two of them. -/
theorem length_separated (items : List Bytes) :
    (separated items).length = (items.map List.length).sum + (items.length - 1) := by
  induction items with
  | nil => rfl
  | cons first rest ih =>
    cases rest with
    | nil =>
      show (first ++ []).length = _
      simp
    | cons second more =>
      show (first ++ 0x2C :: separated (second :: more)).length = _
      rw [List.length_append, List.length_cons, ih]
      simp only [List.map_cons, List.sum_cons, List.length_cons]
      omega

/-- A list takes two brackets besides its items. -/
theorem length_array (items : List Bytes) :
    (array items).length = (items.map List.length).sum + (items.length - 1) + 2 := by
  rw [array, List.length_append, List.length_cons, length_separated]
  rfl

/-- A member takes a colon besides its name and its value. -/
theorem length_member (name : String) (value : Bytes) :
    (member name value).length = (quote name).length + value.length + 1 := by
  rw [member, List.length_append, List.length_cons]
  omega

/-- An object takes two braces besides its members. -/
theorem length_object (members : List (String × Bytes)) :
    (object members).length =
      (members.map fun m => (quote m.1).length + m.2.length + 1).sum +
        (members.length - 1) + 2 := by
  have hmembers : (members.map fun m => member m.1 m.2).map List.length =
      members.map fun m => (quote m.1).length + m.2.length + 1 := by
    rw [List.map_map]
    exact List.map_congr_left fun m _ => length_member m.1 m.2
  rw [object, List.length_append, List.length_cons, length_separated, hmembers, List.length_map]
  rfl

/-- An integer takes a sign and nineteen digits at most. -/
theorem length_integer_le (n : Int64) : (integer n).length ≤ 20 := by
  have hlow := n.le_toInt
  have hhigh := n.toInt_lt
  rw [integer_eq]
  split
  · exact Nat.le_succ_of_le (length_digits_le (by decide) (by omega))
  · rw [List.length_cons]
    exact Nat.succ_le_succ (length_digits_le (by decide) (by omega))

/-- A text of characters that are one octet each and need no escape takes two quotes more. -/
theorem length_quote_of_plain {cs : List Char}
    (h : ∀ c ∈ cs, ((String.utf8EncodeChar c).flatMap escapeOctet).length = 1) :
    (quote (String.ofList cs)).length = cs.length + 2 := by
  have hescaped : ((Text.utf8 (String.ofList cs)).flatMap escapeOctet).length = cs.length := by
    rw [Text.utf8_ofList, List.flatMap_assoc, List.length_flatMap, List.map_congr_left h,
      List.map_const', List.sum_replicate_nat, Nat.mul_one]
  rw [quote, List.length_append, List.length_cons, hescaped]
  rfl

end Json

/-! ### The number of a token -/

namespace Uuid

/-- Hyphens come between characters, and nothing else. -/
theorem mem_hyphenate {ns : List Nat} {cs : List Char} {c : Char} (h : c ∈ hyphenate ns cs) :
    c ∈ cs ∨ c = '-' := by
  fun_induction hyphenate ns cs with
  | case1 cs => exact .inl h
  | case2 cs n => exact .inl h
  | case3 cs n rest hrest ih =>
    rcases List.mem_append.mp h with hfront | hback
    · exact .inl (List.mem_of_mem_take hfront)
    · rcases List.mem_cons.mp hback with rfl | hback
      · exact .inr rfl
      · exact (ih hback).imp_left List.mem_of_mem_drop

private theorem plain_digit : ∀ b : UInt8,
    ((String.utf8EncodeChar (Char.ofNat (Hex.digit (b / 16)).toNat)).flatMap
      Json.escapeOctet).length = 1 ∧
    ((String.utf8EncodeChar (Char.ofNat (Hex.digit (b % 16)).toNat)).flatMap
      Json.escapeOctet).length = 1 :=
  forall_octet (by decide +kernel)

/-- Every hexadecimal digit is one octet and needs no escape. -/
private theorem plain_of_mem_encodeBytes {bs : Bytes} {digit : UInt8}
    (h : digit ∈ Hex.encodeBytes bs) :
    ((String.utf8EncodeChar (Char.ofNat digit.toNat)).flatMap Json.escapeOctet).length = 1 := by
  induction bs with
  | nil => cases h
  | cons b rest ih =>
    rcases List.mem_cons.mp h with rfl | h
    · exact (plain_digit b).1
    · rcases List.mem_cons.mp h with rfl | h
      · exact (plain_digit b).2
      · exact ih h

/-- Every number takes the same room. -/
theorem length_quote_text (u : Uuid) : (Json.quote u.text).length = 38 := by
  have hlength := u.length_text
  rw [toList_text] at hlength
  rw [text, Json.length_quote_of_plain, hlength]
  intro c hc
  rcases mem_hyphenate hc with hc | rfl
  · rw [Hex.encode, Text.ofAscii, String.toList_ofList] at hc
    obtain ⟨digit, hdigit, rfl⟩ := List.mem_map.mp hc
    exact plain_of_mem_encodeBytes hdigit
  · decide

end Uuid

/-! ### The claims and the token -/

/-- The octets of claims: what is the same for all of them, and the texts, the times and the
services as they are written. -/
theorem Token.Claims.length_write (claims : Claims) :
    claims.write.length = 85 + (Json.quote claims.issuer).length +
      (Json.quote claims.subject).length + (Json.integer claims.issuedAt).length +
      (Json.integer claims.expiresAt).length +
      (claims.scope.map fun service => (Json.quote service).length).sum +
      (claims.scope.length - 1) := by
  have hnames : (Json.quote "iss").length = 5 ∧ (Json.quote "sub").length = 5 ∧
      (Json.quote "iat").length = 5 ∧ (Json.quote "exp").length = 5 ∧
      (Json.quote "scope").length = 7 ∧ (Json.quote "jti").length = 5 := by decide +kernel
  obtain ⟨hiss, hsub, hiat, hexp, hscope, hjti⟩ := hnames
  rw [write, Json.length_object]
  simp only [List.map_cons, List.map_nil, List.sum_cons, List.sum_nil, List.length_cons,
    List.length_nil, Json.length_array, List.map_map, List.length_map, Uuid.length_quote_text,
    hiss, hsub, hiat, hexp, hscope, hjti, Function.comp_def]
  omega

namespace TokenIssuer

open Token

variable {t : TokenIssuer} {device : Device} {now : Int64}

/-- The octets of the claims for a device at a time. The number of the token takes always the
same room. -/
def claimsLength (t : TokenIssuer) (device : Device) (now : Int64) : Nat :=
  85 + (Json.quote t.issuer).length + (Json.quote device.id.text).length +
    (Json.integer now).length + (Json.integer (now + Int64.ofNat t.ttl)).length +
    (device.services.map fun service => (Json.quote service).length).sum +
    (device.services.length - 1)

/-- The most octets of claims for which the token can be sent. -/
def maxClaimsLength : Nat := 707

/-- A token is four letters for every three octets of its claims, and 81 characters besides. -/
theorem length_tokenFor_eq (t : TokenIssuer) (device : Device) (now : Int64) (id : Uuid) :
    (t.tokenFor device now id).length = (4 * t.claimsLength device now + 2) / 3 + 81 := by
  rw [length_tokenFor, Claims.length_write]
  rfl

/-- A token can be sent if the claims are short enough. -/
theorem length_tokenFor_le_iff (id : Uuid) :
    (t.tokenFor device now id).length ≤ Wire.maxTokenLength ↔
      t.claimsLength device now ≤ maxClaimsLength := by
  rw [length_tokenFor_eq, maxClaimsLength, Wire.maxTokenLength]
  omega

/-- The times in the claims take twenty octets each at most, whatever the time is. -/
theorem claimsLength_le (t : TokenIssuer) (device : Device) (now : Int64) :
    t.claimsLength device now ≤ 125 + (Json.quote t.issuer).length +
      (Json.quote device.id.text).length +
      (device.services.map fun service => (Json.quote service).length).sum +
      (device.services.length - 1) := by
  have hissued := Json.length_integer_le now
  have hexpires := Json.length_integer_le (now + Int64.ofNat t.ttl)
  unfold claimsLength
  omega

end TokenIssuer

end Perimeter
