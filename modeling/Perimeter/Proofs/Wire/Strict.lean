import Perimeter.Proofs.Wire.Field
import Perimeter.Wire.Grant
import Perimeter.Wire.Knock

/-!
# `Perimeter.Proofs.Wire.Strict`: no datagram breaks a reader down

A reader takes octets at offsets that hang on lengths which the sender has chosen. Here all of it
is total: an octet past the end is zero, a part past the end is cut off, an offset is a number of
any size. On a machine none of this holds. An access outside a datagram ends the program, and so
does a sum that no word can hold.

`Knock.decodeStrictly` and `Grant.decodeStrictly` take the same steps as the readers, and break
down at such a step. They also break down at two errors that the readers have at hand and that
should never come up once the lengths have been looked at: that a field is not all there, and that
an identifier of proper length is refused. `Agrees` says that a strict reader does not break down
and gives what the reader gives. It is proved step by step, and each step takes its bound from the
checks before it.

* `Knock.agrees_decode`, `Grant.agrees_decode`: the whole readers.
* `Knock.CutShort`: the two checks of a knock's length that ask for more octets.
* `readers_never_break_down`: no datagram breaks a reader down, and octets are missing to nothing
  but those checks.
-/

set_option autoImplicit false

namespace Perimeter

namespace Wire

/-! ### Strict readers -/

/-- What breaks a strict reader down. -/
inductive Breakdown where
  /-- An octet or a part is taken that does not lie inside the datagram. -/
  | outside
  /-- An offset or a length does not fit a machine word. -/
  | overflow
  /-- A field is not all there, or an identifier is refused, after all checks of lengths. -/
  | late

/-- A reader that can break down besides giving a result or an error. -/
abbrev Strict (α : Type) : Type := ExceptT Error (Except Breakdown) α

namespace Strict

variable {α β : Type}

def breakDown (how : Breakdown) : Strict α := ExceptT.mk (.error how)

/-- A step that takes nothing of the datagram. -/
def ofExcept (result : Except Error α) : Strict α := ExceptT.mk (.ok result)

/-- The sum of two offsets or lengths. It has to fit sixteen bits, since no machine word is
shorter. -/
def sum (a b : Nat) : Strict Nat :=
  if a + b < 2 ^ 16 then pure (a + b) else breakDown .overflow

/-- The difference of two lengths, the second of which has to be no greater. -/
def difference (a b : Nat) : Strict Nat :=
  if b ≤ a then pure (a - b) else breakDown .overflow

/-- The octet at an offset, which has to lie inside the datagram. -/
def octet (datagram : Bytes) (offset : Nat) : Strict UInt8 :=
  match datagram[offset]? with
  | some b => pure b
  | none => breakDown .outside

/-- The octets from an offset up to another, both of which have to lie inside the datagram and
in this order. -/
def part (datagram : Bytes) (start stop : Nat) : Strict Bytes :=
  if start ≤ stop ∧ stop ≤ datagram.length then pure (slice datagram start stop)
  else breakDown .outside

/-- The field of `n` octets at an offset, which has to be all there. -/
def field (datagram : Bytes) (offset n : Nat) : Strict (Octets n) := do
  let _ ← sum offset n
  match Wire.field datagram offset n with
  | .ok f => pure f
  | .error _ => breakDown .late

def number16 (datagram : Bytes) (offset : Nat) : Strict Nat := do
  return ofBigEndian (← field datagram offset 2).bytes

def int64 (datagram : Bytes) (offset : Nat) : Strict Int64 := do
  return toInt64 (← field datagram offset 8).bytes

/-- The identifier that a text is, which must not be refused. -/
def deviceId (text : String) : Strict DeviceId :=
  match DeviceId.ofText text with
  | .ok id => pure id
  | .error _ => breakDown .late

def checkHeader (datagram : Bytes) (expected : Kind) : Strict Unit := do
  let found ← octet datagram 0
  if found ≠ version then throw (.unsupportedVersion found)
  else
    let code ← octet datagram 1
    match Kind.ofCode? code with
    | none => throw (.unknownKind code)
    | some kind => if kind = expected then pure () else throw (.unexpectedKind expected kind)

def checkLength (datagram : Bytes) (declared : Nat) : Strict Unit :=
  if datagram.length < declared then throw (.lengthMismatch declared datagram.length)
  else if declared < datagram.length then do
    throw (.malformed (.trailing (← difference datagram.length declared)))
  else pure ()

end Strict

end Wire

open Wire

/-- Reads a knock strictly, step by step as `Knock.decode` does. -/
def Knock.decodeStrictly (datagram : Bytes) : Strict Knock.Received := do
  if maxLength < datagram.length then
    throw (.oversized datagram.length maxLength)
  if datagram.length < minLength then
    throw (.insufficientData minLength datagram.length)
  Strict.checkHeader datagram .knock
  let idLength := (← Strict.octet datagram 2).toNat
  if idLength = 0 ∨ maxDeviceIdLength < idLength then
    throw (.malformed (.deviceIdLength idLength))
  let withoutToken ← Strict.sum fixedLength idLength
  if datagram.length < withoutToken then
    throw (.insufficientData withoutToken datagram.length)
  let idEnd ← Strict.sum 3 idLength
  let idBytes ← Strict.part datagram 3 idEnd
  let text ← Strict.ofExcept <| match Text.ofUtf8? idBytes with
    | some text => .ok text
    | none => .error (.malformed (.deviceIdNotUtf8 ((Text.Fault.find idBytes).getD ⟨0, none⟩)))
  let device ← Strict.deviceId text
  let timestamp ← Strict.int64 datagram idEnd
  let nonceAt ← Strict.sum idEnd 8
  let nonce ← Strict.field datagram nonceAt 16
  let lengthAt ← Strict.sum nonceAt 16
  let tokenLength ← Strict.number16 datagram lengthAt
  let tokenAt ← Strict.sum lengthAt 2
  if maxTokenLength < tokenLength then
    throw (.malformed (.tokenTooLong tokenLength))
  Strict.checkLength datagram (← Strict.sum withoutToken tokenLength)
  let tokenEnd ← Strict.sum tokenAt tokenLength
  let token ←
    if tokenLength = 0 then pure none
    else some <$> (Strict.part datagram tokenAt tokenEnd >>= fun bs =>
      Strict.ofExcept (tokenText bs))
  let tag ← Strict.field datagram tokenEnd tagLength
  return ⟨⟨device, timestamp, nonce, token⟩, tag, ← Strict.part datagram 0 tokenEnd⟩

/-- Reads a grant strictly, step by step as `Grant.decode` does. -/
def Grant.decodeStrictly (secret : KnockSecret) (datagram : Bytes) (expected : Nonce) :
    Strict Grant := do
  if maxLength < datagram.length then
    throw (.oversized datagram.length maxLength)
  if datagram.length < minLength then
    throw (.insufficientData minLength datagram.length)
  Strict.checkHeader datagram .grant
  let nonce ← Strict.field datagram 2 16
  let expiresAt ← Strict.int64 datagram 18
  let tokenLength ← Strict.number16 datagram 26
  if tokenLength = 0 ∨ maxTokenLength < tokenLength then
    throw (.malformed (.grantTokenLength tokenLength))
  Strict.checkLength datagram (← Strict.sum fixedLength tokenLength)
  let tokenEnd ← Strict.sum 28 tokenLength
  let tag ← Strict.field datagram tokenEnd tagLength
  if !tagHolds secret (context ++ (← Strict.part datagram 0 tokenEnd)) tag then
    throw .badTag
  if nonce ≠ expected then
    throw .nonceMismatch
  let token ← Strict.ofExcept (tokenText (← Strict.part datagram 28 tokenEnd))
  return ⟨nonce, expiresAt, token⟩

/-! ### A reader and its strict twin -/

namespace Wire

/-- The errors that come too late: octets are missing, or an identifier is refused. -/
def Error.IsLate : Error → Prop
  | .insufficientData _ _ => True
  | .malformed (.deviceIdRefused _) => True
  | _ => False

namespace Strict

variable {α β : Type} {allowed : Error → Prop} {x : Strict α} {y : Except Error α}
  {f : α → Strict β} {g : α → Except Error β} {datagram : Bytes} {cause : Error}

/-- A strict reader does not break down and gives what a reader gives. That reader has late errors
only if they are among those allowed. -/
structure Agrees (allowed : Error → Prop) (x : Strict α) (y : Except Error α) : Prop where
  run_eq : x.run = .ok y
  late : ∀ cause, y = .error cause → cause.IsLate → allowed cause

theorem throw_bind (cause : Error) (f : α → Strict β) : (throw cause >>= f) = throw cause := rfl

theorem pure_bind (a : α) (f : α → Strict β) : (pure a >>= f) = f a := rfl

theorem agrees_pure (a : α) : Agrees allowed (pure a) (.ok a) := ⟨rfl, nofun⟩

theorem agrees_throw (h : ¬ cause.IsLate) :
    Agrees allowed (throw cause : Strict α) (.error cause) := by
  refine ⟨rfl, ?_⟩
  rintro _ ⟨⟩ hlate
  exact absurd hlate h

/-- A check of both whose error is not late. -/
theorem Agrees.guard {p : Prop} [Decidable p] (h : ¬ cause.IsLate)
    (hrest : ¬ p → Agrees allowed x y) :
    Agrees allowed (if p then throw cause else x) (if p then .error cause else y) := by
  split
  · exact agrees_throw h
  · exact hrest ‹_›

/-- A check of both whose error is late, and allowed where the check fails. -/
theorem Agrees.guard_late {p : Prop} [Decidable p] (h : p → allowed cause)
    (hrest : ¬ p → Agrees allowed x y) :
    Agrees allowed (if p then throw cause else x) (if p then .error cause else y) := by
  split
  · refine ⟨rfl, ?_⟩
    rintro _ ⟨⟩ _
    exact h ‹_›
  · exact hrest ‹_›

theorem Agrees.bind (h : Agrees allowed x y)
    (hnext : ∀ a, y = .ok a → Agrees allowed (f a) (g a)) :
    Agrees allowed (x >>= f) (y >>= g) := by
  have hrun := h.run_eq
  cases y with
  | error cause =>
    refine ⟨?_, ?_⟩
    · rw [ExceptT.run_bind, hrun]
      rfl
    · rintro _ ⟨⟩
      exact h.late cause rfl
  | ok a =>
    obtain ⟨hrest, hlate⟩ := hnext a rfl
    refine ⟨?_, hlate⟩
    rw [ExceptT.run_bind, hrun]
    exact hrest

theorem Agrees.map {h : α → β} (hresult : Agrees allowed x y) :
    Agrees allowed (h <$> x) (h <$> y) := by
  rw [← bind_pure_comp, ← bind_pure_comp]
  exact hresult.bind fun a _ => agrees_pure _

/-! ### Steps that cannot break down -/

/-- A sum of lengths that fits a machine word. -/
theorem Agrees.sum {a b : Nat} {f : Nat → Strict β} {z : Except Error β} (h : a + b < 2 ^ 16)
    (hrest : Agrees allowed (f (a + b)) z) : Agrees allowed (Strict.sum a b >>= f) z := by
  rw [Strict.sum, if_pos h]
  exact hrest

/-- An octet inside the datagram. -/
theorem Agrees.octet {offset : Nat} {f : UInt8 → Strict β} {z : Except Error β}
    (h : offset < datagram.length) (hrest : Agrees allowed (f (octetAt datagram offset)) z) :
    Agrees allowed (Strict.octet datagram offset >>= f) z := by
  have hoctet : octetAt datagram offset = datagram[offset] := by
    rw [octetAt, List.getD_eq_getElem?_getD, List.getElem?_eq_getElem h, Option.getD_some]
  rw [hoctet] at hrest
  rw [Strict.octet, List.getElem?_eq_getElem h]
  exact hrest

/-- A part inside the datagram. -/
theorem Agrees.part {start stop : Nat} {f : Bytes → Strict β} {z : Except Error β}
    (hstart : start ≤ stop) (hstop : stop ≤ datagram.length)
    (hrest : Agrees allowed (f (slice datagram start stop)) z) :
    Agrees allowed (Strict.part datagram start stop >>= f) z := by
  rw [Strict.part, if_pos ⟨hstart, hstop⟩]
  exact hrest

/-- A field that lies inside a datagram is all there. -/
theorem agrees_field {offset n : Nat} (h : offset + n ≤ datagram.length)
    (hword : datagram.length < 2 ^ 16) :
    Agrees allowed (field datagram offset n) (Wire.field datagram offset n) := by
  refine .sum (by omega) ?_
  rw [field_eq_ok h]
  exact agrees_pure _

theorem agrees_number16 {offset : Nat} (h : offset + 2 ≤ datagram.length)
    (hword : datagram.length < 2 ^ 16) :
    Agrees allowed (number16 datagram offset) (Wire.number16 datagram offset) :=
  (agrees_field h hword).bind fun _ _ => agrees_pure _

theorem agrees_int64 {offset : Nat} (h : offset + 8 ≤ datagram.length)
    (hword : datagram.length < 2 ^ 16) :
    Agrees allowed (int64 datagram offset) (Wire.int64 datagram offset) :=
  (agrees_field h hword).bind fun _ _ => agrees_pure _

/-- The header stands in the first two octets. -/
theorem agrees_checkHeader {kind : Kind} (h : 2 ≤ datagram.length) :
    Agrees allowed (checkHeader datagram kind) (Wire.checkHeader datagram kind) := by
  refine .octet (by omega) (.guard id fun _ => .octet (by omega) ?_)
  cases Kind.ofCode? (octetAt datagram 1) with
  | none => exact agrees_throw id
  | some found =>
    dsimp only
    split
    · exact agrees_pure _
    · exact agrees_throw id

theorem agrees_checkLength {declared : Nat} :
    Agrees allowed (checkLength datagram declared) (Wire.checkLength datagram declared) := by
  refine .guard id fun _ => ?_
  by_cases hmore : declared < datagram.length
  · rw [if_pos hmore, if_pos hmore, difference, if_pos (Nat.le_of_lt hmore), pure_bind]
    exact agrees_throw id
  · rw [if_neg hmore, if_neg hmore]
    exact agrees_pure _

/-- A token is refused for what it is, not for its length. -/
theorem agrees_tokenText {bs : Bytes} :
    Agrees allowed (ofExcept (tokenText bs)) (tokenText bs) := by
  unfold tokenText
  split
  · exact agrees_pure _
  · exact agrees_throw id

/-- A text of proper length is an identifier. -/
theorem agrees_deviceId {text : String} {refuse : DeviceError → Error}
    (hpos : 1 ≤ (Text.utf8 text).length) (hle : (Text.utf8 text).length ≤ maxDeviceIdLength) :
    Agrees allowed (deviceId text) ((DeviceId.ofText text).mapError refuse) := by
  have hne : text ≠ "" := by
    rintro rfl
    cases hpos
  rw [deviceId, DeviceId.ofText, dif_neg hne, dif_pos hle]
  exact agrees_pure _

end Strict
end Wire

/-! ### The whole readers -/

/-- A datagram is too short for what its reader has seen of it, and should have so many octets: it
is shorter than every knock, or it begins as a knock and is shorter than one with an identifier of
its length and no token. -/
inductive Knock.CutShort (datagram : Bytes) : Nat → Prop where
  | least (short : datagram.length < minLength) : CutShort datagram minLength
  | named (long : minLength ≤ datagram.length) (most : datagram.length ≤ maxLength)
    (header : checkHeader datagram .knock = .ok ())
    (id_pos : 1 ≤ (octetAt datagram 2).toNat)
    (id_le : (octetAt datagram 2).toNat ≤ maxDeviceIdLength)
    (short : datagram.length < fixedLength + (octetAt datagram 2).toNat) :
    CutShort datagram (fixedLength + (octetAt datagram 2).toNat)

/-- A knock that is cut short is refused for the octets that are missing. -/
theorem Knock.decode_of_cutShort {datagram : Bytes} {needed : Nat}
    (h : CutShort datagram needed) :
    decode datagram = .error (.insufficientData needed datagram.length) := by
  cases h with
  | least short =>
    have hmost : ¬ maxLength < datagram.length := by
      have hlt : minLength < maxLength := by decide
      omega
    simp only [decode, Checks.throw_bind, if_neg hmost, if_pos short]
  | named long most header id_pos id_le short =>
    have hid : ¬ ((octetAt datagram 2).toNat = 0 ∨
        maxDeviceIdLength < (octetAt datagram 2).toNat) := by omega
    simp only [decode, Checks.throw_bind, if_neg (Nat.not_lt.mpr most),
      if_neg (Nat.not_lt.mpr long), header, Checks.ok_bind, if_neg hid, if_pos short]

theorem Grant.decode_of_short (secret : KnockSecret) {datagram : Bytes} (nonce : Nonce)
    (h : datagram.length < minLength) :
    decode secret datagram nonce = .error (.insufficientData minLength datagram.length) := by
  have hmost : ¬ maxLength < datagram.length := by
    have hlt : minLength < maxLength := by decide
    omega
  simp only [decode, Checks.throw_bind, if_neg hmost, if_pos h]

/-- A knock is read strictly, and octets are missing only where it is cut short. -/
theorem Knock.agrees_decode (datagram : Bytes) :
    Strict.Agrees
      (fun cause => ∃ needed, cause = .insufficientData needed datagram.length ∧
        CutShort datagram needed)
      (decodeStrictly datagram) (decode datagram) := by
  simp only [decodeStrictly, decode, Checks.throw_bind, Strict.throw_bind]
  refine .guard id fun hmax => .guard_late (fun hleast => ⟨_, rfl, .least hleast⟩) fun hmin => ?_
  have hlong : 62 ≤ datagram.length := Nat.not_lt.mp hmin
  have hshort : datagram.length ≤ 1149 := Nat.not_lt.mp hmax
  refine .bind (Strict.agrees_checkHeader (by omega)) fun _ hheader => .octet (by omega) ?_
  refine .guard id fun hid => ?_
  obtain ⟨hpos, hfits⟩ := not_or.mp hid
  -- The length of the identifier is one octet, so that no sum with it is large.
  have hbyte : (octetAt datagram 2).toNat < 256 := (octetAt datagram 2).toNat_lt
  refine .sum ?_ (.guard_late (fun hcut => ⟨_, rfl, ?_⟩) fun htoken => ?_)
  · show 61 + _ < 65536
    omega
  · exact .named (Nat.not_lt.mp hmin) (Nat.not_lt.mp hmax) hheader
      (Nat.one_le_iff_ne_zero.mpr hpos) (Nat.not_lt.mp hfits) hcut
  clear hheader
  generalize (octetAt datagram 2).toNat = n at *
  have hfits : n ≤ 64 := Nat.not_lt.mp hfits
  have htotal : 61 + n ≤ datagram.length := Nat.not_lt.mp htoken
  refine .sum (by omega) (.part (by omega) (by omega) ?_)
  cases htext : Text.ofUtf8? (slice datagram 3 (3 + n)) with
  | none =>
    refine .bind (Strict.agrees_throw id) ?_
    rintro _ ⟨⟩
  | some text =>
    have hid : (Text.utf8 text).length = n := by
      rw [Text.utf8_of_ofUtf8? htext, length_slice]
      omega
    refine .bind (Strict.agrees_pure text) ?_
    rintro _ ⟨⟩
    refine .bind (Strict.agrees_deviceId (by omega) (hid ▸ hfits)) fun device _ => ?_
    refine .bind (Strict.agrees_int64 (by omega) (by omega)) fun timestamp _ => .sum (by omega) ?_
    refine .bind (Strict.agrees_field (by omega) (by omega)) fun nonce _ => .sum (by omega) ?_
    refine .bind (Strict.agrees_number16 (by omega) (by omega)) fun m _ => .sum (by omega) ?_
    refine .guard id fun hm => ?_
    have hm : m ≤ 1024 := Nat.not_lt.mp hm
    refine .sum ?_ (.bind Strict.agrees_checkLength fun _ hlength => .sum (by omega) ?_)
    · show 61 + n + m < 65536
      omega
    -- From here on the length of the datagram is known.
    have hsize : datagram.length = 61 + n + m := checkLength_ok_iff.mp hlength
    have htag : 3 + n + 26 + m + tagLength ≤ datagram.length := by
      show 3 + n + 26 + m + 32 ≤ _
      omega
    split
    · refine .bind (Strict.agrees_pure none) fun token _ => ?_
      refine .bind (Strict.agrees_field htag (by omega)) fun tag _ => ?_
      exact .part (Nat.zero_le _) (by omega) (Strict.agrees_pure _)
    · refine .bind (.map (.part (by omega) (by omega) Strict.agrees_tokenText)) fun token _ => ?_
      refine .bind (Strict.agrees_field htag (by omega)) fun tag _ => ?_
      exact .part (Nat.zero_le _) (by omega) (Strict.agrees_pure _)

/-- A grant is read strictly, and octets are missing only where it is shorter than every grant. -/
theorem Grant.agrees_decode (secret : KnockSecret) (datagram : Bytes) (nonce : Nonce) :
    Strict.Agrees
      (fun cause => cause = .insufficientData minLength datagram.length ∧
        datagram.length < minLength)
      (decodeStrictly secret datagram nonce) (decode secret datagram nonce) := by
  simp only [decodeStrictly, decode, Checks.throw_bind, Strict.throw_bind]
  refine .guard id fun hmax => .guard_late (fun hshort => ⟨rfl, hshort⟩) fun hmin => ?_
  have hlong : 61 ≤ datagram.length := Nat.not_lt.mp hmin
  have hshort : datagram.length ≤ 1084 := Nat.not_lt.mp hmax
  refine .bind (Strict.agrees_checkHeader (by omega)) fun _ _ => ?_
  refine .bind (Strict.agrees_field (by omega) (by omega)) fun found _ => ?_
  refine .bind (Strict.agrees_int64 (by omega) (by omega)) fun expiresAt _ => ?_
  refine .bind (Strict.agrees_number16 (by omega) (by omega)) fun n _ => .guard id fun hn => ?_
  have hfits : n ≤ 1024 := Nat.not_lt.mp (not_or.mp hn).2
  refine .sum ?_ (.bind Strict.agrees_checkLength fun _ hlength => .sum (by omega) ?_)
  · show 60 + n < 65536
    omega
  have hsize : datagram.length = 60 + n := checkLength_ok_iff.mp hlength
  refine .bind (Strict.agrees_field ?_ (by omega)) fun tag _ => ?_
  · show 28 + n + 32 ≤ datagram.length
    omega
  refine .part (Nat.zero_le _) (by omega) (.guard id fun _ => .guard id fun _ => ?_)
  refine .part (by omega) (by omega) (.bind Strict.agrees_tokenText fun token _ => ?_)
  exact Strict.agrees_pure _

/-- No datagram breaks a reader down. Whatever octets, secret and nonce there are, a reader takes
no octet outside the datagram, computes no offset that a machine word cannot hold, finds every
field whole once it has looked at the lengths, and refuses no identifier. Octets are missing to it
only where a datagram is cut short. -/
theorem Wire.readers_never_break_down (datagram : Bytes) (secret : KnockSecret) (nonce : Nonce) :
    (Knock.decodeStrictly datagram).run = .ok (Knock.decode datagram) ∧
    (Grant.decodeStrictly secret datagram nonce).run = .ok (Grant.decode secret datagram nonce) ∧
    (∀ needed available,
      Knock.decode datagram = .error (.insufficientData needed available) ↔
        Knock.CutShort datagram needed ∧ available = datagram.length) ∧
    (∀ needed available,
      Grant.decode secret datagram nonce = .error (.insufficientData needed available) ↔
        datagram.length < Grant.minLength ∧ needed = Grant.minLength ∧
          available = datagram.length) ∧
    ∀ cause, Knock.decode datagram ≠ .error (.malformed (.deviceIdRefused cause)) := by
  obtain ⟨hknock, hknockLate⟩ := Knock.agrees_decode datagram
  obtain ⟨hgrant, hgrantLate⟩ := Grant.agrees_decode secret datagram nonce
  refine ⟨hknock, hgrant, fun needed available => ⟨fun h => ?_, ?_⟩,
    fun needed available => ⟨fun h => ?_, ?_⟩, fun cause h => ?_⟩
  · obtain ⟨_, heq, hcut⟩ := hknockLate _ h trivial
    cases heq
    exact ⟨hcut, rfl⟩
  · rintro ⟨hcut, rfl⟩
    exact Knock.decode_of_cutShort hcut
  · obtain ⟨heq, hshort⟩ := hgrantLate _ h trivial
    cases heq
    exact ⟨hshort, rfl, rfl⟩
  · rintro ⟨hshort, rfl, rfl⟩
    exact Grant.decode_of_short secret nonce hshort
  · obtain ⟨_, heq, -⟩ := hknockLate _ h trivial
    cases heq

end Perimeter
