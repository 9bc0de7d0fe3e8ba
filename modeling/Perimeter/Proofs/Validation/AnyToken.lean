import Perimeter.Proofs.Validation.Port
import Perimeter.Proofs.Wire.Knock

/-!
# `Perimeter.Proofs.Validation.AnyToken`: a validator does not look at tokens

The token of a knock is for the doorkeeper. All that the validator does about it is to hand it
on, and the port does not see it either. Two datagrams that one device made of the same knock
with two tokens therefore meet with the same (`Validator.validate_withToken`,
`KnockPort.receive_withToken`): the same records, the same counts, and the same knock but for
its token.
-/

set_option autoImplicit false

namespace Perimeter

/-- The knock with another token. -/
def Knock.withToken (knock : Knock) (token : Option String) : Knock := { knock with token }

/-- The validated knock with another token. -/
def ValidatedKnock.withToken (k : ValidatedKnock) (token : Option String) : ValidatedKnock :=
  { k with token }

/-- The token as it is read: an empty one is none. -/
def Knock.tokenRead (token : Option String) : Option String := token.filter (· ≠ "")

namespace Validator

variable {v : Validator} {secret : KnockSecret} {knock : Knock} {datagram : Bytes}

/-- The secret is that of the device with an identifier, if there is such a device. -/
def KnowsSecret (v : Validator) (id : DeviceId) (secret : KnockSecret) : Prop :=
  ∀ device, v.registry.lookup id = some device → device.secret = secret

/-- What the checks that leave no trace say of a knock with the right tag. -/
theorem examine_of_encode (hsecret : v.KnowsSecret knock.device secret)
    (h : Knock.encode secret knock = .ok datagram) (now : Int64) :
    v.examine now datagram =
      match v.registry.lookup knock.device with
      | none => .error (.unknownDevice knock.device)
      | some device =>
        if !v.isFresh now knock.timestamp then
          .error (.stale knock.device knock.timestamp now)
        else .ok (device, knock.asRead) := by
  rw [examine, Knock.decode_of_encode h, Checks.mapError_ok, Checks.ok_bind]
  have hread : knock.asRead.device = knock.device := rfl
  simp only [hread]
  cases hlookup : v.registry.lookup knock.device with
  | none => rfl
  | some device =>
    have hholds : Wire.tagHolds device.secret knock.body (Wire.tagOf secret knock.body) := by
      rw [hsecret device hlookup]
      simp [Wire.tagHolds]
    simp only [hholds, Bool.not_true, Bool.false_eq_true, if_false]
    rfl

variable {token token' : Option String} {datagram' : Bytes}

/-- Another token in a knock changes nothing in what a validator does but the token handed on. -/
theorem validate_withToken (hsecret : v.KnowsSecret knock.device secret)
    (h : Knock.encode secret (knock.withToken token) = .ok datagram)
    (h' : Knock.encode secret (knock.withToken token') = .ok datagram') (clock : Clock) :
    v.validate clock datagram' =
      ((v.validate clock datagram).1,
        (v.validate clock datagram).2.map (·.withToken (Knock.tokenRead token'))) := by
  rw [validate, validate,
    examine_of_encode (show v.KnowsSecret (knock.withToken token).device secret from hsecret) h,
    examine_of_encode (show v.KnowsSecret (knock.withToken token').device secret from hsecret) h']
  simp only [Knock.withToken]
  cases v.registry.lookup knock.device with
  | none => rfl
  | some device =>
    by_cases hfresh : v.isFresh clock.unixSeconds knock.timestamp
    · simp only [hfresh, Knock.asRead, Bool.not_true, Bool.false_eq_true, if_false]
      -- What is recorded is the device and the nonce.
      cases (v.replay.record clock.instant knock.device knock.nonce).2 <;> rfl
    · simp only [hfresh]
      rfl

end Validator

namespace KnockPort

variable {p : KnockPort} {secret : KnockSecret} {knock : Knock} {datagram datagram' : Bytes}
  {token token' : Option String} {clock : Clock} {inflight : Nat}

/-- A knock is never too long for the buffer. -/
theorem cut_of_encode (h : Knock.encode secret knock = .ok datagram) :
    cut datagram = datagram ∧ ¬ Knock.maxLength < datagram.length := by
  have hlength := (Knock.length_of_encode h).2
  exact ⟨List.take_of_length_le (Nat.le_succ_of_le hlength), Nat.not_lt.mpr hlength⟩

/-- Another token in a knock changes nothing at the port but the token handed on. -/
theorem receive_withToken (hsecret : p.validator.KnowsSecret knock.device secret)
    (h : Knock.encode secret (knock.withToken token) = .ok datagram)
    (h' : Knock.encode secret (knock.withToken token') = .ok datagram') :
    p.receive clock inflight datagram' =
      ((p.receive clock inflight datagram).1,
        (p.receive clock inflight datagram).2.map (·.withToken (Knock.tokenRead token'))) := by
  obtain ⟨hcut, hfits⟩ := cut_of_encode h
  obtain ⟨hcut', hfits'⟩ := cut_of_encode h'
  simp only [receive, hcut, hcut', if_neg hfits, if_neg hfits',
    Validator.validate_withToken hsecret h h']
  by_cases hroom : p.maxInflight ≤ inflight
  · simp only [hroom, if_true]
    rfl
  · simp only [hroom, if_false]
    obtain ⟨validator, verdict⟩ := p.validator.validate clock datagram
    cases verdict <;> rfl

/-- A knock comes through the port with the token that it was made with. -/
theorem token_of_receive {k : ValidatedKnock}
    (h : Knock.encode secret (knock.withToken token) = .ok datagram)
    (hreceive : (p.receive clock inflight datagram).2 = some k) :
    k.token = Knock.tokenRead token := by
  obtain ⟨received, hdecode, hknock, -⟩ :=
    Validator.validate_ok_iff.mp (validate_of_receive hreceive)
  rw [Knock.decode_of_encode h] at hdecode
  cases hdecode
  exact (congrArg Knock.token hknock).symm

end KnockPort

end Perimeter
