import Perimeter.Proofs.Checks
import Perimeter.Proofs.Run
import Perimeter.Proofs.Store.Memory
import Perimeter.Validation

/-!
# `Perimeter.Proofs.Validation.Verdict`: what a verdict on a datagram means

The checks of a validator end in a record against reuse. `examine_ok_iff` lists what the
checks ask for before it, and `validate_ok_iff` everything, the record included. A datagram that
passes the checks breaks the record down if that would end at an instant that the machine has no
number for (`validate_outOfRange_iff`).
`Validator.Action` is what may happen to a validator while it is at work, and `act_spec` says
what any of it makes of the records. A validator whose records are kept for a while and never
evicted goes on recording, and what becomes of a record is decided by those that are live
(`Recording.record_snd`).
-/

set_option autoImplicit false

namespace Perimeter

namespace ReplayGuard

theorem records_record (g : ReplayGuard) (now : Nat) (id : DeviceId) (nonce : Nonce) :
    (g.record now id nonce).1.records =
      (g.records.insertIfAbsent now (id, nonce) () g.retention).1 := rfl

theorem record_snd (g : ReplayGuard) (now : Nat) (id : DeviceId) (nonce : Nonce) :
    (g.record now id nonce).2 =
      (g.records.insertIfAbsent now (id, nonce) () g.retention).2 := rfl

end ReplayGuard

/-- The knock that was validated. -/
def ValidatedKnock.knock (k : ValidatedKnock) : Knock :=
  ⟨k.device.id, k.timestamp, k.nonce, k.token⟩

namespace Validator

variable {v : Validator} {clock : Clock} {now : Int64} {datagram : Bytes}

/-- What a datagram has to be for the checks that leave no trace. -/
theorem examine_ok_iff {device : Device} {knock : Knock} :
    v.examine now datagram = .ok (device, knock) ↔
      ∃ received, Knock.decode datagram = .ok received ∧ received.knock = knock ∧
        v.registry.lookup knock.device = some device ∧
        Wire.tagHolds device.secret received.authenticated received.tag ∧
        v.isFresh now knock.timestamp := by
  simp only [examine, Checks.bind_eq_ok, Checks.mapError_eq_ok]
  refine exists_congr fun received => and_congr_right fun _ => ?_
  cases hlookup : v.registry.lookup received.knock.device with
  | none =>
    simp only [reduceCtorEq, false_iff]
    rintro ⟨rfl, hsome, -⟩
    rw [hlookup] at hsome
    cases hsome
  | some found =>
    simp only [Checks.error_if_eq_ok, Bool.not_eq_true', Bool.not_eq_false, Except.ok.injEq,
      Prod.mk.injEq]
    constructor
    · rintro ⟨htag, hfresh, rfl, rfl⟩
      exact ⟨rfl, hlookup, htag, hfresh⟩
    · rintro ⟨rfl, hsome, htag, hfresh⟩
      obtain rfl := Option.some.inj (hlookup.symm.trans hsome)
      exact ⟨htag, hfresh, rfl, rfl⟩

/-- A datagram counts if it passes the checks and is recorded. -/
theorem validate_ok_iff_examine {k : ValidatedKnock} :
    (v.validate clock datagram).2 = .ok k ↔
      ∃ device knock, v.examine clock.unixSeconds datagram = .ok (device, knock) ∧
        (v.replay.record clock.instant knock.device knock.nonce).2 = .stored ∧
        k = ⟨device, knock.nonce, knock.timestamp, knock.token⟩ := by
  unfold validate
  cases hexamine : v.examine clock.unixSeconds datagram with
  | error reason => simp
  | ok examined =>
    obtain ⟨device, knock⟩ := examined
    simp only [Except.ok.injEq, Prod.mk.injEq]
    cases houtcome : (v.replay.record clock.instant knock.device knock.nonce).2 with
    | stored =>
      constructor
      · intro h
        exact ⟨device, knock, ⟨rfl, rfl⟩, houtcome, (Except.ok.inj h).symm⟩
      · rintro ⟨_, _, ⟨rfl, rfl⟩, -, rfl⟩
        rfl
    -- Any other outcome of the record is a rejection.
    | present | full | outOfRange =>
      simp only [reduceCtorEq, false_iff, not_exists, not_and]
      rintro _ _ ⟨rfl, rfl⟩ hstored
      exact absurd (houtcome.symm.trans hstored) (by simp)

/-- A datagram counts if it reads as a knock, the device is registered, the tag is the
device's, the time is fresh, and the record is new and has room. -/
theorem validate_ok_iff {k : ValidatedKnock} :
    (v.validate clock datagram).2 = .ok k ↔
      ∃ received, Knock.decode datagram = .ok received ∧ received.knock = k.knock ∧
        v.registry.lookup k.device.id = some k.device ∧
        Wire.tagHolds k.device.secret received.authenticated received.tag ∧
        v.isFresh clock.unixSeconds k.timestamp ∧
        (v.replay.record clock.instant k.device.id k.nonce).2 = .stored := by
  rw [validate_ok_iff_examine]
  constructor
  · rintro ⟨device, knock, hexamine, hstored, rfl⟩
    obtain ⟨received, hdecode, rfl, hlookup, htag, hfresh⟩ := examine_ok_iff.mp hexamine
    have hid : device.id = received.knock.device := Registry.id_of_lookup hlookup
    refine ⟨received, hdecode, ?_, hid ▸ hlookup, htag, hfresh, hid ▸ hstored⟩
    simp [ValidatedKnock.knock, hid]
  · rintro ⟨received, hdecode, hknock, hlookup, htag, hfresh, hstored⟩
    exact ⟨k.device, k.knock,
      examine_ok_iff.mpr ⟨received, hdecode, hknock, hlookup, htag, hfresh⟩, hstored, rfl⟩

/-- What is held against a datagram before the record is that it does not read as a knock, or one of
three things about the knock. -/
theorem examine_error_cases {reason : Rejection} (h : v.examine now datagram = .error reason) :
    (∃ cause, Knock.decode datagram = .error cause ∧ reason = .malformed cause) ∨
    ∃ received, Knock.decode datagram = .ok received ∧
      (reason = .unknownDevice received.knock.device ∨ reason = .badTag received.knock.device ∨
        reason = .stale received.knock.device received.knock.timestamp now) := by
  unfold examine at h
  cases hdecode : Knock.decode datagram with
  | error cause =>
    rw [hdecode] at h
    cases h
    exact .inl ⟨cause, rfl, rfl⟩
  | ok received =>
    refine .inr ⟨received, rfl, ?_⟩
    simp only [hdecode, Checks.mapError_ok, Checks.ok_bind] at h
    split at h
    · cases h
      exact .inl rfl
    · split at h
      · cases h
        exact .inr (.inl rfl)
      · split at h <;> cases h
        exact .inr (.inr rfl)

/-- So the checks before the record do not break down. -/
theorem examine_ne_outOfRange (v : Validator) (now : Int64) (datagram : Bytes) :
    v.examine now datagram ≠ .error .outOfRange := by
  intro h
  obtain ⟨cause, -, hreason⟩ | ⟨received, -, hreason⟩ := examine_error_cases h
  · cases hreason
  · obtain hreason | hreason | hreason := hreason <;> cases hreason

/-- A validation breaks down if the datagram passes the checks and the end of its record is out of
range. -/
theorem validate_outOfRange_iff :
    (v.validate clock datagram).2 = .error .outOfRange ↔
      (∃ examined, v.examine clock.unixSeconds datagram = .ok examined) ∧
        Clock.limit ≤ clock.instant + v.replay.retention := by
  unfold validate
  cases hexamine : v.examine clock.unixSeconds datagram with
  | error reason =>
    have hne : reason ≠ .outOfRange := fun heq =>
      v.examine_ne_outOfRange clock.unixSeconds datagram (hexamine.trans (congrArg _ heq))
    simpa using hne
  | ok examined =>
    obtain ⟨device, knock⟩ := examined
    have hrecord : (v.replay.record clock.instant knock.device knock.nonce).2 = .outOfRange ↔
        Clock.limit ≤ clock.instant + v.replay.retention := Store.insertIfAbsent_outOfRange_iff
    rw [← hrecord]
    cases houtcome : (v.replay.record clock.instant knock.device knock.nonce).2 <;> simp [houtcome]

theorem validate_fst_of_error {reason : Rejection}
    (h : v.examine clock.unixSeconds datagram = .error reason) :
    (v.validate clock datagram).1 = v := by
  simp only [validate, h]

/-- What passes the other checks is recorded, or found among the records. -/
theorem validate_fst_of_ok {device : Device} {knock : Knock}
    (h : v.examine clock.unixSeconds datagram = .ok (device, knock)) :
    (v.validate clock datagram).1 =
      { v with replay := (v.replay.record clock.instant knock.device knock.nonce).1 } := by
  simp only [validate, h]
  split <;> rfl

/-! ### A validator at work -/

/-- What may happen to a validator while it is at work. -/
inductive Action where
  | validate (datagram : Bytes)
  | check (id : DeviceId) (nonce : Nonce)
  | sweep
  | upsert (device : Device)
  | remove (id : DeviceId)
  | replaceAll (devices : List Device)

/-- What an action makes of a validator. -/
def act (clock : Clock) (v : Validator) : Action → Validator
  | .validate datagram => (v.validate clock datagram).1
  | .check id nonce => { v with replay := (v.replay.check clock.instant id nonce).1 }
  | .sweep => { v with replay := v.replay.sweep clock.instant }
  | .upsert device => { v with registry := v.registry.upsert device }
  | .remove id => { v with registry := v.registry.erase id }
  | .replaceAll devices => { v with registry := (v.registry.replaceAll devices).1 }

/-- Whatever happens to a validator, its records are only used, and the allowed difference of
the clocks and the retention stay. -/
theorem act_spec (hretention : 0 < v.replay.retention) (clock : Clock) (action : Action) :
    (act clock v action).skew = v.skew ∧
    (act clock v action).replay.retention = v.replay.retention ∧
    v.replay.records.Used clock.instant (act clock v action).replay.records := by
  cases action with
  | validate datagram =>
    simp only [act]
    cases hexamine : v.examine clock.unixSeconds datagram with
    | error reason =>
      rw [validate_fst_of_error hexamine]
      exact ⟨rfl, rfl, .untouched⟩
    | ok examined =>
      rw [validate_fst_of_ok hexamine]
      exact ⟨rfl, rfl, .inserted _ _ _ hretention⟩
  | check id nonce => exact ⟨rfl, rfl, .lookedUp (id, nonce)⟩
  | sweep => exact ⟨rfl, rfl, .swept⟩
  -- The registry is another part of the validator.
  | upsert device | remove id | replaceAll devices => exact ⟨rfl, rfl, .untouched⟩

/-- The records of a validator are kept for a while, and are never evicted. -/
structure Recording (v : Validator) (capacity : Nat) : Prop where
  retention_pos : 0 < v.replay.retention
  within : v.replay.records.Within capacity .refuseNew

variable {capacity : Nat}

/-- A validator goes on recording, whatever happens to it. -/
theorem Recording.act (h : v.Recording capacity) (clock : Clock) (action : Action) :
    (act clock v action).Recording capacity := by
  obtain ⟨-, hretention, hused⟩ := act_spec h.retention_pos clock action
  exact ⟨hretention ▸ h.retention_pos, hused.within h.within⟩

/-- What becomes of the record of a knock. -/
theorem Recording.record_snd (h : v.Recording capacity) (now : Nat) (id : DeviceId)
    (nonce : Nonce) :
    (v.replay.record now id nonce).2 =
      if Clock.limit ≤ now + v.replay.retention then .outOfRange
      else if (id, nonce) ∈ (v.replay.records.live now).keys then .present
      else if (v.replay.records.live now).keys.card < capacity then .stored
      else .full := by
  rw [ReplayGuard.record_snd, Store.insertIfAbsent_snd h.within h.retention_pos]
  simp only [Finmap.mem_keys]

end Validator

end Perimeter
