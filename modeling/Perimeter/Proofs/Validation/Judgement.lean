import Perimeter.Proofs.Validation.Verdict
import Perimeter.Proofs.Wire.Knock

/-!
# `Perimeter.Proofs.Validation.Judgement`: a verdict rests on evidence

A verdict on a datagram rests on six things: the registry, the present, the allowed difference
of the clocks, the instant to which a knock would be remembered, the knocks accepted not long ago,
and how many of those there may be. `Evidence` holds them and `Evidence.judge` gives the verdict.

A knock that the machine cannot remember for so long makes the check break down. That counts as an
objection here, between the time of the knock and the records.

`Evidence.Objects` lists what may speak against a datagram, each objection by itself. A datagram
is accepted if nothing speaks against it (`judge_eq_ok_iff`), and otherwise rejected for the
first objection (`judge_eq_error_iff`). `validate_eq_judge` says when a validator judges by some
evidence.
-/

set_option autoImplicit false

namespace Perimeter

/-- The place of a rejection in the order in which the checks are made. -/
def Rejection.stage : Rejection → Nat
  | malformed _ => 0
  | unknownDevice _ => 1
  | badTag _ => 2
  | stale .. => 3
  | outOfRange => 4
  | replayed _ => 5
  | guardFull _ => 6

namespace Validator

/-- What a verdict rests on, besides the datagram. -/
structure Evidence where
  registry : Registry
  /-- Unix seconds. -/
  now : Int64
  /-- The seconds by which the clocks may differ. -/
  tolerance : Nat
  /-- The instant to which a knock that is accepted is remembered. -/
  deadline : Nat
  /-- The device and the nonce of every knock accepted not long ago. -/
  recent : Finset (DeviceId × Nonce)
  capacity : Nat

namespace Evidence

/-- The verdict on a datagram. -/
def judge (ev : Evidence) (datagram : Bytes) : Except Rejection ValidatedKnock :=
  match Knock.decode datagram with
  | .error cause => .error (.malformed cause)
  | .ok ⟨knock, tag, authenticated⟩ =>
    match ev.registry.lookup knock.device with
    | none => .error (.unknownDevice knock.device)
    | some device =>
      if ¬ Wire.tagHolds device.secret authenticated tag then .error (.badTag knock.device)
      else if ev.tolerance < (ev.now.toInt - knock.timestamp.toInt).natAbs then
        .error (.stale knock.device knock.timestamp ev.now)
      else if Clock.limit ≤ ev.deadline then .error .outOfRange
      else if (knock.device, knock.nonce) ∈ ev.recent then .error (.replayed knock.device)
      else if ev.capacity ≤ ev.recent.card then .error (.guardFull knock.device)
      else .ok ⟨device, knock.nonce, knock.timestamp, knock.token⟩

/-- What speaks against a datagram, each objection by itself. -/
inductive Objects (ev : Evidence) (datagram : Bytes) : Rejection → Prop where
  | malformed {cause : Wire.Error} (h : Knock.decode datagram = .error cause) :
    Objects ev datagram (.malformed cause)
  | unknownDevice {received : Knock.Received} (h : Knock.decode datagram = .ok received)
    (unknown : ev.registry.lookup received.knock.device = none) :
    Objects ev datagram (.unknownDevice received.knock.device)
  | badTag {received : Knock.Received} {device : Device}
    (h : Knock.decode datagram = .ok received)
    (known : ev.registry.lookup received.knock.device = some device)
    (bad : ¬ Wire.tagHolds device.secret received.authenticated received.tag) :
    Objects ev datagram (.badTag received.knock.device)
  | stale {received : Knock.Received} (h : Knock.decode datagram = .ok received)
    (far : ev.tolerance < (ev.now.toInt - received.knock.timestamp.toInt).natAbs) :
    Objects ev datagram (.stale received.knock.device received.knock.timestamp ev.now)
  | outOfRange {received : Knock.Received} (h : Knock.decode datagram = .ok received)
    (late : Clock.limit ≤ ev.deadline) : Objects ev datagram .outOfRange
  | replayed {received : Knock.Received} (h : Knock.decode datagram = .ok received)
    (seen : (received.knock.device, received.knock.nonce) ∈ ev.recent) :
    Objects ev datagram (.replayed received.knock.device)
  | guardFull {received : Knock.Received} (h : Knock.decode datagram = .ok received)
    (full : ev.capacity ≤ ev.recent.card) :
    Objects ev datagram (.guardFull received.knock.device)

variable {ev : Evidence} {datagram : Bytes} {received : Knock.Received} {device : Device}
  {reason other : Rejection} {k : ValidatedKnock}

/-- Of one stage there is at most one objection. -/
theorem Objects.eq_of_stage_eq (h : ev.Objects datagram reason) (h' : ev.Objects datagram other)
    (hstage : reason.stage = other.stage) : reason = other := by
  cases h <;> cases h' <;> simp_all [Rejection.stage]

/-- A rejection is an objection, and the first of all. -/
theorem objects_of_judge (h : ev.judge datagram = .error reason) :
    ev.Objects datagram reason ∧
      ∀ other, ev.Objects datagram other → reason.stage ≤ other.stage := by
  -- One check after the other. An objection of an earlier stage would contradict a check
  -- that has been passed.
  unfold judge at h
  split at h
  · rename_i cause hdecode
    cases h
    exact ⟨.malformed hdecode, fun _ _ => Nat.zero_le _⟩
  · rename_i knock tag authenticated hdecode
    split at h
    · rename_i hunknown
      cases h
      refine ⟨.unknownDevice hdecode hunknown, fun other hother => ?_⟩
      cases hother <;> simp_all [Rejection.stage]
    · rename_i device hknown
      split at h
      · rename_i hbad
        cases h
        refine ⟨.badTag hdecode hknown hbad, fun other hother => ?_⟩
        cases hother <;> simp_all [Rejection.stage]
      · rename_i htag
        split at h
        · rename_i hfar
          cases h
          refine ⟨.stale hdecode hfar, fun other hother => ?_⟩
          cases hother <;> simp_all [Rejection.stage]
        · rename_i hnear
          split at h
          · rename_i hover
            cases h
            refine ⟨.outOfRange hdecode hover, fun other hother => ?_⟩
            cases hother <;> simp_all [Rejection.stage]
            omega
          · rename_i hrange
            split at h
            · rename_i hseen
              cases h
              refine ⟨.replayed hdecode hseen, fun other hother => ?_⟩
              cases hother <;> simp_all [Rejection.stage]
              omega
            · rename_i hnew
              split at h
              · rename_i hfull
                cases h
                refine ⟨.guardFull hdecode hfull, fun other hother => ?_⟩
                cases hother <;> simp_all [Rejection.stage]
                omega
              · cases h

/-- The verdict is good if and only if nothing speaks against the datagram. -/
theorem judge_eq_ok_iff_decode :
    ev.judge datagram = .ok k ↔
      ∃ received device, Knock.decode datagram = .ok received ∧
        ev.registry.lookup received.knock.device = some device ∧
        Wire.tagHolds device.secret received.authenticated received.tag ∧
        (ev.now.toInt - received.knock.timestamp.toInt).natAbs ≤ ev.tolerance ∧
        ev.deadline < Clock.limit ∧ (received.knock.device, received.knock.nonce) ∉ ev.recent ∧
        ev.recent.card < ev.capacity ∧
        k = ⟨device, received.knock.nonce, received.knock.timestamp, received.knock.token⟩ := by
  unfold judge
  cases hdecode : Knock.decode datagram with
  | error cause => simp
  | ok received =>
    obtain ⟨knock, tag, authenticated⟩ := received
    cases hlookup : ev.registry.lookup knock.device with
    | none => simp [hlookup]
    | some device =>
      simp only [hlookup, Checks.error_if_eq_ok, not_not, not_lt, not_le, Except.ok.injEq]
      constructor
      · rintro ⟨htag, hnear, hrange, hnew, hroom, rfl⟩
        exact ⟨_, device, rfl, hlookup, htag, hnear, hrange, hnew, hroom, rfl⟩
      · rintro ⟨_, device', rfl, hlookup', htag, hnear, hrange, hnew, hroom, rfl⟩
        cases hlookup.symm.trans hlookup'
        exact ⟨htag, hnear, hrange, hnew, hroom, rfl⟩

theorem judge_eq_ok_iff :
    ev.judge datagram = .ok k ↔
      ∃ device knock, ev.registry.lookup knock.device = some device ∧
        Knock.encode device.secret knock = .ok datagram ∧
        (ev.now.toInt - knock.timestamp.toInt).natAbs ≤ ev.tolerance ∧
        ev.deadline < Clock.limit ∧ (knock.device, knock.nonce) ∉ ev.recent ∧
        ev.recent.card < ev.capacity ∧
        k = ⟨device, knock.nonce, knock.timestamp, knock.asRead.token⟩ := by
  rw [judge_eq_ok_iff_decode]
  constructor
  · rintro ⟨received, device, hdecode, hlookup, htag, hrest⟩
    have hencode := Knock.encode_of_decode hdecode htag
    -- What was read has no empty token, so that it is read again as it is.
    have hsame : received.knock.asRead = received.knock := by
      have hread := Knock.decode_of_encode hencode
      rw [hdecode] at hread
      exact (congrArg Knock.Received.knock (Except.ok.inj hread)).symm
    refine ⟨device, received.knock, hlookup, hencode, ?_⟩
    rwa [hsame]
  · rintro ⟨device, knock, hlookup, hencode, hrest⟩
    obtain ⟨received, hdecode, hknock, htag⟩ := Knock.encode_eq_ok_iff.mp hencode
    refine ⟨received, device, hdecode, ?_⟩
    rw [hknock]
    exact ⟨hlookup, htag, hrest⟩

/-- Of what is accepted nothing speaks against. -/
theorem not_objects_of_judge (h : ev.judge datagram = .ok k) : ¬ ev.Objects datagram reason := by
  obtain ⟨received, device, hdecode, hlookup, htag, hnear, hrange, hnew, hroom, -⟩ :=
    judge_eq_ok_iff_decode.mp h
  intro hobjects
  cases hobjects <;> simp_all
  · omega
  · omega
  · omega

/-- What is rejected is rejected for the first objection. -/
theorem judge_eq_error_iff :
    ev.judge datagram = .error reason ↔
      ev.Objects datagram reason ∧
        ∀ other, ev.Objects datagram other → reason.stage ≤ other.stage := by
  refine ⟨objects_of_judge, fun ⟨hobjects, hfirst⟩ => ?_⟩
  cases hjudge : ev.judge datagram with
  | ok k => exact absurd hobjects (not_objects_of_judge hjudge)
  | error reason' =>
    obtain ⟨hobjects', hfirst'⟩ := objects_of_judge hjudge
    -- Both are the first objection, and of one stage there is one.
    have hstage : reason'.stage = reason.stage :=
      Nat.le_antisymm (hfirst' _ hobjects) (hfirst _ hobjects')
    rw [hobjects'.eq_of_stage_eq hobjects hstage]

end Evidence

/-- A validator that weighs timestamps and records as the evidence does judges by it. -/
theorem validate_eq_judge {v : Validator} {clock : Clock} {ev : Evidence}
    (hregistry : v.registry = ev.registry) (hnow : clock.unixSeconds = ev.now)
    (hfresh : ∀ timestamp : Int64, v.isFresh ev.now timestamp ↔
      (ev.now.toInt - timestamp.toInt).natAbs ≤ ev.tolerance)
    (hrecord : ∀ id nonce, (v.replay.record clock.instant id nonce).2 =
      if Clock.limit ≤ ev.deadline then .outOfRange
      else if (id, nonce) ∈ ev.recent then .present
      else if ev.recent.card < ev.capacity then .stored else .full)
    (datagram : Bytes) :
    (v.validate clock datagram).2 = ev.judge datagram := by
  -- Up to the record, both are the same checks in the same order.
  have hexamine : v.examine ev.now datagram =
      match Knock.decode datagram with
      | .error cause => .error (.malformed cause)
      | .ok ⟨knock, tag, authenticated⟩ =>
        match ev.registry.lookup knock.device with
        | none => .error (.unknownDevice knock.device)
        | some device =>
          if !Wire.tagHolds device.secret authenticated tag then .error (.badTag knock.device)
          else if !v.isFresh ev.now knock.timestamp then
            .error (.stale knock.device knock.timestamp ev.now)
          else .ok (device, knock) := by
    rw [examine, hregistry]
    cases Knock.decode datagram <;> rfl
  rw [validate, hnow, hexamine, Evidence.judge]
  cases Knock.decode datagram with
  | error cause => rfl
  | ok received =>
    obtain ⟨knock, tag, authenticated⟩ := received
    have hrecord := hrecord knock.device knock.nonce
    cases hlookup : ev.registry.lookup knock.device with
    | none => simp [hlookup]
    | some device =>
      by_cases htag : Wire.tagHolds device.secret authenticated tag
      · by_cases hnear : v.isFresh ev.now knock.timestamp
        · have hnear' := Nat.not_lt.mpr ((hfresh _).mp hnear)
          -- The record answers for the last three checks.
          by_cases hover : Clock.limit ≤ ev.deadline
          · rw [if_pos hover] at hrecord
            simp [hlookup, htag, hnear, hnear', hover, hrecord]
          · rw [if_neg hover] at hrecord
            by_cases hseen : (knock.device, knock.nonce) ∈ ev.recent
            · rw [if_pos hseen] at hrecord
              simp [hlookup, htag, hnear, hnear', hover, hseen, hrecord]
            · by_cases hroom : ev.recent.card < ev.capacity
              · rw [if_neg hseen, if_pos hroom] at hrecord
                simp [hlookup, htag, hnear, hnear', hover, hseen, hrecord, hroom]
              · rw [if_neg hseen, if_neg hroom] at hrecord
                simp [hlookup, htag, hnear, hnear', hover, hseen, hrecord, hroom]
        · have hfar : ev.tolerance < (ev.now.toInt - knock.timestamp.toInt).natAbs := by
            rwa [hfresh, Nat.not_le] at hnear
          simp [hlookup, htag, hnear, hfar]
      · simp [hlookup, htag]

end Validator

end Perimeter
