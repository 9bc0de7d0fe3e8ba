import Perimeter.Clock
import Perimeter.Registry
import Perimeter.Replay
import Perimeter.Wire.Knock

/-!
# `Perimeter.Validation`: which knocks count

A datagram becomes a knock that counts if it reads as one, names a registered
device, carries that device's tag, is fresh, and was not seen before. The record
against reuse is written last, so that nothing forged or stale takes up room or
uses up a nonce. The sender is told none of this: the reasons are for counters.

The time that a record is kept has no upper bound. If it is so long that the machine
has no number for its end, a knock that has come that far makes the check break down.

* `ValidatedKnock`: a knock that passed every check.
-/

set_option autoImplicit false

namespace Perimeter

/-- Why a datagram does not count. -/
inductive Rejection where
  | malformed (cause : Wire.Error)
  | unknownDevice (id : DeviceId)
  | badTag (id : DeviceId)
  | stale (id : DeviceId) (timestamp now : Int64)
  | replayed (id : DeviceId)
  | guardFull (id : DeviceId)
  /-- The check broke down over the time that the knock would be remembered for. -/
  | outOfRange
deriving DecidableEq

namespace Rejection

/-- The counter that the rejection belongs to. A breakdown is counted nowhere. -/
def label? : Rejection → Option String
  | malformed _ => some "malformed"
  | unknownDevice _ => some "unknown_device"
  | badTag _ => some "bad_tag"
  | stale .. => some "stale"
  | replayed _ => some "replayed"
  | guardFull _ => some "guard_full"
  | outOfRange => none

/-- The rejection in words. There are none for a breakdown. -/
def message? : Rejection → Option String
  | malformed cause => some s!"malformed knock: {cause.message}"
  | unknownDevice id => some s!"unknown device {id.text}"
  | badTag id => some s!"knock tag does not verify for device {id.text}"
  | stale id timestamp now =>
    some s!"knock from {id.text} is stale: timestamp {timestamp.toInt}, now {now.toInt}"
  | replayed id => some s!"knock from {id.text} replays an accepted nonce"
  | guardFull id => some s!"replay guard is full, knock from {id.text} cannot be recorded"
  | outOfRange => none

end Rejection

/-- A knock that passed every check, with the device as registered at that moment. -/
structure ValidatedKnock where
  device : Device
  nonce : Nonce
  timestamp : Int64
  token : Option String
deriving DecidableEq

/-- What the checks need to know and to remember. -/
structure Validator where
  registry : Registry
  replay : ReplayGuard
  /-- The allowed difference of the clocks, in milliseconds. -/
  skew : Nat

namespace Validator

/-- A validator that has accepted nothing yet, for an allowed difference of the clocks
in nanoseconds. -/
def ofNanoseconds (registry : Registry) (skew capacity : Nat) : Validator :=
  ⟨registry, ReplayGuard.ofNanoseconds skew capacity, skew / millisecondNs⟩

/-- A validator that has accepted nothing yet. -/
def new (registry : Registry) (skew capacity : Nat) : Validator :=
  ofNanoseconds registry (skew * millisecondNs) capacity

/-- Whether a timestamp differs from the present by no more whole seconds than the
allowed difference has. -/
def isFresh (v : Validator) (now timestamp : Int64) : Bool :=
  (now.toInt - timestamp.toInt).natAbs ≤ v.skew / secondMs

/-- The checks that leave no trace: everything but the record against reuse. -/
def examine (v : Validator) (now : Int64) (datagram : Bytes) :
    Except Rejection (Device × Knock) := do
  let received ← (Knock.decode datagram).mapError .malformed
  let knock := received.knock
  match v.registry.lookup knock.device with
  | none => .error (.unknownDevice knock.device)
  | some device =>
    -- The tag comes first: of a knock that nobody vouches for, not even the time is believed.
    if !Wire.tagHolds device.secret received.authenticated received.tag then
      .error (.badTag knock.device)
    else if !v.isFresh now knock.timestamp then
      .error (.stale knock.device knock.timestamp now)
    else .ok (device, knock)

/-- Checks a datagram and records it if it counts. -/
def validate (v : Validator) (clock : Clock) (datagram : Bytes) :
    Validator × Except Rejection ValidatedKnock :=
  match v.examine clock.unixSeconds datagram with
  | .error reason => (v, .error reason)
  | .ok (device, knock) =>
    -- Only now is anything remembered.
    let (replay, outcome) := v.replay.record clock.instant knock.device knock.nonce
    let after := { v with replay }
    match outcome with
    | .stored => (after, .ok ⟨device, knock.nonce, knock.timestamp, knock.token⟩)
    | .present => (after, .error (.replayed knock.device))
    | .full => (after, .error (.guardFull knock.device))
    | .outOfRange => (after, .error .outOfRange)

end Validator

end Perimeter
