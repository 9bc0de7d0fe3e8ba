import Perimeter.Validation

/-!
# `Perimeter.KnockPort`: the port that knocks arrive at

The controller and the gateway listen for knocks in the same way. Every datagram is
counted once under what became of it, and nothing is said to the sender of one that
does not count. If the check of a datagram breaks down, the datagram has been counted
as received and is counted nowhere else, and the port goes on with the next.

The buffer of the port is one octet longer than a knock can be. A datagram that fills
it is too long, however long it is, and is not looked at.

* `receive`: what a datagram comes to, and where it is counted.
-/

set_option autoImplicit false

namespace Perimeter

/-- What became of the datagrams at a port. -/
structure PortCounters where
  received : Nat := 0
  oversized : Nat := 0
  /-- Those that came while too many others were being looked at. -/
  saturated : Nat := 0
  malformed : Nat := 0
  unknownDevice : Nat := 0
  badTag : Nat := 0
  stale : Nat := 0
  replayed : Nat := 0
  guardFull : Nat := 0
  accepted : Nat := 0
  replies : Nat := 0
deriving DecidableEq

namespace PortCounters

/-- The number of datagrams that no knock came of. -/
def dropped (c : PortCounters) : Nat :=
  c.oversized + c.saturated + c.malformed + c.unknownDevice + c.badTag + c.stale +
    c.replayed + c.guardFull

/-- Counts a rejection, but not a breakdown. -/
def reject (c : PortCounters) : Rejection → PortCounters
  | .malformed _ => { c with malformed := c.malformed + 1 }
  | .unknownDevice _ => { c with unknownDevice := c.unknownDevice + 1 }
  | .badTag _ => { c with badTag := c.badTag + 1 }
  | .stale .. => { c with stale := c.stale + 1 }
  | .replayed _ => { c with replayed := c.replayed + 1 }
  | .guardFull _ => { c with guardFull := c.guardFull + 1 }
  | .outOfRange => c

end PortCounters

/-- A port with its checks. -/
structure KnockPort where
  validator : Validator
  counters : PortCounters
  /-- How many datagrams are looked at at a time. -/
  maxInflight : Nat

namespace KnockPort

/-- A port that nothing has arrived at yet. One datagram at least is looked at at a
time. -/
def new (validator : Validator) (maxInflight : Nat) : KnockPort :=
  ⟨validator, {}, max 1 maxInflight⟩

/-- A datagram as the buffer holds it. -/
def cut (datagram : Bytes) : Bytes := datagram.take (Knock.maxLength + 1)

/-- Takes a datagram in while so many others are being looked at, and gives the knock
that it is. -/
def receive (p : KnockPort) (clock : Clock) (inflight : Nat) (datagram : Bytes) :
    KnockPort × Option ValidatedKnock :=
  let seen := { p.counters with received := p.counters.received + 1 }
  -- The buffer is full: how much longer the datagram was is not known.
  if Knock.maxLength < (cut datagram).length then
    ({ p with counters := { seen with oversized := seen.oversized + 1 } }, none)
  else if p.maxInflight ≤ inflight then
    ({ p with counters := { seen with saturated := seen.saturated + 1 } }, none)
  else match p.validator.validate clock (cut datagram) with
    | (validator, .error reason) =>
      ({ p with validator, counters := seen.reject reason }, none)
    | (validator, .ok knock) =>
      ({ p with validator, counters := { seen with accepted := seen.accepted + 1 } }, some knock)

/-- Counts a reply. -/
def replied (p : KnockPort) : KnockPort :=
  { p with counters := { p.counters with replies := p.counters.replies + 1 } }

/-- Forgets the knocks that could not be fresh any more. -/
def sweep (p : KnockPort) (clock : Clock) : KnockPort :=
  { p with validator := { p.validator with
      replay := p.validator.replay.sweep clock.instant } }

end KnockPort

end Perimeter
