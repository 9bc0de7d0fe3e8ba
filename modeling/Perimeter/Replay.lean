import Perimeter.Store
import Perimeter.Wire.Message

/-!
# `Perimeter.Replay`: accepted knocks are remembered

A knock counts once. The guard keeps the identifier and the nonce of every
accepted knock until the same datagram could no longer be fresh: twice the allowed
difference of the clocks and a margin. A full guard refuses what it cannot record.

* `retention_forSkew`: how long a record is kept.
-/

set_option autoImplicit false

namespace Perimeter

/-- Milliseconds in a second. -/
def secondMs : Nat := 1000

/-- Nanoseconds in a millisecond. -/
def millisecondNs : Nat := 1000000

/-- The records of accepted knocks. -/
structure ReplayGuard where
  records : Store (DeviceId × Nonce) Unit
  /-- How long a record is kept, in milliseconds. -/
  retention : Nat

namespace ReplayGuard

/-- What is added to the window of fresh timestamps, in milliseconds. -/
def margin : Nat := 5 * secondMs

/-- The number of records unless a configuration says otherwise. -/
def defaultCapacity : Nat := 100000

/-- How long a record must be kept for an allowed difference of the clocks. -/
def retentionFor (skew : Nat) : Nat := skew * 2 + margin

/-- A guard without records for an allowed difference of the clocks in nanoseconds. The
clock shows whole milliseconds: a record that ends between two readings is there at the
first and gone at the second. -/
def ofNanoseconds (skew capacity : Nat) : ReplayGuard :=
  ⟨Store.empty capacity .refuseNew Store.defaultSweepEvery,
    (skew * 2 + margin * millisecondNs + (millisecondNs - 1)) / millisecondNs⟩

/-- A guard without records for an allowed difference of the clocks. -/
def forSkew (skew capacity : Nat) : ReplayGuard := ofNanoseconds (skew * millisecondNs) capacity

/-- Records an accepted knock. -/
def record (g : ReplayGuard) (now : Nat) (id : DeviceId) (nonce : Nonce) :
    ReplayGuard × Insertion :=
  let (records, outcome) := g.records.insertIfAbsent now (id, nonce) () g.retention
  ({ g with records }, outcome)

/-- Whether a knock is recorded. An expired record is removed by the question. -/
def check (g : ReplayGuard) (now : Nat) (id : DeviceId) (nonce : Nonce) : ReplayGuard × Bool :=
  let (records, found) := g.records.lookup now (id, nonce)
  ({ g with records }, found.isSome)

/-- Drops the records that have expired. -/
def sweep (g : ReplayGuard) (now : Nat) : ReplayGuard := { g with records := g.records.sweep now }

/-- The number of records, those expired included. -/
def size (g : ReplayGuard) : Nat := g.records.size

theorem retention_forSkew (skew capacity : Nat) :
    (forSkew skew capacity).retention = retentionFor skew := by
  simp only [forSkew, ofNanoseconds, retentionFor, millisecondNs]
  omega

end ReplayGuard

end Perimeter
