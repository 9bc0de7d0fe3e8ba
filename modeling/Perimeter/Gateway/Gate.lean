import Perimeter.Clock
import Perimeter.Device
import Perimeter.Net.Address
import Perimeter.Store

/-!
# `Perimeter.Gateway.Gate`: which addresses may connect

A knock that was admitted opens the gateway for the address it came from, for a
while and for one connection. The record of it is consumed by the first attempt
to connect, whatever comes of that attempt. How long a record counts has no upper bound: to
let an address in breaks down if the machine has no number for the end of its record.

Records are kept by address alone, because a connection leaves from another port
than the knock did. A gate full of records drops the one closest to expiry: its
address has to knock again.

* `take_snd`: what an attempt to connect finds is the live record of its address.
-/

set_option autoImplicit false

namespace Perimeter

/-- The record of an admitted knock. -/
structure Admission where
  /-- The device that knocked. -/
  device : Device
  /-- Unix seconds at which the knock was admitted. -/
  admittedAt : Int64
deriving DecidableEq

/-- The addresses that may connect. -/
structure AdmissionGate where
  entries : Store IpAddress Admission
  /-- How long an admission counts, in milliseconds. -/
  ttl : Nat

namespace AdmissionGate

/-- A gate that admits nobody yet. -/
def new (ttl capacity : Nat) : AdmissionGate :=
  ⟨Store.empty capacity .evictEarliest Store.defaultSweepEvery, ttl⟩

/-- Admits an address for a device. A newer admission replaces the older one. There is nothing if
it broke down, and then nobody has been admitted. -/
def letIn (g : AdmissionGate) (clock : Clock) (ip : IpAddress) (device : Device) :
    Option AdmissionGate :=
  -- A gate is never full for a new address, so that it is stored if there is an answer.
  match g.entries.upsert clock.instant ip ⟨device, clock.unixSeconds⟩ g.ttl with
  | (entries, some _) => some { g with entries }
  | (_, none) => none

/-- Consumes the admission of an address. -/
def take (g : AdmissionGate) (clock : Clock) (ip : IpAddress) :
    AdmissionGate × Option Admission :=
  let (entries, found) := g.entries.take clock.instant ip
  ({ g with entries }, found)

/-- Whether an address is admitted. An expired admission is removed by the question. -/
def isAdmitted (g : AdmissionGate) (clock : Clock) (ip : IpAddress) : AdmissionGate × Bool :=
  let (entries, found) := g.entries.lookup clock.instant ip
  ({ g with entries }, found.isSome)

/-- Drops the admissions that have expired. -/
def sweep (g : AdmissionGate) (clock : Clock) : AdmissionGate :=
  { g with entries := g.entries.sweep clock.instant }

/-- The number of admissions, those expired included. -/
def size (g : AdmissionGate) : Nat := g.entries.size

theorem take_snd (g : AdmissionGate) (clock : Clock) (ip : IpAddress) :
    (g.take clock ip).2 = g.entries.get? clock.instant ip := rfl

end AdmissionGate

end Perimeter
