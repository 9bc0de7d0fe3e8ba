import Perimeter.Bytes

/-!
# `Perimeter.Clock`: the two readings of time

Messages between machines carry Unix seconds. Records that never leave a machine
expire by an instant of a clock that only moves forward. One value gives both
readings: it starts at a number of Unix seconds and counts whole milliseconds.

A machine has no number for an instant too far in the future (`limit`). Whatever
would have to name one breaks down.

* `instant_advance`: how far an advance moves the instant.
-/

set_option autoImplicit false

namespace Perimeter

/-- A clock that moves when told to. The Unix seconds and the time since the start
wrap like machine words. -/
structure Clock where
  /-- Unix seconds at the start. -/
  start : Int64
  /-- The instant at the start, in milliseconds. It is the machine's own and says
  nothing about the Unix seconds. -/
  origin : Nat
  /-- Milliseconds since the start. -/
  elapsed : UInt64
deriving DecidableEq

namespace Clock

/-- The first instant that a machine has no number for, in milliseconds: the seconds
of an instant are a signed word. An end between two milliseconds counts as the later one. -/
def limit : Nat := 2 ^ 63 * 1000

/-- A clock at its start. -/
def startingAt (unixSeconds : Int64) : Clock := ⟨unixSeconds, 0, 0⟩

/-- The Unix seconds, without the part of a second that has passed. -/
def unixSeconds (c : Clock) : Int64 := c.start + (c.elapsed / 1000).toInt64

/-- The instant, in milliseconds. -/
def instant (c : Clock) : Nat := c.origin + c.elapsed.toNat

/-- Moves the clock forward by milliseconds. -/
def advance (c : Clock) (ms : Nat) : Clock := { c with elapsed := c.elapsed + UInt64.ofNat ms }

theorem elapsed_advance {c : Clock} {ms : Nat} (h : c.elapsed.toNat + ms < 2 ^ 64) :
    (c.advance ms).elapsed.toNat = c.elapsed.toNat + ms := by
  simp only [advance, UInt64.toNat_add, UInt64.toNat_ofNat']
  omega

theorem instant_advance {c : Clock} {ms : Nat} (h : c.elapsed.toNat + ms < 2 ^ 64) :
    (c.advance ms).instant = c.instant + ms := by
  rw [instant, elapsed_advance h, instant, Nat.add_assoc]
  rfl

end Clock

end Perimeter
