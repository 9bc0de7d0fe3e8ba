import Perimeter.Bytes

/-!
# `Perimeter.Text.Duration`: spans of time in words

A span is shown in the largest of seconds, milliseconds, microseconds and
nanoseconds of which it holds at least one, with as many decimals as it needs.

* `decimals_of_dvd`: a whole number of units has no decimals.
-/

set_option autoImplicit false

namespace Perimeter.Text

/-- A unit of time. -/
structure TimeUnit where
  name : String
  nanoseconds : Nat
  /-- The number of decimals that reach down to nanoseconds. -/
  places : Nat

/-- The units from the largest down to the one before the last. -/
def timeUnits : List TimeUnit :=
  [⟨"s", 10 ^ 9, 9⟩, ⟨"ms", 10 ^ 6, 6⟩, ⟨"µs", 10 ^ 3, 3⟩]

/-- The smallest unit. -/
def nanosecond : TimeUnit := ⟨"ns", 1, 0⟩

/-- The unit in which a span of nanoseconds is shown. -/
def unitFor (span : Nat) : TimeUnit :=
  (timeUnits.find? fun u => u.nanoseconds ≤ span).getD nanosecond

/-- The digits of a number, filled up with zeros in front. -/
def paddedDigits (places n : Nat) : List Char :=
  let digits := Nat.toDigits 10 n
  List.replicate (places - digits.length) '0' ++ digits

/-- A point and the decimals of a fraction, without zeros at the end. -/
def decimals (places fraction : Nat) : List Char :=
  if fraction = 0 then []
  else '.' :: ((paddedDigits places fraction).reverse.dropWhile (· = '0')).reverse

/-- A span of nanoseconds in words. -/
def duration (span : Nat) : String :=
  let unit := unitFor span
  let fraction := decimals unit.places (span % unit.nanoseconds)
  s!"{span / unit.nanoseconds}" ++ String.ofList fraction ++ unit.name

theorem decimals_of_dvd (unit : TimeUnit) {span : Nat} (h : unit.nanoseconds ∣ span) :
    decimals unit.places (span % unit.nanoseconds) = [] := by
  rw [Nat.mod_eq_zero_of_dvd h]
  rfl

end Perimeter.Text
