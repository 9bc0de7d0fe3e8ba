import Perimeter.KnockPort
import Perimeter.Settings.Error
import Perimeter.Token

/-!
# `Perimeter.Start`: what can keep a server from starting

A server is started from a configuration. The settings must be usable and the devices
must make a registry. Two numbers are not checked beforehand: the time that knocks are
remembered for has to fit a machine word, and so many datagrams or connections at a
time as a configuration may ask for are not to be had. A server stops short at either.

* `Start.validator_ok_iff`: which differences of the clocks can be allowed.
-/

set_option autoImplicit false

namespace Perimeter

/-- What a server has the secret behind the tokens for. -/
inductive TokenRole where
  | issuer
  | verifier
deriving DecidableEq

/-- The role as messages call it. -/
def TokenRole.name : TokenRole → String
  | issuer => "token issuer"
  | verifier => "token verifier"

/-- Why a server does not start. -/
inductive StartError where
  | config (cause : Settings.Cause)
  | registry (cause : RegistryError)
  | token (role : TokenRole) (cause : Token.Error)
  /-- The time that knocks are remembered for is out of range. -/
  | retentionOverflow
  /-- More is to be done at a time than can be. -/
  | permitOverflow
deriving DecidableEq

/-- The error in words. There are none for a number out of range. -/
def StartError.message? : StartError → Option String
  | config cause => some (Settings.Error.invalid cause).message
  | registry cause => some s!"device registry: {cause.message}"
  | token role cause => cause.message?.map fun words => s!"{role.name}: {words}"
  | retentionOverflow => none
  | permitOverflow => none

namespace Start

/-- Checks for a difference of the clocks in seconds, if the time that follows from it
fits a machine word. -/
def validator (registry : Registry) (skew : UInt64) (capacity : Nat) :
    Except StartError Validator :=
  if ReplayGuard.retentionFor (skew.toNat * secondMs) / secondMs < 2 ^ 64 then
    .ok (Validator.new registry (skew.toNat * secondMs) capacity)
  else .error .retentionOverflow

/-- How much can be done at a time at most. -/
def maxPermits : Nat := 2 ^ 61 - 1

/-- So much at a time, and one at least. -/
def permits (n : UInt64) : Except StartError Nat :=
  if n.toNat ≤ maxPermits then .ok (max 1 n.toNat) else .error .permitOverflow

theorem validator_ok_iff {registry : Registry} {skew : UInt64} {capacity : Nat} :
    (∃ v, validator registry skew capacity = .ok v) ↔ 2 * skew.toNat + 5 < 2 ^ 64 := by
  have h : ReplayGuard.retentionFor (skew.toNat * secondMs) / secondMs = 2 * skew.toNat + 5 := by
    simp only [ReplayGuard.retentionFor, ReplayGuard.margin, secondMs]
    omega
  unfold validator
  rw [h]
  split
  next hfits => exact iff_of_true ⟨_, rfl⟩ hfits
  next hover =>
    refine iff_of_false (fun hstart => ?_) hover
    obtain ⟨v, hv⟩ := hstart
    cases hv

end Start

end Perimeter
