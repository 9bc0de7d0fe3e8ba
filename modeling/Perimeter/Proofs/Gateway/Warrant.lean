import Perimeter.Gateway.Server
import Perimeter.Proofs.Gateway.Admission
import Perimeter.Proofs.Validation.Port
import Perimeter.Proofs.Wire.Knock

/-!
# `Perimeter.Proofs.Gateway.Warrant`: what an admitted datagram was worth

A datagram that the gateway admits has passed the port, the validator, the doorkeeper and,
where tokens are asked for, the policy on tokens. `Warrants` gathers what all of them have
established, in terms of the registry, the clock and the policies of that moment:
`warrants_of_admits`.

An admission is all that a datagram can change in the gate (`gate_knock_of_admits`,
`gate_knock_of_not_admits`).
-/

set_option autoImplicit false

namespace Perimeter

namespace Gateway.Server

/-- A datagram from an address is admitted as a knock. -/
def Admits (s : Server) (clock : Clock) (source : IpAddress) (datagram : Bytes)
    (k : ValidatedKnock) : Prop :=
  (s.port.receive clock 0 datagram).2 = some k ∧
    (s.doorkeeper.consider clock k source).2 = .ok ()

/-- What makes a datagram worth an admission. -/
structure Warrants (s : Server) (clock : Clock) (datagram : Bytes) (k : ValidatedKnock) :
    Prop where
  /-- The device is registered as it is admitted. -/
  registered : s.registry.lookup k.device.id = some k.device
  /-- The datagram is what the device's secret makes of the knock. -/
  genuine : Knock.encode k.device.secret k.knock = .ok datagram
  fresh : (clock.unixSeconds.toInt - k.timestamp.toInt).natAbs ≤
    s.port.validator.skew / secondMs
  permitted : k.device.permits s.doorkeeper.service
  /-- Where tokens are asked for, the knock carries one for the device and the service. -/
  vouched : ∀ policy, s.doorkeeper.tokens = some policy → ∃ token claims,
    k.token = some token ∧ policy.verifier.verify token clock.unixSeconds = .ok claims ∧
      claims.subject = k.device.id.text ∧ claims.allows s.doorkeeper.service

variable {s : Server} {clock : Clock} {source : IpAddress} {datagram : Bytes}
  {k : ValidatedKnock}

/-- What is admitted was worth it. -/
theorem warrants_of_admits (h : s.Admits clock source datagram k) :
    s.Warrants clock datagram k := by
  obtain ⟨hreceive, hconsider⟩ := h
  obtain ⟨received, hdecode, hknock, hlookup, htag, hfresh, -⟩ :=
    Validator.validate_ok_iff.mp (KnockPort.validate_of_receive hreceive)
  obtain ⟨hpermits, -, hchecks⟩ := Doorkeeper.consider_ok_iff.mp hconsider
  refine ⟨hlookup, ?_, ?_, hpermits, ?_⟩
  · rw [← hknock]
    exact Knock.encode_of_decode hdecode htag
  · simpa [Validator.isFresh] using hfresh
  · intro policy hpolicy
    obtain ⟨token, htoken, hcheck⟩ := hchecks policy hpolicy
    obtain ⟨claims, hexamine, -⟩ := TokenPolicy.check_ok_iff.mp hcheck
    obtain ⟨hverify, hsubject, hscope⟩ := TokenPolicy.examine_ok_iff.mp hexamine
    exact ⟨token, claims, htoken, hverify, hsubject, hscope⟩

/-- An admitted datagram lets its address in on behalf of its device. -/
theorem gate_knock_of_admits (h : s.Admits clock source datagram k) :
    (s.knock clock source datagram).doorkeeper.gate =
      s.doorkeeper.gate.withAdmission clock source k.device := by
  obtain ⟨hreceive, hconsider⟩ := h
  have hafter := Doorkeeper.consider_fst_of_ok hconsider
  unfold knock
  split
  · rename_i port hport
    rw [hport] at hreceive
    cases hreceive
  · rename_i port found hport
    rw [hport] at hreceive
    cases hreceive
    simp only [Doorkeeper.onKnock]
    split
    · rename_i after hok
      rw [hok] at hafter
      exact congrArg Doorkeeper.gate hafter
    · rename_i after reason herror
      rw [herror] at hconsider
      cases hconsider

/-- A datagram that is not admitted leaves the gate alone. -/
theorem gate_knock_of_not_admits (h : ∀ k, ¬ s.Admits clock source datagram k) :
    (s.knock clock source datagram).doorkeeper.gate = s.doorkeeper.gate := by
  unfold knock
  split
  · rfl
  · rename_i port found hport
    have hreceive : (s.port.receive clock 0 datagram).2 = some found := by rw [hport]
    -- The port gave a knock, so it is the doorkeeper that refused it or broke down.
    simp only [Doorkeeper.onKnock]
    split
    · rename_i after hok
      exact absurd ⟨hreceive, by rw [hok]⟩ (h found)
    · rename_i after reason herror
      have hgate := Doorkeeper.gate_consider_of_error (congrArg Prod.snd herror)
      rw [herror] at hgate
      split <;> exact hgate

end Gateway.Server

end Perimeter
