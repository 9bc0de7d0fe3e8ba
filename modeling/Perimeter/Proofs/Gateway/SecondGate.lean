import Perimeter.Gateway.Server

/-!
# `Perimeter.Proofs.Gateway.SecondGate`: the device as it is registered now

An admission remembers the device that knocked. By the time the device connects, it may have
been removed, or registered with another certificate or other services. The second gate takes no
more than the identifier from the admission, and everything else from the registry of the moment
(`second_gate_follows_registry`).

`Meets` says what the certificates of a handshake have to be for a binding, and
`authenticate_eq_ok_iff` that nothing else is asked of them.
-/

set_option autoImplicit false

namespace Perimeter.Gateway.Server

/-- A certificate, with those sent along, satisfies a binding. -/
inductive Meets (authority : Option Tls.Authority) (own : Bytes) (others : List Bytes) :
    IdentityBinding → Prop where
  /-- The digest of its octets is the one pinned. -/
  | pinned : Meets authority own others (.fingerprint (Sha256.digest own))
  /-- The authority vouches for the chain, and the common name is the one bound. -/
  | named {a : Tls.Authority} {name : String} (hauthority : authority = some a)
    (hvouches : a.vouches (.ofCertificates own others))
    (hname : Tls.Certificate.commonName? own = some name) :
    Meets authority own others (.commonName name)

variable {s : Server} {registry : Registry} {authority : Option Tls.Authority}
  {admission : Admission} {handshake : Handshake} {own : Bytes} {others : List Bytes}
  {device : Device}

/-- A pinned digest is satisfied by its certificate alone. -/
theorem Meets.digest_eq {digest : Octets 32}
    (h : Meets authority own others (.fingerprint digest)) : digest = Sha256.digest own := by
  cases h
  rfl

/-- A verifier accepts what its authority vouches for, if it has one, and its binding is met
by. -/
theorem check_eq_ok_iff {verifier : Tls.ClientVerifier} {presented : Tls.Presented} :
    verifier.check presented = .ok () ↔
      (∀ a, verifier.authority = some a → a.vouches presented) ∧
        verifier.binding.isMetBy presented.holder := by
  have hbinding : (if verifier.binding.isMetBy presented.holder then .ok ()
      else .error Tls.Mismatch.unbound : Except Tls.Mismatch Unit) = .ok () ↔
      verifier.binding.isMetBy presented.holder := by
    split <;> simp_all
  unfold Tls.ClientVerifier.check
  cases verifier.authority with
  | none => simp [hbinding]
  | some a => cases hvouches : a.vouches presented <;> simp [hvouches, hbinding]

/-- A device's verifier lets those certificates pass that satisfy the device's binding. -/
theorem check_forDevice_iff :
    (∃ verifier, Tls.ClientVerifier.forDevice device authority = .ok verifier ∧
      verifier.check (.ofCertificates own others) = .ok ()) ↔
      Meets authority own others device.identity := by
  unfold Tls.ClientVerifier.forDevice
  -- A pinned certificate needs no authority, and a name is nothing without one.
  cases device.identity with
  | fingerprint digest =>
    simp only [IdentityBinding.requiresAuthority, Bool.false_eq_true, if_false, Except.ok.injEq,
      exists_eq_left', check_eq_ok_iff, reduceCtorEq, false_implies, implies_true, true_and,
      IdentityBinding.isMetBy, decide_eq_true_eq]
    exact ⟨fun hdigest => hdigest ▸ .pinned, Meets.digest_eq⟩
  | commonName name =>
    simp only [IdentityBinding.requiresAuthority, if_true]
    cases authority with
    | none =>
      constructor
      · rintro ⟨_, hverifier, -⟩
        cases hverifier
      · intro hmeets
        cases hmeets with
        | named hauthority => cases hauthority
    | some a =>
      simp only [Except.ok.injEq, exists_eq_left', check_eq_ok_iff, Option.some.injEq,
        forall_eq', IdentityBinding.isMetBy, decide_eq_true_eq]
      constructor
      · rintro ⟨hvouches, hname⟩
        exact .named rfl hvouches hname
      · intro hmeets
        cases hmeets with
        | named hauthority hvouches hname =>
          cases hauthority
          exact ⟨hvouches, hname⟩

/-- Those pass the second gate whose certificates satisfy the binding that is registered under
the identifier in the admission. -/
theorem authenticate_eq_ok_iff :
    authenticate registry authority admission (.ofCertificates own others) = .ok device ↔
      registry.lookup admission.device.id = some device ∧
        Meets authority own others device.identity := by
  rw [authenticate_ok_iff, ← check_forDevice_iff]
  simp only [verifierFor_eq_ok_iff, and_assoc, exists_and_left]

/-- Nobody passes the second gate without presenting certificates. -/
theorem secondGate_eq_ok_iff :
    s.secondGate admission handshake = some (.ok device) ↔
      ∃ presented, handshake = .presenting presented ∧
        authenticate s.registry s.authority admission presented = .ok device := by
  cases handshake with
  | presenting presented => simp [secondGate]
  | silent | broken | anonymous =>
    simp only [secondGate, reduceCtorEq, false_and, exists_false, iff_false]
    split <;> simp_all

/-- Connections are established for those who pass the second gate while there is room. -/
theorem serve_established_iff :
    (s.serve admission handshake).2 = .established device ↔
      s.pending + s.held < s.maxConnections ∧
        s.secondGate admission handshake = some (.ok device) := by
  unfold serve
  split
  · rename_i hfull
    simp [Nat.not_lt.mpr hfull]
  · rename_i hroom
    simp only [Nat.not_le.mp hroom, true_and]
    split <;> simp_all

/-- A device bound by a name fails at the second gate before the handshake if nobody vouches for
devices. -/
theorem secondGate_of_missing_authority {name : String}
    (hlookup : s.registry.lookup admission.device.id = some device)
    (hidentity : device.identity = .commonName name) (hauthority : s.authority = none)
    (handshake : Handshake) :
    s.secondGate admission handshake =
      some (.error (.verifier (.missingAuthority device.id))) := by
  have hverifier : verifierFor s.registry s.authority admission.device.id =
      .error (.verifier (.missingAuthority device.id)) := by
    simp [verifierFor, hlookup, Tls.ClientVerifier.forDevice, hidentity,
      IdentityBinding.requiresAuthority, hauthority]
  -- The verifier is made before anything of the handshake is looked at.
  cases handshake with
  | presenting presented => simp only [secondGate, authenticate, hverifier]
  | silent | broken | anonymous => simp only [secondGate, hverifier]

/-- Nothing but the identifier of an admission reaches the second gate. -/
theorem serve_congr {other : Admission} (hid : other.device.id = admission.device.id)
    (handshake : Handshake) : s.serve other handshake = s.serve admission handshake := by
  have hgate : s.secondGate other handshake = s.secondGate admission handshake := by
    cases handshake <;> simp only [secondGate, authenticate, hid]
  simp only [serve, hgate]

/-- A connection is established for those who come from an admitted address while there is room,
and satisfy the binding that is registered for the admitted device. -/
theorem connect_established_iff {clock : Clock} {source : IpAddress} :
    (s.connect clock source (.presenting (.ofCertificates own others))).2 = .established device ↔
      ∃ admission, (s.doorkeeper.gate.take clock source).2 = some admission ∧
        s.pending + s.held < s.maxConnections ∧
        s.registry.lookup admission.device.id = some device ∧
        Meets s.authority own others device.identity := by
  unfold connect
  dsimp only
  split
  · simp [*]
  · rename_i admission htaken
    -- What the first gate changes is nothing that the second one looks at.
    simp only [serve_established_iff, secondGate, Option.some.injEq, authenticate_eq_ok_iff,
      htaken, exists_eq_left']
    exact Iff.rfl

/-- The second gate goes by the registry of the moment. Whatever an admission says of a device, a
connection is established only with certificates, for the device that is registered now under the
identifier in the admission, and with such certificates as satisfy the binding registered now.
A device that is bound by a name is refused as long as nobody vouches for devices. Admissions
with the same identifier come to the same. -/
theorem second_gate_follows_registry (s : Server) (admission : Admission) :
    (∀ handshake device, (s.serve admission handshake).2 = .established device →
      s.registry.lookup admission.device.id = some device ∧
        ∃ presented, handshake = .presenting presented) ∧
    (∀ own others device,
      (s.serve admission (.presenting (.ofCertificates own others))).2 = .established device ↔
        s.pending + s.held < s.maxConnections ∧
        s.registry.lookup admission.device.id = some device ∧
        Meets s.authority own others device.identity) ∧
    (∀ device name, s.registry.lookup admission.device.id = some device →
      device.identity = .commonName name → s.authority = none → ∀ handshake,
        s.secondGate admission handshake =
          some (.error (.verifier (.missingAuthority device.id))) ∧
        ∀ device', (s.serve admission handshake).2 ≠ .established device') ∧
    ∀ other : Admission, other.device.id = admission.device.id →
      ∀ handshake, s.serve other handshake = s.serve admission handshake := by
  refine ⟨?established, ?certificates, ?unvouched, fun _ hid => serve_congr hid⟩
  case established =>
    intro handshake device hestablished
    obtain ⟨-, hgate⟩ := serve_established_iff.mp hestablished
    obtain ⟨presented, rfl, hauthenticate⟩ := secondGate_eq_ok_iff.mp hgate
    obtain ⟨verifier, hverifier, -⟩ := authenticate_ok_iff.mp hauthenticate
    exact ⟨(verifierFor_eq_ok_iff.mp hverifier).1, presented, rfl⟩
  case certificates =>
    intro own others device
    simp only [serve_established_iff, secondGate, Option.some.injEq, authenticate_eq_ok_iff]
  case unvouched =>
    intro device name hlookup hidentity hauthority handshake
    have hgate := secondGate_of_missing_authority hlookup hidentity hauthority handshake
    refine ⟨hgate, fun device' hestablished => ?_⟩
    cases hgate.symm.trans (serve_established_iff.mp hestablished).2

/-- A tablet that was registered with another secret and another certificate after it had
knocked, and a laptop that is bound by a name where nobody vouches. -/
theorem second_gate_follows_registry_of_renewed :
    let pinned (letter : UInt8) (certificate : Bytes) : Device :=
      ⟨⟨"tablet", by decide, by decide⟩, ⟨List.replicate 16 letter, Nat.le_refl 16⟩,
        .fingerprint (Sha256.digest certificate), []⟩
    let laptop : Device :=
      ⟨⟨"laptop", by decide, by decide⟩, ⟨List.replicate 16 8, by decide⟩, .commonName "laptop", []⟩
    let server : Server := {
      port := .new (.new ((Registry.empty.upsert (pinned 2 [2])).upsert laptop) 30000 10) 1
      doorkeeper := .new (.new 30000 10) "ssh" none
      authority := none
      counters := {}
      maxConnections := 10
      pending := 0
      held := 0 }
    (server.serve ⟨pinned 1 [1], 0⟩ (.presenting (.ofCertificates [2] []))).2 =
        .established (pinned 2 [2]) ∧
      (∀ device, (server.serve ⟨pinned 1 [1], 0⟩ (.presenting (.ofCertificates [1] []))).2 ≠
        .established device) ∧
      (∀ device, (server.serve ⟨laptop, 0⟩ .anonymous).2 ≠ .established device) ∧
      server.serve ⟨pinned 1 [1], 0⟩ .anonymous = server.serve ⟨pinned 2 [2], 5⟩ .anonymous := by
  intro pinned laptop server
  obtain ⟨-, hcertificates, -, hsame⟩ := second_gate_follows_registry server ⟨pinned 1 [1], 0⟩
  have hregistered : server.registry.lookup (pinned 1 [1]).id = some (pinned 2 [2]) := rfl
  refine ⟨(hcertificates ..).mpr ⟨by decide, hregistered, .pinned⟩, ?_, ?_, (hsame _ rfl _).symm⟩
  · intro device hestablished
    obtain ⟨-, hlookup, hmeets⟩ := (hcertificates ..).mp hestablished
    obtain rfl := Option.some.inj (hregistered.symm.trans hlookup)
    exact absurd hmeets.digest_eq (by decide +kernel)
  · exact ((second_gate_follows_registry server ⟨laptop, 0⟩).2.2.1 laptop "laptop" rfl rfl rfl
      .anonymous).2

end Perimeter.Gateway.Server
