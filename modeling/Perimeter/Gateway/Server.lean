import Perimeter.Gateway.Config
import Perimeter.Gateway.Doorkeeper
import Perimeter.KnockPort
import Perimeter.Start
import Perimeter.Tls.Verifier

/-!
# `Perimeter.Gateway.Server`: the gateway at work

The gateway has a port for knocks, which never answers, and one for connections. A
connection passes two gates. The first asks whether the address it comes from has been
admitted, and uses the admission up. The second is the handshake: the client has to
present the certificate of the admitted device, as the registry has the device at that
moment. What the device looked like when it knocked counts for nothing there.

* `start`: what a configuration makes a gateway of.
* `verifierFor_eq_ok_iff`, `authenticate_ok_iff`: who passes the second gate.
-/

set_option autoImplicit false

namespace Perimeter.Gateway

/-- What became of the connections. -/
structure ConnectionCounters where
  accepted : Nat := 0
  /-- Those from addresses that were not admitted. -/
  gate1Refused : Nat := 0
  /-- Those that came while too many others were open. -/
  saturated : Nat := 0
  /-- Those that failed the handshake. -/
  gate2Rejected : Nat := 0
  handshakeTimeouts : Nat := 0
  established : Nat := 0
deriving DecidableEq

/-- How a client takes part in the handshake. -/
inductive Handshake where
  /-- It has not said anything yet. -/
  | silent
  /-- It says something else, or breaks off. -/
  | broken
  /-- It presents no certificate. -/
  | anonymous
  | presenting (certificates : Tls.Presented)

/-- How far a connection comes. -/
inductive Arrival where
  | refused
  | saturated
  /-- Turned away at the second gate before the handshake, or in it. -/
  | rejected (beforeHandshake : Bool)
  | pending
  | established (device : Device)

/-- Why a client does not pass the second gate. -/
inductive Gate2Error where
  /-- The device is not in the registry any more. -/
  | notEnrolled
  | verifier (cause : Tls.VerifierError)
  | mismatch (cause : Tls.Mismatch)
  | noHandshake
deriving DecidableEq

/-- A gateway at work. -/
structure Server where
  port : KnockPort
  doorkeeper : Doorkeeper
  /-- Who vouches for devices. -/
  authority : Option Tls.Authority
  counters : ConnectionCounters
  maxConnections : Nat
  /-- The number of connections in which the handshake has not begun. -/
  pending : Nat
  /-- The number of established connections that are open. -/
  held : Nat

namespace Server

/-- The policy on tokens, if knocks have to carry any. -/
def tokenPolicy (c : Config) : Except StartError (Option TokenPolicy) :=
  if c.security.requireToken then do
    let secret ← c.tokenSecret.mapError .config
    let verifier ← (TokenIssuer.new secret c.security.issuer TokenIssuer.defaultTtl).mapError
      (.token .verifier)
    return some (TokenPolicy.new verifier c.security.usedTokenCapacity.toNat)
  else return none

/-- Starts a gateway. -/
def start (c : Config) (authority : Option Tls.Authority) : Except StartError Server := do
  c.validate.mapError .config
  let registry ← (Registry.ofEntries c.devices).mapError .registry
  let validator ← Start.validator registry c.security.maxClockSkew c.security.replayCapacity.toNat
  let tokens ← tokenPolicy c
  let gate := AdmissionGate.new (c.admission.ttl.toNat * secondMs) c.admission.capacity.toNat
  let maxInflight ← Start.permits c.network.maxInflight
  let maxConnections ← Start.permits c.network.maxConnections
  return {
    port := KnockPort.new validator maxInflight
    doorkeeper := Doorkeeper.new gate c.gateway.service tokens
    authority
    counters := {}
    maxConnections
    pending := 0
    held := 0 }

/-- The devices that the gateway knows. -/
def registry (s : Server) : Registry := s.port.validator.registry

/-- Changes the devices that the gateway knows. -/
def withRegistry (s : Server) (registry : Registry) : Server :=
  { s with port := { s.port with validator := { s.port.validator with registry } } }

/-- Takes in a datagram. Nothing is ever answered. -/
def knock (s : Server) (clock : Clock) (source : IpAddress) (datagram : Bytes) : Server :=
  match s.port.receive clock 0 datagram with
  | (port, none) => { s with port }
  | (port, some knock) =>
    { s with port, doorkeeper := s.doorkeeper.onKnock clock knock source }

/-- Whether an address is admitted. -/
def isAdmitted (s : Server) (clock : Clock) (source : IpAddress) : Server × Bool :=
  let (gate, found) := s.doorkeeper.gate.isAdmitted clock source
  ({ s with doorkeeper := { s.doorkeeper with gate } }, found)

/-- What is asked of the admitted device, as the registry has it now. -/
def verifierFor (registry : Registry) (authority : Option Tls.Authority) (id : DeviceId) :
    Except Gate2Error (Device × Tls.ClientVerifier) :=
  match registry.lookup id with
  | none => .error .notEnrolled
  | some device => match Tls.ClientVerifier.forDevice device authority with
    | .error cause => .error (.verifier cause)
    | .ok verifier => .ok (device, verifier)

/-- Who passes the second gate with an admission: the device as the registry has it
now. -/
def authenticate (registry : Registry) (authority : Option Tls.Authority)
    (admission : Admission) (presented : Tls.Presented) : Except Gate2Error Device :=
  match verifierFor registry authority admission.device.id with
  | .error reason => .error reason
  | .ok (device, verifier) => match verifier.check presented with
    | .error cause => .error (.mismatch cause)
    | .ok () => .ok device

/-- The second gate. Nothing for a handshake that has not begun. -/
def secondGate (s : Server) (admission : Admission) (handshake : Handshake) :
    Option (Except Gate2Error Device) :=
  match handshake with
  | .presenting presented => some (authenticate s.registry s.authority admission presented)
  | other => match verifierFor s.registry s.authority admission.device.id, other with
    | .error reason, _ => some (.error reason)
    | .ok _, .silent => none
    | .ok _, _ => some (.error .noHandshake)

/-- Whether a reason to turn a client away is known before its handshake. -/
def Gate2Error.isEarly : Gate2Error → Bool
  | .notEnrolled => true
  | .verifier _ => true
  | .mismatch _ => false
  | .noHandshake => false

/-- Lets an admitted connection go on to the second gate if there is room for it. -/
def serve (s : Server) (admission : Admission) (handshake : Handshake) : Server × Arrival :=
  -- Connections that have not begun their handshake take up room like any other.
  if s.maxConnections ≤ s.pending + s.held then
    ({ s with counters := { s.counters with saturated := s.counters.saturated + 1 } }, .saturated)
  else match s.secondGate admission handshake with
    | none => ({ s with pending := s.pending + 1 }, .pending)
    | some (.error reason) =>
      ({ s with counters := { s.counters with gate2Rejected := s.counters.gate2Rejected + 1 } },
        .rejected (Gate2Error.isEarly reason))
    | some (.ok device) =>
      ({ s with
          counters := { s.counters with established := s.counters.established + 1 }
          held := s.held + 1 }, .established device)

/-- Takes in a connection. An established one stays open until it is closed. -/
def connect (s : Server) (clock : Clock) (source : IpAddress) (handshake : Handshake) :
    Server × Arrival :=
  let counters := { s.counters with accepted := s.counters.accepted + 1 }
  -- The admission is used up here, whatever becomes of the connection.
  let (gate, admission) := s.doorkeeper.gate.take clock source
  let s := { s with counters, doorkeeper := { s.doorkeeper with gate } }
  match admission with
  | none =>
    ({ s with counters := { counters with gate1Refused := counters.gate1Refused + 1 } }, .refused)
  | some admission => s.serve admission handshake

/-- Closes an established connection. -/
def close (s : Server) : Server := { s with held := s.held - 1 }

/-- Drops the connections in which the handshake has not begun in time. -/
def expireHandshakes (s : Server) : Server :=
  let handshakeTimeouts := s.counters.handshakeTimeouts + s.pending
  { s with counters := { s.counters with handshakeTimeouts }, pending := 0 }

/-- Forgets what has expired. -/
def sweep (s : Server) (clock : Clock) : Server :=
  { s with port := s.port.sweep clock, doorkeeper := s.doorkeeper.sweep clock }

theorem verifierFor_eq_ok_iff {registry : Registry} {authority : Option Tls.Authority}
    {id : DeviceId} {device : Device} {verifier : Tls.ClientVerifier} :
    verifierFor registry authority id = .ok (device, verifier) ↔
      registry.lookup id = some device ∧
        Tls.ClientVerifier.forDevice device authority = .ok verifier := by
  unfold verifierFor
  split
  · simp [*]
  · split
    · simp only [reduceCtorEq, false_iff, not_and, Option.some.injEq, *]
      rintro rfl
      simp [*]
    · rename_i found _ _ v hv
      simp only [Except.ok.injEq, Prod.mk.injEq, Option.some.injEq, *]
      refine and_congr_right ?_
      rintro rfl
      simp [hv]

theorem authenticate_ok_iff {registry : Registry} {authority : Option Tls.Authority}
    {admission : Admission} {presented : Tls.Presented} {device : Device} :
    authenticate registry authority admission presented = .ok device ↔
      ∃ verifier, verifierFor registry authority admission.device.id = .ok (device, verifier) ∧
        verifier.check presented = .ok () := by
  unfold authenticate
  split
  · simp [*]
  · split
    · simp only [reduceCtorEq, false_iff, not_exists, not_and, Except.ok.injEq, Prod.mk.injEq, *]
      rintro v ⟨-, rfl⟩
      simp [*]
    · rename_i found v _ _ hv
      simp only [Except.ok.injEq, Prod.mk.injEq, *]
      exact ⟨fun h => ⟨v, ⟨h, rfl⟩, hv⟩, fun ⟨_, h, _⟩ => h.1⟩

end Server

end Perimeter.Gateway
