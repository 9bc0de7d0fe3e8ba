import Perimeter.Controller.Server
import Perimeter.Gateway.Server
import Perimeter.Proofs.Enrolment
import Perimeter.Proofs.Validation.OnRecord

/-!
# `Perimeter.Proofs.Validation.Agreement`: two servers, one validation

The controller and the gateway judge knocks by the same checks. Each makes a validator of its
own configuration, and where both configurations say the same, the two validators should not
be told apart by any datagrams at any time.

They differ in what they make of a capacity of zero. The controller takes it for the usual
capacity, the gateway for room for one knock. `same_verdicts_iff` says that nothing else can
come between them: with any other capacity the validators are the same. Without devices neither
of them ever accepts a knock, nor does any if the clocks may differ by so much that no knock can
be remembered for as long as it has to be.
-/

set_option autoImplicit false

namespace Perimeter

/-! ### The verdicts of a validator -/

namespace Validator

variable {v w : Validator} {clock : Clock} {skew retention capacity : Nat} {datagram : Bytes}

/-- The verdicts on the datagrams of a run, in turn. -/
def verdicts (v : Validator) (clock : Clock) :
    List (Event Bytes) → List (Except Rejection ValidatedKnock)
  | [] => []
  | .act datagram :: rest =>
    (v.validate clock datagram).2 :: (v.validate clock datagram).1.verdicts clock rest
  | .advance ms :: rest => v.verdicts (clock.advance ms) rest

/-- Where no device is known, no datagram is worth a record. -/
theorem validate_of_nobody (h : v.registry = .empty) (clock : Clock) (datagram : Bytes) :
    v.validate clock datagram = (v, .error (match Knock.decode datagram with
      | .error cause => .malformed cause
      | .ok received => .unknownDevice received.knock.device)) := by
  unfold validate examine
  rw [h]
  cases Knock.decode datagram <;> rfl

/-- Two validators that know no device judge alike, whatever they have on record. -/
theorem verdicts_eq_of_nobody (hv : v.registry = .empty) (hw : w.registry = .empty)
    (events : List (Event Bytes)) : ∀ clock, v.verdicts clock events = w.verdicts clock events := by
  induction events with
  | nil => intro _; rfl
  | cons e rest ih =>
    intro clock
    cases e with
    | act datagram => simp only [verdicts, validate_of_nobody hv, validate_of_nobody hw, ih]
    | advance ms => exact ih _

/-- Where the machine has no number for the end of a record, none is made, and what passes the
other checks breaks the check down. -/
theorem validate_of_outOfRange (h : Clock.limit ≤ v.replay.retention) (clock : Clock)
    (datagram : Bytes) :
    v.validate clock datagram =
      (v, (v.examine clock.unixSeconds datagram).bind fun _ => .error .outOfRange) := by
  have hrecord : ∀ id nonce, v.replay.record clock.instant id nonce = (v.replay, .outOfRange) := by
    intro id nonce
    rw [ReplayGuard.record, Store.insertIfAbsent, if_pos (by omega)]
  unfold validate
  cases v.examine clock.unixSeconds datagram with
  | error reason => rfl
  | ok examined =>
    simp only [hrecord]
    rfl

/-- Two such validators judge alike if they do so before the records. -/
theorem verdicts_eq_of_outOfRange (hregistry : v.registry = w.registry) (hskew : v.skew = w.skew)
    (hv : Clock.limit ≤ v.replay.retention) (hw : Clock.limit ≤ w.replay.retention)
    (events : List (Event Bytes)) : ∀ clock, v.verdicts clock events = w.verdicts clock events := by
  have hexamine : ∀ now datagram, v.examine now datagram = w.examine now datagram := by
    intro now datagram
    -- The records are no part of what is examined.
    obtain ⟨registry, replay, skew⟩ := v
    obtain ⟨registry', replay', skew'⟩ := w
    obtain rfl : registry = registry' := hregistry
    obtain rfl : skew = skew' := hskew
    rfl
  induction events with
  | nil => intro _; rfl
  | cons e rest ih =>
    intro clock
    cases e with
    | act datagram =>
      simp only [verdicts, validate_of_outOfRange hv, validate_of_outOfRange hw, hexamine, ih]
    | advance ms => exact ih _

/-- Of two knocks that a device makes at one moment, a validator that has nothing on record
accepts the first, and the second as well if there is room for two. -/
theorem Guarded.verdicts_of_two (h : v.Guarded skew retention capacity)
    (hnothing : v.onRecord clock = ∅) (hrange : clock.instant + retention < Clock.limit)
    {device : Device} {n₁ n₂ : Nonce} {d₁ d₂ : Bytes}
    (hlookup : v.registry.lookup device.id = some device) (hne : n₁ ≠ n₂)
    (h₁ : Knock.encode device.secret ⟨device.id, clock.unixSeconds, n₁, none⟩ = .ok d₁)
    (h₂ : Knock.encode device.secret ⟨device.id, clock.unixSeconds, n₂, none⟩ = .ok d₂) :
    v.verdicts clock [.act d₁, .act d₂] =
      [.ok ⟨device, n₁, clock.unixSeconds, none⟩,
        if 1 < capacity then .ok ⟨device, n₂, clock.unixSeconds, none⟩
        else .error (.guardFull device.id)] := by
  have hroom : 0 < capacity := h.within.capacity_eq ▸ v.replay.records.capacity_pos
  have hnow : ∀ tolerance : Nat,
      (clock.unixSeconds.toInt - clock.unixSeconds.toInt).natAbs ≤ tolerance := by
    simp
  have hfirst : (v.validate clock d₁).2 = .ok ⟨device, n₁, clock.unixSeconds, none⟩ := by
    rw [h.recording.validate_of_encode hlookup h₁ (hnow _), h.retention_eq,
      if_neg (Nat.not_le.mpr hrange), hnothing]
    simp only [Finset.notMem_empty, Finset.card_empty, hroom, if_true, if_false]
    rfl
  have hafter : (v.validate clock d₁).1.Guarded skew retention capacity :=
    h.act clock (.validate d₁)
  have hrecord : (v.validate clock d₁).1.onRecord clock = {(device.id, n₁)} := by
    rw [h.keys_of_accepted hfirst, hnothing]
    rfl
  have hother : (device.id, n₂) ∉ (v.validate clock d₁).1.onRecord clock := by
    rw [hrecord, Finset.mem_singleton]
    intro heq
    exact hne (congrArg Prod.snd heq).symm
  have hsecond := hafter.recording.validate_of_encode
    (by rwa [registry_validate]) h₂ (hnow _)
  rw [hafter.retention_eq, if_neg (Nat.not_le.mpr hrange), if_neg hother, hrecord,
    Finset.card_singleton] at hsecond
  simp only [verdicts, hfirst, hsecond]
  rfl

/-- Where a device is known and can be remembered, room for one knock can be told from room for
more. -/
theorem exists_verdicts_ne {registry : Registry} {device : Device}
    (hlookup : registry.lookup device.id = some device) (skew few many : Nat)
    (hrange : ReplayGuard.retentionFor skew < Clock.limit) (hfew : few ≤ 1) (hmany : 1 < many) :
    ∃ clock events,
      (new registry skew many).verdicts clock events ≠
        (new registry skew few).verdicts clock events := by
  -- Two knocks of the device at the beginning of 1970.
  have hwrite : ∀ nonce, ∃ datagram,
      Knock.encode device.secret ⟨device.id, 0, nonce, none⟩ = .ok datagram := fun nonce =>
    Knock.exists_encode_iff.mpr ⟨rfl, Nat.zero_le _⟩
  obtain ⟨d₁, h₁⟩ := hwrite ⟨List.replicate 16 0, rfl⟩
  obtain ⟨d₂, h₂⟩ := hwrite ⟨List.replicate 16 1, rfl⟩
  have hends : ∀ capacity, (Clock.startingAt 0).instant +
      (ReplayGuard.forSkew skew capacity).retention < Clock.limit := by
    intro capacity
    rw [ReplayGuard.retention_forSkew]
    exact (Nat.zero_add _).trans_lt hrange
  have htwo := fun capacity =>
    Guarded.verdicts_of_two
      (guarded_ofNanoseconds registry (skew * millisecondNs) capacity)
      (onRecord_ofNanoseconds registry _ capacity (.startingAt 0)) (hends capacity) hlookup
      (by decide) h₁ h₂
  refine ⟨.startingAt 0, [.act d₁, .act d₂], fun halike => ?_⟩
  have hsecond := (htwo many).symm.trans (halike.trans (htwo few))
  rw [if_pos (by omega), if_neg (by omega)] at hsecond
  cases hsecond

end Validator

/-! ### The two servers -/

/-- Both configurations say the same of the devices, of the allowed difference of the clocks, and
of how many knocks are remembered. -/
structure SameKnockSettings (controller : Controller.Config) (gateway : Gateway.Config) : Prop where
  devices_eq : controller.devices = gateway.devices
  skew_eq : controller.security.maxClockSkew = gateway.security.maxClockSkew
  capacity_eq : controller.security.replayCapacity = gateway.security.replayCapacity

theorem Start.eq_of_validator {registry : Registry} {skew : UInt64} {capacity : Nat} {v : Validator}
    (h : Start.validator registry skew capacity = .ok v) :
    v = Validator.new registry (skew.toNat * secondMs) capacity := by
  unfold Start.validator at h
  split at h
  · exact (Except.ok.inj h).symm
  · cases h

/-- The validator of a controller is made of its devices, of its clock and of its capacity. -/
theorem Controller.Server.validator_of_start {config : Controller.Config}
    {server : Controller.Server} (h : Controller.Server.start config = .ok server) :
    ∃ registry, Registry.ofEntries config.devices = .ok registry ∧ server.port.validator =
      Validator.new registry (config.security.maxClockSkew.toNat * secondMs)
        (replayCapacity config) := by
  simp only [start, Checks.bind_eq_ok, Checks.mapError_eq_ok, Checks.pure_eq_ok] at h
  obtain ⟨-, -, registry, hregistry, v, hv, -, -, -, -, -, -, rfl⟩ := h
  exact ⟨registry, hregistry, Start.eq_of_validator hv⟩

/-- So is that of a gateway, which takes the capacity as it stands. -/
theorem Gateway.Server.validator_of_start {config : Gateway.Config}
    {authority : Option Tls.Authority} {server : Gateway.Server}
    (h : Gateway.Server.start config authority = .ok server) :
    ∃ registry, Registry.ofEntries config.devices = .ok registry ∧ server.port.validator =
      Validator.new registry (config.security.maxClockSkew.toNat * secondMs)
        config.security.replayCapacity.toNat := by
  simp only [start, Checks.bind_eq_ok, Checks.mapError_eq_ok, Checks.pure_eq_ok] at h
  obtain ⟨-, -, registry, hregistry, v, hv, -, -, -, -, -, -, rfl⟩ := h
  exact ⟨registry, hregistry, Start.eq_of_validator hv⟩

/-- The validators of a controller and a gateway whose configurations say the same give the same
verdicts on all datagrams at all times, if and only if the capacity that they say is not zero,
there are no devices, or the time for which a knock is remembered is no time that an instant can
lie ahead. Zero means the usual capacity to the controller and room for one knock to the gateway,
so that two knocks of any device tell them apart if they can be remembered. -/
theorem same_verdicts_iff {controller : Controller.Config} {gateway : Gateway.Config}
    {authority : Option Tls.Authority} {c : Controller.Server} {g : Gateway.Server}
    (hsame : SameKnockSettings controller gateway)
    (hc : Controller.Server.start controller = .ok c)
    (hg : Gateway.Server.start gateway authority = .ok g) :
    (∀ clock events,
      c.port.validator.verdicts clock events = g.port.validator.verdicts clock events) ↔
      controller.security.replayCapacity ≠ 0 ∨ controller.devices = [] ∨
        2 ^ 63 ≤ 2 * controller.security.maxClockSkew.toNat + 5 := by
  obtain ⟨registry, hregistry, hvc⟩ := Controller.Server.validator_of_start hc
  obtain ⟨registry', hregistry', hvg⟩ := Gateway.Server.validator_of_start hg
  rw [← hsame.devices_eq, hregistry] at hregistry'
  cases hregistry'
  rw [← hsame.skew_eq, ← hsame.capacity_eq] at hvg
  rw [hvc, hvg, Controller.Server.replayCapacity]
  have hretention : ∀ seconds, Clock.limit ≤ ReplayGuard.retentionFor (seconds * secondMs) ↔
      2 ^ 63 ≤ 2 * seconds + 5 := by
    intro seconds
    simp only [Clock.limit, ReplayGuard.retentionFor, ReplayGuard.margin, secondMs]
    omega
  constructor
  · intro halike
    by_contra hdiffer
    obtain ⟨hzero, hrest⟩ := not_or.mp hdiffer
    obtain ⟨hdevices, hnear⟩ := not_or.mp hrest
    have hzero : controller.security.replayCapacity = 0 := not_not.mp hzero
    obtain ⟨device, hdevice⟩ := Registry.exists_lookup_of_ofEntries hregistry hdevices
    rw [if_pos hzero, hzero] at halike
    obtain ⟨clock, events, hne⟩ := Validator.exists_verdicts_ne hdevice
      (controller.security.maxClockSkew.toNat * secondMs) (0 : UInt64).toNat
      ReplayGuard.defaultCapacity (Nat.not_le.mp fun hfar => hnear ((hretention _).mp hfar))
      (by decide) (by decide)
    exact hne (halike clock events)
  · rintro (hcapacity | hnobody | hfar) clock events
    · rw [if_neg hcapacity]
    · rw [hnobody] at hregistry
      cases hregistry
      exact Validator.verdicts_eq_of_nobody rfl rfl events clock
    · have hnever : ∀ capacity, Clock.limit ≤ (ReplayGuard.forSkew
          (controller.security.maxClockSkew.toNat * secondMs) capacity).retention := by
        intro capacity
        rw [ReplayGuard.retention_forSkew]
        exact (hretention _).mpr hfar
      refine Validator.verdicts_eq_of_outOfRange ?_ ?_ ?_ ?_ events clock
      · rfl
      · rfl
      · exact hnever _
      · exact hnever _

/-- Two servers with one device and room for three knocks: no datagrams tell them apart. -/
theorem same_verdicts_iff_of_three :
    let devices : List DeviceEntry :=
      [⟨"dev-1", "11111111111111111111111111111111", none, some "dev-1", []⟩]
    let controller : Controller.Config :=
      { security := { tokenSecretHex := Hex.encode (List.replicate 32 0x42), replayCapacity := 3 }
        devices }
    let gateway : Gateway.Config :=
      { security := { requireToken := false, replayCapacity := 3 }
        tls := { clientCaPath := some "ca.pem" }
        devices }
    SameKnockSettings controller gateway ∧
    ∃ c g, Controller.Server.start controller = .ok c ∧ Gateway.Server.start gateway none = .ok g ∧
      ∀ clock events,
        c.port.validator.verdicts clock events = g.port.validator.verdicts clock events := by
  intro devices controller gateway
  have hsame : SameKnockSettings controller gateway := ⟨rfl, rfl, rfl⟩
  obtain ⟨c, hc, -⟩ := Checks.map_eq_ok.mp
    (by decide +kernel : (fun _ => ()) <$> Controller.Server.start controller = .ok ())
  obtain ⟨g, hg, -⟩ := Checks.map_eq_ok.mp
    (by decide +kernel : (fun _ => ()) <$> Gateway.Server.start gateway none = .ok ())
  exact ⟨hsame, c, g, hc, hg, (same_verdicts_iff hsame hc hg).mpr (.inl (by decide))⟩

/-- Two servers with one device and a capacity of zero: of two knocks that the device makes at
one moment the controller accepts both, and the gateway is full when the second one comes. -/
theorem verdicts_ne_of_zero_capacity :
    let devices : List DeviceEntry :=
      [⟨"dev-1", "11111111111111111111111111111111", none, some "dev-1", []⟩]
    let controller : Controller.Config :=
      { security := { tokenSecretHex := Hex.encode (List.replicate 32 0x42), replayCapacity := 0 }
        devices }
    let gateway : Gateway.Config :=
      { security := { requireToken := false, replayCapacity := 0 }
        tls := { clientCaPath := some "ca.pem" }
        devices }
    let device : Device :=
      ⟨⟨"dev-1", by decide, by decide⟩, ⟨List.replicate 16 0x11, by decide⟩, .commonName "dev-1",
        []⟩
    let datagram (n : UInt8) : Bytes := (Knock.encode device.secret
      ⟨device.id, 1700000000, ⟨List.replicate 16 n, rfl⟩, none⟩).toOption.getD []
    let events : List (Event Bytes) := [.act (datagram 1), .act (datagram 2)]
    SameKnockSettings controller gateway ∧
    ∃ c g, Controller.Server.start controller = .ok c ∧ Gateway.Server.start gateway none = .ok g ∧
      c.port.validator.verdicts (.startingAt 1700000000) events =
        [.ok ⟨device, ⟨List.replicate 16 1, rfl⟩, 1700000000, none⟩,
          .ok ⟨device, ⟨List.replicate 16 2, rfl⟩, 1700000000, none⟩] ∧
      g.port.validator.verdicts (.startingAt 1700000000) events =
        [.ok ⟨device, ⟨List.replicate 16 1, rfl⟩, 1700000000, none⟩,
          .error (.guardFull device.id)] := by
  intro devices controller gateway device datagram events
  have hcontroller :
      (fun c => c.port.validator.verdicts (.startingAt 1700000000) events) <$>
        Controller.Server.start controller =
      .ok [.ok ⟨device, ⟨List.replicate 16 1, rfl⟩, 1700000000, none⟩,
        .ok ⟨device, ⟨List.replicate 16 2, rfl⟩, 1700000000, none⟩] := by
    decide +kernel
  have hgateway :
      (fun g => g.port.validator.verdicts (.startingAt 1700000000) events) <$>
        Gateway.Server.start gateway none =
      .ok [.ok ⟨device, ⟨List.replicate 16 1, rfl⟩, 1700000000, none⟩,
        .error (.guardFull device.id)] := by
    decide +kernel
  obtain ⟨c, hc, hcv⟩ := Checks.map_eq_ok.mp hcontroller
  obtain ⟨g, hg, hgv⟩ := Checks.map_eq_ok.mp hgateway
  exact ⟨⟨rfl, rfl, rfl⟩, c, g, hc, hg, hcv, hgv⟩

end Perimeter
