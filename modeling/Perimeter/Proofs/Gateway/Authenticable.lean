import Perimeter.Gateway.Server
import Perimeter.Proofs.Enrolled
import Perimeter.Proofs.Starting
import Perimeter.Proofs.Validation.Agreement

/-!
# `Perimeter.Proofs.Gateway.Authenticable`: what is found out before any connection

A device that is bound by a name can be told only where there is an authority, and a gateway that
asks for tokens can check them only with a secret that is long enough. Both could come to light
late: the first at the second gate, after the device has been admitted, the second while the
gateway starts.

They are found out when the configuration is checked. That check looks at the entries as they are
written, and the second gate at the devices that were made of them: which of its two optional
fields an entry has decides how the device is bound (`DeviceEntry.requiresAuthority_iff`), and
every registered device was made of an entry (`Registry.exists_entry_of_lookup`). So whatever
device is registered when the gateway has started, there is a verifier for it
(`authenticates_every_enrolled`).
-/

set_option autoImplicit false

namespace Perimeter

/-! ### How a device is bound -/

/-- A fingerprint that reads as one pins a digest. -/
theorem IdentityBinding.requiresAuthority_of_ofFingerprintHex {text : String}
    {binding : IdentityBinding} (h : ofFingerprintHex text = .ok binding) :
    binding.requiresAuthority = false := by
  simp only [ofFingerprintHex] at h
  split at h
  · cases h
  · split at h
    · cases h
      rfl
    · cases h

/-- A device needs an authority if its entry gives a name. -/
theorem DeviceEntry.requiresAuthority_iff {entry : DeviceEntry} {device : Device}
    (h : entry.toDevice = .ok device) :
    device.identity.requiresAuthority ↔ entry.commonName.isSome := by
  simp only [toDevice, Checks.bind_eq_ok, Checks.mapError_eq_ok] at h
  obtain ⟨id, -, secret, -, h⟩ := h
  split at h
  case h_1 fingerprint hfingerprint hname =>
    simp only [Checks.bind_eq_ok, Checks.mapError_eq_ok] at h
    obtain ⟨identity, hidentity, hdevice⟩ := h
    cases hdevice
    simp [hname, IdentityBinding.requiresAuthority_of_ofFingerprintHex hidentity]
  case h_2 name hfingerprint hname =>
    cases h
    simp [hname, IdentityBinding.requiresAuthority]
  case h_3 =>
    cases h

/-- Every device of a registry was made of an entry. -/
theorem Registry.exists_entry_of_lookup {entries : List DeviceEntry} {r : Registry}
    {id : DeviceId} {device : Device} (h : ofEntries entries = .ok r)
    (hfound : r.lookup id = some device) : ∃ entry ∈ entries, entry.toDevice = .ok device := by
  obtain ⟨devices, hmake, hdevices⟩ := exists_make_of_ofEntries h
  rw [lookup_of_ofDevices hdevices] at hfound
  obtain ⟨i, hi, rfl⟩ := List.getElem_of_mem (List.mem_of_find?_eq_some hfound)
  have hi' : i < entries.length := hmake.length_eq ▸ hi
  exact ⟨entries[i], List.getElem_mem hi', hmake.get hi' hi⟩

theorem Settings.checkPositive_eq_ok {setting : Positive} {n : UInt64} {u : Unit} :
    checkPositive setting n = .ok u ↔ n ≠ 0 := by
  simp [checkPositive]

namespace Gateway

variable {c : Config} {registry : Registry} {authority : Option Tls.Authority} {id : DeviceId}
  {device : Device}

/-! ### What is checked beforehand -/

/-- What a configuration has to say to be checked well. -/
theorem Config.validate_ok_iff : c.validate = .ok () ↔
    Text.trim c.gateway.service ≠ "" ∧
      (c.security.requireToken → ∃ secret, c.tokenSecret = .ok secret) ∧
      c.security.maxClockSkew ≠ 0 ∧ c.admission.ttl ≠ 0 ∧
      (c.needsClientCa → c.tls.clientCaPath ≠ none) := by
  have hauthority : (if c.needsClientCa ∧ c.tls.clientCaPath = none then throw .missingClientCa
      else pure () : Except Settings.Cause Unit) = .ok () ↔
      (c.needsClientCa → c.tls.clientCaPath ≠ none) := by
    rw [← not_and]
    exact Checks.error_if_eq_ok.trans (and_iff_left rfl)
  simp only [validate, Checks.throw_bind, Checks.error_if_eq_ok]
  refine and_congr_right fun _ => ?_
  by_cases hrequire : c.security.requireToken
  · simp only [hrequire, if_true, Checks.bind_eq_ok, Settings.checkPositive_eq_ok, hauthority,
      exists_and_left, exists_and_right, true_implies, exists_const]
  · simp only [hrequire, Bool.false_eq_true, if_false, Checks.bind_eq_ok,
      Settings.checkPositive_eq_ok, hauthority, exists_and_left, exists_const, false_implies,
      true_and]

/-- For every registered device there is an authority if one is needed. -/
theorem isSome_authority_of_lookup (hvalid : c.validate = .ok ())
    (hregistry : Registry.ofEntries c.devices = .ok registry)
    (hauthority : authority.isSome ↔ c.tls.clientCaPath.isSome)
    (hfound : registry.lookup id = some device) :
    device.identity.requiresAuthority → authority.isSome := by
  intro hrequires
  obtain ⟨entry, hentry, hdevice⟩ := Registry.exists_entry_of_lookup hregistry hfound
  have hname := (DeviceEntry.requiresAuthority_iff hdevice).mp hrequires
  -- The entry alone is reason enough to insist on an authority.
  have hneeds : c.needsClientCa := List.any_eq_true.mpr ⟨entry, hentry, hname⟩
  obtain ⟨-, -, -, -, hpath⟩ := Config.validate_ok_iff.mp hvalid
  exact hauthority.mpr (Option.isSome_iff_ne_none.mpr (hpath hneeds))

namespace Server

variable {server : Server}

/-- What a started gateway has from its configuration: its devices, the authority that it was
given, and its policy on tokens. -/
theorem parts_of_start (h : start c authority = .ok server) :
    Registry.ofEntries c.devices = .ok server.registry ∧ server.authority = authority ∧
      tokenPolicy c = .ok server.doorkeeper.tokens := by
  simp only [start, Checks.bind_eq_ok, Checks.mapError_eq_ok, Checks.pure_eq_ok] at h
  obtain ⟨-, -, registry, hregistry, validator, hvalidator, tokens, htokens, -, -, -, -, rfl⟩ := h
  refine ⟨?_, rfl, htokens⟩
  rw [hregistry, Start.eq_of_validator hvalidator]
  rfl

/-- Where there is an authority if one is needed, a device is turned away at the second gate for
what it presents, or because it is not enrolled any more. -/
theorem secondGate_ne_verifier {admission : Admission} {handshake : Handshake}
    {cause : Tls.VerifierError}
    (h : ∀ device, server.registry.lookup admission.device.id = some device →
      device.identity.requiresAuthority → server.authority.isSome) :
    server.secondGate admission handshake ≠ some (.error (.verifier cause)) := by
  have hverifier : verifierFor server.registry server.authority admission.device.id ≠
      .error (.verifier cause) := by
    unfold verifierFor
    split
    · nofun
    · rename_i device hfound
      obtain ⟨verifier, hverifier⟩ := Tls.ClientVerifier.forDevice_ok_iff.mpr (h device hfound)
      simp [hverifier]
  cases handshake with
  | presenting presented =>
    simp only [secondGate, authenticate, ne_eq, Option.some.injEq]
    split
    · simp_all
    · split <;> simp
  | silent | broken | anonymous =>
    simp only [secondGate]
    split <;> simp_all

/-- A gateway that starts from a configuration finds out beforehand what it could not do. Let the
configuration be checked well and its entries make a registry, and let there be an authority
exactly if the configuration names one. Then there is a verifier for every registered device, and
where knocks have to carry tokens the secret is read and makes an issuer to verify them with.

So a start does not fail for the settings or for the secret. The registry of a gateway that has
started holds no device without a verifier, and whoever is turned away at its second gate is not
turned away for want of one. -/
theorem authenticates_every_enrolled (hvalid : c.validate = .ok ())
    (hregistry : Registry.ofEntries c.devices = .ok registry)
    (hauthority : authority.isSome ↔ c.tls.clientCaPath.isSome) :
    (∀ id device, registry.lookup id = some device →
      ∃ verifier, Tls.ClientVerifier.forDevice device authority = .ok verifier) ∧
    (c.security.requireToken → ∃ secret issuer, c.tokenSecret = .ok secret ∧
      TokenIssuer.new secret c.security.issuer TokenIssuer.defaultTtl = .ok issuer) ∧
    (∀ cause, start c authority ≠ .error (.config cause)) ∧
    (∀ role cause, start c authority ≠ .error (.token role cause)) ∧
    ∀ server, start c authority = .ok server →
      (∀ id device, server.registry.lookup id = some device → ∃ verifier,
        verifierFor server.registry server.authority id = .ok (device, verifier)) ∧
      (c.security.requireToken → server.doorkeeper.tokens.isSome) ∧
      ∀ admission handshake cause,
        server.secondGate admission handshake ≠ some (.error (.verifier cause)) := by
  have hneeded : ∀ id device, registry.lookup id = some device →
      device.identity.requiresAuthority → authority.isSome :=
    fun id device => isSome_authority_of_lookup hvalid hregistry hauthority
  have hverifier : ∀ id device, registry.lookup id = some device →
      ∃ verifier, Tls.ClientVerifier.forDevice device authority = .ok verifier :=
    fun id device hfound => Tls.ClientVerifier.forDevice_ok_iff.mpr (hneeded id device hfound)
  have hstart := hinges_start authority hvalid hregistry
  refine ⟨hverifier, fun hrequire => ?_, fun cause h => ?_, fun role cause h => ?_,
    fun server h => ?_⟩
  · obtain ⟨-, hsecret, -⟩ := Config.validate_ok_iff.mp hvalid
    obtain ⟨secret, hsecret⟩ := hsecret hrequire
    exact ⟨secret, _, hsecret, dif_pos (Settings.length_tokenSecret hsecret)⟩
  -- Neither the settings nor a secret are a number.
  · rcases hstart.of_error h with hnumber | hnumber <;> cases hnumber
  · rcases hstart.of_error h with hnumber | hnumber <;> cases hnumber
  · obtain ⟨hmade, hgiven, htokens⟩ := parts_of_start h
    obtain rfl := Except.ok.inj (hregistry.symm.trans hmade)
    rw [hgiven]
    refine ⟨fun id device hfound => ?_, fun hrequire => ?_, fun admission handshake cause => ?_⟩
    · obtain ⟨verifier, hverifier⟩ := hverifier id device hfound
      exact ⟨verifier, verifierFor_eq_ok_iff.mpr ⟨hfound, hverifier⟩⟩
    · simp only [tokenPolicy, hrequire, if_true, Checks.bind_eq_ok, Checks.pure_eq_ok] at htokens
      obtain ⟨secret, -, issuer, -, htokens⟩ := htokens
      rw [← htokens]
      rfl
    · exact secondGate_ne_verifier fun device hfound => hgiven ▸ hneeded _ device hfound

/-- A gateway that asks for tokens, with one device bound by a fingerprint and one by a name. The
configuration is refused without an authority, and with one it makes a gateway that has a
verifier for the second device. -/
theorem authenticates_every_enrolled_of_named :
    let secret := "00112233445566778899aabbccddeeff"
    let pinned : DeviceEntry :=
      ⟨"tablet", secret, some (Hex.encode (List.replicate 32 0xab)), none, ["ssh"]⟩
    let named : DeviceEntry := ⟨"phone", secret, none, some "phone.example", []⟩
    let phone : DeviceId := ⟨"phone", by decide, by decide⟩
    let unauthorised : Config :=
      { security := { tokenSecretHex := Hex.encode (List.replicate 32 0x42) }
        devices := [pinned, named] }
    let config : Config := { unauthorised with tls := { clientCaPath := some "ca.pem" } }
    let authority : Tls.Authority := ⟨["CN=device-ca"], fun _ => true⟩
    unauthorised.validate = .error .missingClientCa ∧ config.validate = .ok () ∧
    ((some authority).isSome ↔ config.tls.clientCaPath.isSome) ∧
    ∃ registry device server verifier, Registry.ofEntries config.devices = .ok registry ∧
      registry.lookup phone = some device ∧ device.identity.requiresAuthority ∧
      start config (some authority) = .ok server ∧
      verifierFor server.registry server.authority phone = .ok (device, verifier) ∧
      server.doorkeeper.tokens.isSome := by
  intro secret pinned named phone unauthorised config authority
  have hvalid : config.validate = .ok () := by decide +kernel
  have hauthority : (some authority).isSome ↔ config.tls.clientCaPath.isSome := by decide
  let registry := (Registry.ofEntries config.devices).toOption.getD .empty
  have hregistry : Registry.ofEntries config.devices = .ok registry := by decide +kernel
  let device : Device := ⟨phone, ⟨(List.range 16).map fun i => UInt8.ofNat (17 * i), by decide⟩,
    .commonName "phone.example", []⟩
  have hfound : registry.lookup phone = some device := by decide +kernel
  obtain ⟨server, hstart⟩ :=
    (hinges_start (some authority) hvalid hregistry).ok_iff.mpr (by decide)
  obtain ⟨-, -, -, -, hstarted⟩ := authenticates_every_enrolled hvalid hregistry hauthority
  obtain ⟨hverifiers, htokens, -⟩ := hstarted server hstart
  have hsame : registry = server.registry :=
    Except.ok.inj (hregistry.symm.trans (parts_of_start hstart).1)
  obtain ⟨verifier, hverifier⟩ := hverifiers phone device (hsame ▸ hfound)
  exact ⟨by decide +kernel, hvalid, hauthority, _, device, server, verifier, hregistry, hfound, rfl,
    hstart, hverifier, htokens rfl⟩

end Server

end Gateway

end Perimeter
