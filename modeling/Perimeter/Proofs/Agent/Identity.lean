import Perimeter.Agent.Config
import Perimeter.Proofs.Enrolment
import Perimeter.Proofs.Validation.OnRecord

/-!
# `Perimeter.Proofs.Agent.Identity`: an agent and a registry read the same texts

Whoever sets a device up copies its identifier and its secret from the settings of the agent into
an entry of a registry. Two readers see the same texts then. Both drop the blanks around the
secret (`KnockSecret.ofHex_trim`). Only the agent drops them around the identifier as well; to a
registry they belong to it. So the two know each other exactly if there are none.

* `Validator.Recognises`: a knock is resolved to a device and bears its tag.
* `Validator.Recognises.heeds`: such a knock can still be stale, or the records may refuse it.
* `Agent.Config.recognised_iff_trimmed`: for which identifiers an agent's knocks are recognised.
-/

set_option autoImplicit false

namespace Perimeter

/-! ### Blanks that are dropped twice -/

namespace Text

/-- A text that was trimmed has no blanks at its ends. -/
theorem trimList_trimList (cs : List Char) : trimList (trimList cs) = trimList cs := by
  apply trimList_of_edges
  -- What is left begins where the blanks at the front end.
  · intro c hc
    have hprefix : trimList cs <+: cs.dropWhile isBlank := by
      rw [trimList, ← List.reverse_suffix, List.reverse_reverse]
      exact List.dropWhile_suffix _
    obtain ⟨rest, hrest⟩ := hprefix
    have hhead : (cs.dropWhile isBlank).head? = some c := by
      rw [← hrest, List.head?_append, hc]
      rfl
    have hnot := List.head?_dropWhile_not isBlank cs
    rw [hhead] at hnot
    simpa using hnot
  · intro c hc
    rw [trimList, List.getLast?_reverse] at hc
    have hnot := List.head?_dropWhile_not isBlank (cs.dropWhile isBlank).reverse
    rw [hc] at hnot
    simpa using hnot

/-- To trim a text twice is to trim it once. -/
theorem trim_trim (s : String) : trim (trim s) = trim s := by
  simp only [trim, String.toList_ofList, trimList_trimList]

end Text

/-- Blanks around the digits of a secret count for nothing. -/
theorem KnockSecret.ofHex_trim (text : String) : ofHex (Text.trim text) = ofHex text := by
  rw [ofHex, ofHex, Text.trim_trim]

/-! ### What an agent makes of its texts -/

/-- What an agent is called and what it signs with. -/
theorem Agent.Config.credentials_eq_ok_iff {c : Agent.Config} {who : Credentials} :
    c.credentials = .ok who ↔ DeviceId.ofText (Text.trim c.agent.deviceId) = .ok who.id ∧
      KnockSecret.ofHex c.agent.knockSecretHex = .ok who.secret := by
  simp only [credentials, Checks.bind_eq_ok, Checks.mapError_eq_ok, Checks.pure_eq_ok,
    KnockSecret.ofHex_trim]
  constructor
  · rintro ⟨id, hid, secret, hsecret, rfl⟩
    exact ⟨hid, hsecret⟩
  · rintro ⟨hid, hsecret⟩
    exact ⟨who.id, hid, who.secret, hsecret, rfl⟩

/-! ### Knocks that are recognised -/

namespace Validator

variable {v : Validator} {clock : Clock} {device : Device} {datagram : Bytes}

/-- A datagram reads as a knock of a registered device and bears the tag of its secret. -/
def Recognises (v : Validator) (device : Device) (datagram : Bytes) : Prop :=
  ∃ received, Knock.decode datagram = .ok received ∧
    v.registry.lookup received.knock.device = some device ∧
    Wire.tagHolds device.secret received.authenticated received.tag

/-- A knock of a device counts, or its time or the records are against it, or the machine has no
number for the end of its record. -/
def Heeds (v : Validator) (clock : Clock) (device : Device) (datagram : Bytes) : Prop :=
  (∃ k, (v.validate clock datagram).2 = .ok k ∧ k.device = device) ∨
  ∃ reason, (v.validate clock datagram).2 = .error reason ∧
    ((∃ timestamp, reason = .stale device.id timestamp clock.unixSeconds) ∨
      reason = .replayed device.id ∨ reason = .guardFull device.id ∨
      (reason = .outOfRange ∧ Clock.limit ≤ clock.instant + v.replay.retention))

/-- What is recognised counts as a knock of the device, unless it is not fresh, or its nonce is
known, or there is no room for it, or it cannot be remembered for so long. -/
theorem Recognises.heeds (h : v.Recognises device datagram) (clock : Clock) :
    v.Heeds clock device datagram := by
  obtain ⟨received, hdecode, hlookup, htag⟩ := h
  have hid := Registry.id_of_lookup hlookup
  by_cases hfresh : v.isFresh clock.unixSeconds received.knock.timestamp
  · have hexamine : v.examine clock.unixSeconds datagram = .ok (device, received.knock) :=
      examine_ok_iff.mpr ⟨received, hdecode, rfl, hlookup, htag, hfresh⟩
    simp only [Heeds, validate, hexamine]
    split
    · exact .inl ⟨_, rfl, rfl⟩
    · exact .inr ⟨_, rfl, .inr (.inl (by rw [hid]))⟩
    · exact .inr ⟨_, rfl, .inr (.inr (.inl (by rw [hid])))⟩
    · rename_i hover
      exact .inr ⟨_, rfl, .inr (.inr (.inr ⟨rfl, Store.insertIfAbsent_outOfRange_iff.mp hover⟩))⟩
  · have hexamine : v.examine clock.unixSeconds datagram =
        .error (.stale received.knock.device received.knock.timestamp clock.unixSeconds) := by
      simp only [examine, hdecode, Checks.mapError_ok, Checks.ok_bind, hlookup, htag, hfresh]
      rfl
    refine .inr ⟨.stale device.id received.knock.timestamp clock.unixSeconds, ?_, .inl ⟨_, rfl⟩⟩
    simp only [validate, hexamine, hid]

/-- Whoever signs with the secret of a registered device is recognised under its identifier, and
under no other. -/
theorem recognises_iff_id_eq {who : Credentials} {timestamp : Int64} {nonce : Nonce}
    {token : Option String} (hlookup : v.registry.lookup device.id = some device)
    (hsecret : who.secret = device.secret)
    (hknock : who.knock timestamp nonce token = .ok datagram) :
    v.Recognises device datagram ↔ who.id = device.id := by
  have hread := Knock.decode_of_encode hknock
  constructor
  · rintro ⟨received, hdecode, hfound, -⟩
    cases hread.symm.trans hdecode
    exact (Registry.id_of_lookup hfound).symm
  · intro hid
    refine ⟨_, hread, ?_, ?_⟩
    · show v.registry.lookup who.id = some device
      rw [hid, hlookup]
    · simp [Wire.tagHolds, hsecret]

/-- A knock under an identifier that is not registered is of an unknown device. -/
theorem validate_of_unregistered {who : Credentials} {timestamp : Int64} {nonce : Nonce}
    {token : Option String} (hlookup : v.registry.lookup who.id = none)
    (hknock : who.knock timestamp nonce token = .ok datagram) :
    v.validate clock datagram = (v, .error (.unknownDevice who.id)) := by
  have hread := Knock.decode_of_encode hknock
  have hasked : v.registry.lookup (Knock.asRead ⟨who.id, timestamp, nonce, token⟩).device = none :=
    hlookup
  have hexamine : v.examine clock.unixSeconds datagram = .error (.unknownDevice who.id) := by
    simp only [examine, hread, Checks.mapError_ok, Checks.ok_bind, hasked]
    rfl
  simp only [validate, hexamine]

end Validator

/-- An agent and a registry that read the same identifier and the same secret. Take any two
texts that both accept.

The secrets are the same. The agent's identifier is the text without the blanks around it, that
of the registered device is the text itself, and so they are the same exactly if there are no
blanks. Then every knock that the agent makes is recognised as the device's, wherever the device
is registered. Otherwise none is, and where nobody else has the agent's identifier, each of them
is of an unknown device. -/
theorem Agent.Config.recognised_iff_trimmed {c : Agent.Config} {entry : DeviceEntry}
    {who : Credentials} {device : Device} (hid : entry.deviceId = c.agent.deviceId)
    (hsecret : entry.knockSecretHex = c.agent.knockSecretHex) (hagent : c.credentials = .ok who)
    (hentry : entry.toDevice = .ok device) :
    who.secret = device.secret ∧ who.id.text = Text.trim c.agent.deviceId ∧
      device.id.text = c.agent.deviceId ∧
      (who.id = device.id ↔ Text.trim c.agent.deviceId = c.agent.deviceId) ∧
      ∀ (v : Validator) (timestamp : Int64) (nonce : Nonce) (token : Option String)
        (datagram : Bytes), v.registry.lookup device.id = some device →
        who.knock timestamp nonce token = .ok datagram →
        (v.Recognises device datagram ↔ Text.trim c.agent.deviceId = c.agent.deviceId) ∧
        (Text.trim c.agent.deviceId = c.agent.deviceId →
          ∀ clock, v.Heeds clock device datagram) ∧
        (v.registry.lookup who.id = none → ∀ clock,
          v.validate clock datagram = (v, .error (.unknownDevice who.id))) := by
  obtain ⟨hname, hkey⟩ := credentials_eq_ok_iff.mp hagent
  obtain ⟨hname', hkey', -⟩ := DeviceEntry.parts_of_toDevice hentry
  rw [hid] at hname'
  rw [hsecret] at hkey'
  have hsame : who.secret = device.secret := Except.ok.inj (hkey.symm.trans hkey')
  have htext := DeviceId.text_of_ofText hname
  have htext' := DeviceId.text_of_ofText hname'
  have hiff : who.id = device.id ↔ Text.trim c.agent.deviceId = c.agent.deviceId := by
    constructor
    · intro heq
      rw [← htext, heq, htext']
    · intro htrimmed
      rw [htrimmed] at hname
      exact Except.ok.inj (hname.symm.trans hname')
  refine ⟨hsame, htext, htext', hiff, fun v timestamp nonce token datagram hlookup hknock => ?_⟩
  have hrecognised := (Validator.recognises_iff_id_eq hlookup hsame hknock).trans hiff
  exact ⟨hrecognised, fun htrimmed clock => (hrecognised.mpr htrimmed).heeds clock,
    fun hnobody clock => Validator.validate_of_unregistered hnobody hknock⟩

/-- A secret that was copied with blanks around it. They do no harm. -/
theorem Agent.Config.recognised_iff_trimmed_of_padded_secret :
    let config : Agent.Config := { agent := { deviceId := "tablet", knockSecretHex :=
      "\t07070707070707070707070707070707\n" } }
    let entry : DeviceEntry := ⟨"tablet", "\t07070707070707070707070707070707\n", none,
      some "tablet", ["ssh"]⟩
    let device : Device :=
      ⟨⟨"tablet", by decide, by decide⟩, ⟨List.replicate 16 7, by decide⟩, .commonName "tablet",
        ["ssh"]⟩
    let who : Credentials := ⟨device.id, device.secret⟩
    let v := Validator.ofNanoseconds (Registry.empty.upsert device) 30000000000 1
    config.credentials = .ok who ∧ entry.toDevice = .ok device ∧
      ∃ datagram, who.knock 0 ⟨List.replicate 16 0, rfl⟩ none = .ok datagram ∧
        v.Heeds (.startingAt 0) device datagram := by
  intro config entry device who v
  have hagent : config.credentials = .ok who := by decide +kernel
  have hentry : entry.toDevice = .ok device := by decide +kernel
  have hlookup : v.registry.lookup device.id = some device := by decide +kernel
  obtain ⟨datagram, hknock⟩ : ∃ datagram, who.knock 0 ⟨List.replicate 16 0, rfl⟩ none =
      .ok datagram := Knock.exists_encode_iff.mpr ⟨rfl, Nat.zero_le _⟩
  obtain ⟨-, -, -, -, hknocks⟩ := recognised_iff_trimmed rfl rfl hagent hentry
  obtain ⟨-, hheeds, -⟩ := hknocks v 0 _ none datagram hlookup hknock
  exact ⟨hagent, hentry, datagram, hknock, hheeds (by decide +kernel) _⟩

/-- An identifier that was copied with blanks around it. Both readers accept it, and the device
is unknown to those who registered it. -/
theorem Agent.Config.unknown_of_padded_id :
    let config : Agent.Config := { agent := { deviceId := " dev-1 ", knockSecretHex :=
      "11111111111111111111111111111111" } }
    let entry : DeviceEntry := ⟨" dev-1 ", "11111111111111111111111111111111", none,
      some "dev-1", ["ssh"]⟩
    ∃ who device datagram, config.credentials = .ok who ∧ entry.toDevice = .ok device ∧
      who.id ≠ device.id ∧ who.knock 1700000000 ⟨List.replicate 16 1, rfl⟩ none = .ok datagram ∧
      (let v := Validator.ofNanoseconds (Registry.empty.upsert device) 30000000000 10
       v.registry.lookup device.id = some device ∧
        (v.validate (.startingAt 1700000000) datagram).2 = .error (.unknownDevice who.id)) := by
  intro config entry
  let secret : KnockSecret := ⟨List.replicate 16 0x11, by decide⟩
  let who : Credentials := ⟨⟨"dev-1", by decide, by decide⟩, secret⟩
  let device : Device := ⟨⟨" dev-1 ", by decide, by decide⟩, secret, .commonName "dev-1", ["ssh"]⟩
  let datagram := (who.knock 1700000000 ⟨List.replicate 16 1, rfl⟩ none).toOption.getD []
  refine ⟨who, device, datagram, ?_, ?_, ?_, ?_, ?_, ?_⟩ <;> decide +kernel

end Perimeter
