import Perimeter.Proofs.Checks
import Perimeter.Registry

/-!
# `Perimeter.Proofs.Enrolment`: how a device comes into a registry

A device is described by an entry of a configuration, and a registry is made of all of them.
The parts of the device are read from the entry one by one (`DeviceEntry.parts_of_toDevice`).
Each device is registered if its identifier is still free, so that none takes the place of
another (`Registry.lookup_of_foldlM`).
-/

set_option autoImplicit false

namespace Perimeter

/-! ### A device and its entry -/

/-- What a device is called, what its knocks are checked with and where it may go are read from
its entry. -/
theorem DeviceEntry.parts_of_toDevice {entry : DeviceEntry} {device : Device}
    (h : entry.toDevice = .ok device) :
    DeviceId.ofText entry.deviceId = .ok device.id ∧
      KnockSecret.ofHex entry.knockSecretHex = .ok device.secret ∧
      device.services = entry.services := by
  simp only [toDevice, Checks.bind_eq_ok, Checks.mapError_eq_ok] at h
  obtain ⟨id, hid, secret, hsecret, h⟩ := h
  -- How the certificate is bound is another part of the device.
  split at h <;> rw [Checks.bind_eq_ok] at h <;> obtain ⟨identity, -, h⟩ := h <;> cases h
  all_goals exact ⟨hid, hsecret, rfl⟩

/-! ### Devices that are registered -/

namespace Registry

variable {r r' : Registry} {devices : List Device} {device : Device} {id : DeviceId}

/-- Registering a device leaves the others as they are. -/
theorem lookup_of_register (h : r.register device = .ok r') (id : DeviceId) :
    r'.lookup id = if device.id = id then some device else r.lookup id := by
  unfold register at h
  split at h
  · cases h
    exact lookup_upsert r device id
  · cases h

/-- Every device of a list that makes a registry is found in it, and none is lost. -/
theorem lookup_of_foldlM (h : devices.foldlM register r = .ok r') :
    (∀ device ∈ devices, r'.lookup device.id = some device) ∧
      ∀ id device, r.lookup id = some device → r'.lookup id = some device := by
  induction devices generalizing r with
  | nil =>
    cases h
    exact ⟨nofun, fun _ _ hfound => hfound⟩
  | cons first rest ih =>
    rw [List.foldlM_cons, Checks.bind_eq_ok] at h
    obtain ⟨next, hregister, hrest⟩ := h
    obtain ⟨hall, hkept⟩ := ih hrest
    have hnext := lookup_of_register hregister
    constructor
    · intro device hdevice
      rcases List.mem_cons.mp hdevice with rfl | hdevice
      · exact hkept _ _ (by rw [hnext, if_pos rfl])
      · exact hall device hdevice
    · intro id device hfound
      refine hkept id device ?_
      rw [hnext]
      split
      -- The first device has an identifier that was free.
      · rename_i hid
        unfold register at hregister
        rw [hid, hfound] at hregister
        cases hregister
      · exact hfound

/-- Entries that make a registry make one with a device in it, if there are any. -/
theorem exists_lookup_of_ofEntries {entries : List DeviceEntry} (h : ofEntries entries = .ok r)
    (hsome : entries ≠ []) : ∃ device, r.lookup device.id = some device := by
  obtain ⟨entry, rest, rfl⟩ := List.exists_cons_of_ne_nil hsome
  simp only [ofEntries, List.mapM_cons, Checks.bind_eq_ok, Checks.pure_eq_ok] at h
  obtain ⟨devices, ⟨device, -, others, -, rfl⟩, hfold⟩ := h
  exact ⟨device, (lookup_of_foldlM hfold).1 device List.mem_cons_self⟩

end Registry

end Perimeter
