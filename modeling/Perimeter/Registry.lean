import Perimeter.Device
import Perimeter.Assoc

/-!
# `Perimeter.Registry`: the enrolled devices

The registry is the map from identifiers to devices that both servers consult
for every knock and every handshake. It is filled from configuration entries, all
of which are converted before the first identifier is compared with another.

* `id_of_lookup`: a device is found under its own identifier alone.
* `lookup_upsert`, `lookup_erase`: what a change does to each look-up.
* `remove_eq`: what is given back when a device is removed.
-/

set_option autoImplicit false

namespace Perimeter

/-- A device as a configuration file describes it. -/
structure DeviceEntry where
  deviceId : String
  knockSecretHex : String
  certFingerprint : Option String
  commonName : Option String
  services : List String
deriving DecidableEq

/-- Why entries do not make a registry. -/
inductive RegistryError where
  | duplicateDevice (id : String)
  | invalid (id : String) (cause : DeviceError)
  | ambiguousIdentity (id : String)
deriving DecidableEq

/-- The error in words. -/
def RegistryError.message : RegistryError → String
  | .duplicateDevice id => s!"device {id} is registered twice"
  | .invalid id cause => s!"device entry {Text.quoted id} is invalid: {cause.message}"
  | .ambiguousIdentity id =>
    s!"device {id} needs exactly one of cert_fingerprint or common_name"

/-- Checks an entry: the identifier, the secret, then that there is one binding. -/
def DeviceEntry.toDevice (entry : DeviceEntry) : Except RegistryError Device := do
  let invalid {α : Type} (r : Except DeviceError α) : Except RegistryError α :=
    r.mapError (.invalid entry.deviceId)
  let id ← invalid (DeviceId.ofText entry.deviceId)
  let secret ← invalid (KnockSecret.ofHex entry.knockSecretHex)
  let identity ← match entry.certFingerprint, entry.commonName with
    | some text, none => invalid (IdentityBinding.ofFingerprintHex text)
    | none, some name => .ok (.commonName name)
    | _, _ => .error (.ambiguousIdentity entry.deviceId)
  return ⟨id, secret, identity, entry.services⟩

/-- The devices, each under its identifier. -/
structure Registry where
  devices : List (DeviceId × Device)
  nodup : (Assoc.keys devices).Nodup
  id_eq : ∀ e ∈ devices, e.2.id = e.1
deriving DecidableEq

namespace Registry

/-- The registry without devices. -/
def empty : Registry := ⟨[], List.nodup_nil, nofun⟩

/-- The device registered under an identifier. -/
def lookup (r : Registry) (id : DeviceId) : Option Device := Assoc.get? r.devices id

/-- The number of devices. -/
def size (r : Registry) : Nat := r.devices.length

/-- Registers a device in place of any of the same identifier. -/
def upsert (r : Registry) (device : Device) : Registry where
  devices := Assoc.put r.devices device.id device
  nodup := Assoc.nodup_put r.nodup _ _
  id_eq e he := by
    rcases Assoc.mem_of_mem_put he with rfl | hmem
    · rfl
    · exact r.id_eq e hmem

/-- Removes the device of an identifier. -/
def erase (r : Registry) (id : DeviceId) : Registry where
  devices := Assoc.erase r.devices id
  nodup := Assoc.nodup_erase r.nodup id
  id_eq e he := r.id_eq e (List.mem_filter.mp he).1

/-- Removes the device of an identifier, and gives it back if there was one. -/
def remove (r : Registry) (id : DeviceId) : Registry × Option Device where
  fst :=
    { devices := (Assoc.remove r.devices id).1
      nodup := by
        rw [Assoc.remove_eq r.nodup]
        exact Assoc.nodup_erase r.nodup id
      id_eq := by
        rw [Assoc.remove_eq r.nodup]
        exact (r.erase id).id_eq }
  snd := (Assoc.remove r.devices id).2

/-- Registers a device whose identifier is still free. -/
def register (r : Registry) (device : Device) : Except RegistryError Registry :=
  match r.lookup device.id with
  | none => .ok (r.upsert device)
  | some _ => .error (.duplicateDevice device.id.text)

/-- The registry of some devices, no two of the same identifier. -/
def ofDevices (devices : List Device) : Except RegistryError Registry :=
  devices.foldlM register empty

/-- The registry of some entries. An entry that does not convert is reported before
any identifier that stands twice. -/
def ofEntries (entries : List DeviceEntry) : Except RegistryError Registry := do
  ofDevices (← entries.mapM DeviceEntry.toDevice)

/-- Registers some devices in place of all there are, if no two have the same identifier. -/
def replaceAll (r : Registry) (devices : List Device) : Registry × Except RegistryError Unit :=
  match ofDevices devices with
  | .ok fresh => (fresh, .ok ())
  | .error reason => (r, .error reason)

/-- A device is found under its own identifier alone. -/
theorem id_of_lookup {r : Registry} {id : DeviceId} {device : Device}
    (h : r.lookup id = some device) : device.id = id :=
  r.id_eq _ (Assoc.mem_of_get? h)

theorem lookup_upsert (r : Registry) (device : Device) (id : DeviceId) :
    (r.upsert device).lookup id = if device.id = id then some device else r.lookup id :=
  Assoc.get?_put _ _ _ _

theorem lookup_upsert_self (r : Registry) (device : Device) :
    (r.upsert device).lookup device.id = some device := by
  rw [lookup_upsert, if_pos rfl]

theorem remove_eq (r : Registry) (id : DeviceId) : r.remove id = (r.erase id, r.lookup id) := by
  simp only [remove, erase, lookup, Assoc.remove_eq r.nodup id]

theorem lookup_erase (r : Registry) (id id' : DeviceId) :
    (r.erase id).lookup id' = if id = id' then none else r.lookup id' :=
  Assoc.get?_erase _ _ _

end Registry

end Perimeter
