import Perimeter.Registry
import Perimeter.Settings.Form

/-!
# `Perimeter.Settings.Device`: devices in a file

Each device has a table of its own in the list `devices`. Its identifier and its
secret must be there.

* `devices`: the form of the list.
-/

set_option autoImplicit false

namespace Perimeter.Settings

/-- The form of a device. -/
def device : Form DeviceEntry :=
  (Fields.of DeviceEntry.mk
    |>.member "device_id" (.required .text) (·.deviceId)
    |>.member "knock_secret_hex" (.required .text) (·.knockSecretHex)
    |>.member "cert_fingerprint" (.optional .text) (·.certFingerprint)
    |>.member "common_name" (.optional .text) (·.commonName)
    |>.member "services" (.orElse (.list .text) []) (·.services)).form

/-- The form of a list of devices. -/
def devices : Form (List DeviceEntry) := .list device

end Perimeter.Settings
