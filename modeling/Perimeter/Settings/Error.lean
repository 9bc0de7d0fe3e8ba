import Perimeter.Device
import Perimeter.File
import Perimeter.Token

/-!
# `Perimeter.Settings.Error`: why a configuration cannot be used

A file may be out of reach, may not read as settings, or may hold settings that read
well and cannot be used. The last kind names the setting.

* `Settings.Error.message`: the words for each of them.
-/

set_option autoImplicit false

namespace Perimeter.Settings

/-- Settings that must not be zero. -/
inductive Positive where
  | maxClockSkew
  | maxInflight
  | admissionTtl
deriving DecidableEq

/-- The setting as it stands in a file. -/
def Positive.name : Positive → String
  | maxClockSkew => "security.max_clock_skew_secs"
  | maxInflight => "network.max_inflight"
  | admissionTtl => "admission.ttl_secs"

/-- Why settings cannot be used. -/
inductive Cause where
  | notPositive (setting : Positive)
  | tokenSecretNotHex (cause : Hex.Error)
  | tokenSecretTooShort (length : Nat)
  | emptyService
  /-- A device is bound by a name that no authority vouches for. -/
  | missingClientCa
  | deviceId (cause : DeviceError)
  | knockSecret (cause : DeviceError)
  | missingCertificate
  | serverFingerprintNotHex (cause : Hex.Error)
  | serverFingerprintLength (length : Nat)
  /-- The gateway's certificate is to be checked in no way, or in two. -/
  | ambiguousServerTrust
deriving DecidableEq

/-- The cause in words. -/
def Cause.message : Cause → String
  | notPositive setting => s!"{setting.name} must be positive"
  | tokenSecretNotHex cause => s!"security.token_secret_hex: {cause.message}"
  | tokenSecretTooShort n =>
    s!"security.token_secret_hex must decode to at least {minTokenSecretLength} bytes, got {n}"
  | emptyService => "gateway.service must not be empty"
  | missingClientCa => "devices bound by common_name need tls.client_ca_path"
  | deviceId cause => s!"agent.device_id: {cause.message}"
  | knockSecret cause => s!"agent.knock_secret_hex: {cause.message}"
  | missingCertificate => "tls.cert_path and tls.key_path are required"
  | serverFingerprintNotHex cause => s!"tls.server_fingerprint: {cause.message}"
  | serverFingerprintLength n =>
    s!"tls.server_fingerprint must be {fingerprintLength} bytes, got {n}"
  | ambiguousServerTrust =>
    "set exactly one of tls.server_ca_path and tls.server_fingerprint"

/-- Why there is no configuration. -/
inductive Error where
  /-- The system does not say where configurations lie. -/
  | noPlatformDirectory
  | file (path : String) (fault : FileFault)
  /-- The file does not read as settings. -/
  | unreadable
  /-- A setting is out of the range of a file. -/
  | unwritable
  | invalid (cause : Cause)
deriving DecidableEq

/-- The error in words. -/
def Error.message : Error → String
  | noPlatformDirectory => "could not determine platform config directory"
  | file path fault => s!"I/O error accessing config at {path}: {fault.message}"
  | unreadable => "failed to parse config TOML"
  | unwritable => "failed to serialize config"
  | invalid cause => s!"invalid configuration: {cause.message}"

end Perimeter.Settings
