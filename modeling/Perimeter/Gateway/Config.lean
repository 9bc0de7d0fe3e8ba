import Perimeter.Settings.Device
import Perimeter.Settings.Secret
import Perimeter.Settings.Storage
import Perimeter.Text.Blank

/-!
# `Perimeter.Gateway.Config`: the settings of a gateway

A gateway protects one service for its devices. It needs the secret behind the tokens
only if knocks have to carry one, and an authority only if a device is bound by a
name.

* `Config.form`: how the settings stand in a file.
* `Config.validate`: which settings can be used.
-/

set_option autoImplicit false

namespace Perimeter.Gateway

open Settings (Fields Form)

namespace Config

/-- What the gateway stands for. -/
structure General where
  /-- The service that devices and tokens must name. -/
  service : String := "ssh"
  logLevel : String := "info"
deriving DecidableEq

/-- Where the gateway listens and where the service is. -/
structure Network where
  knockListen : SocketAddress := .quad 0 0 0 0 62202
  tlsListen : SocketAddress := .quad 0 0 0 0 8443
  service : SocketAddress := .quad 127 0 0 1 22
  /-- Seconds that the service is given to answer. -/
  serviceConnectTimeout : UInt64 := 5
  /-- How many knocks are looked at at a time. -/
  maxInflight : UInt64 := 256
  /-- How many connections are open at a time. -/
  maxConnections : UInt64 := 1024
deriving DecidableEq

/-- What an admitted knock is worth. -/
structure Admission where
  /-- Seconds that an admission counts. -/
  ttl : UInt64 := 30
  capacity : UInt64 := 10000
deriving DecidableEq

/-- What the gateway trusts, and for how long. Spans are in seconds. -/
structure Security where
  requireToken : Bool := true
  tokenSecretHex : String := ""
  issuer : String := "sdp-controller"
  maxClockSkew : UInt64 := 30
  /-- How many accepted knocks are remembered. -/
  replayCapacity : UInt64 := 100000
  /-- How many tokens are remembered. -/
  usedTokenCapacity : UInt64 := 100000
  sweepInterval : UInt64 := 10
deriving DecidableEq

/-- The gateway's certificate, and who vouches for those of the devices. -/
structure Tls where
  certPath : String := ""
  keyPath : String := ""
  clientCaPath : Option String := none
  /-- Seconds that a handshake may take. -/
  handshakeTimeout : UInt64 := 10
deriving DecidableEq

/-- The form of the general settings. -/
def General.form : Form General :=
  (Fields.of General.mk
    |>.setting "service" .text (·.service) {}
    |>.setting "log_level" .text (·.logLevel) {}).form

/-- The form of the settings of the network. -/
def Network.form : Form Network :=
  (Fields.of Network.mk
    |>.setting "knock_listen" .address (·.knockListen) {}
    |>.setting "tls_listen" .address (·.tlsListen) {}
    |>.setting "upstream" .address (·.service) {}
    |>.setting "upstream_connect_timeout_secs" .count (·.serviceConnectTimeout) {}
    |>.setting "max_inflight" .count (·.maxInflight) {}
    |>.setting "max_connections" .count (·.maxConnections) {}).form

/-- The form of the settings of admissions. -/
def Admission.form : Form Admission :=
  (Fields.of Admission.mk
    |>.setting "ttl_secs" .count (·.ttl) {}
    |>.setting "capacity" .count (·.capacity) {}).form

/-- The form of the settings of security. -/
def Security.form : Form Security :=
  (Fields.of Security.mk
    |>.setting "require_token" .flag (·.requireToken) {}
    |>.setting "token_secret_hex" .text (·.tokenSecretHex) {}
    |>.setting "issuer" .text (·.issuer) {}
    |>.setting "max_clock_skew_secs" .count (·.maxClockSkew) {}
    |>.setting "replay_capacity" .count (·.replayCapacity) {}
    |>.setting "used_token_capacity" .count (·.usedTokenCapacity) {}
    |>.setting "sweep_interval_secs" .count (·.sweepInterval) {}).form

/-- The form of the settings of connections. -/
def Tls.form : Form Tls :=
  (Fields.of Tls.mk
    |>.setting "cert_path" .text (·.certPath) {}
    |>.setting "key_path" .text (·.keyPath) {}
    |>.member "client_ca_path" (.optional .text) (·.clientCaPath)
    |>.setting "handshake_timeout_secs" .count (·.handshakeTimeout) {}).form

end Config

/-- The settings of a gateway. -/
structure Config where
  gateway : Config.General := {}
  network : Config.Network := {}
  admission : Config.Admission := {}
  security : Config.Security := {}
  tls : Config.Tls := {}
  devices : List DeviceEntry := []
deriving DecidableEq

namespace Config

/-- The form of the settings. -/
def form : Form Config :=
  (Fields.of Config.mk
    |>.setting "gateway" General.form (·.gateway) {}
    |>.setting "network" Network.form (·.network) {}
    |>.setting "admission" Admission.form (·.admission) {}
    |>.setting "security" Security.form (·.security) {}
    |>.setting "tls" Tls.form (·.tls) {}
    |>.setting "devices" Settings.devices (·.devices) {}).form

/-- Reads the settings from a file. They have their values without one. -/
def load (path : String) (file : FileContent) : Except Settings.Error Config :=
  Settings.load form (some {}) path file

/-- The secret behind the tokens. -/
def tokenSecret (c : Config) : Except Settings.Cause Bytes :=
  Settings.tokenSecret c.security.tokenSecretHex

/-- Seconds between two sweeps. -/
def sweepInterval (c : Config) : UInt64 := Settings.atLeastOne c.security.sweepInterval

/-- Seconds that the service is given to answer. -/
def serviceConnectTimeout (c : Config) : UInt64 :=
  Settings.atLeastOne c.network.serviceConnectTimeout

/-- Seconds that a handshake may take. -/
def handshakeTimeout (c : Config) : UInt64 := Settings.atLeastOne c.tls.handshakeTimeout

/-- Whether some device is worth nothing without an authority. -/
def needsClientCa (c : Config) : Bool := c.devices.any (·.commonName.isSome)

/-- Checks the settings that have no value of their own, and those that must not be
zero. -/
def validate (c : Config) : Except Settings.Cause Unit := do
  if Text.trim c.gateway.service = "" then
    throw .emptyService
  if c.security.requireToken then
    let _ ← c.tokenSecret
  Settings.checkPositive .maxClockSkew c.security.maxClockSkew
  Settings.checkPositive .admissionTtl c.admission.ttl
  if c.needsClientCa ∧ c.tls.clientCaPath = none then
    throw .missingClientCa

end Config

end Perimeter.Gateway
