import Perimeter.Settings.Device
import Perimeter.Settings.Secret
import Perimeter.Settings.Storage

/-!
# `Perimeter.Controller.Config`: the settings of the controller

Every setting has a value of its own, so that a file says only what is to be
different. One of these values is no use: the secret behind the tokens has to be
given.

* `Config.form`: how the settings stand in a file.
* `Config.validate`: which settings can be used.
-/

set_option autoImplicit false

namespace Perimeter.Controller

open Settings (Fields Form)

namespace Config

/-- What the controller calls itself. -/
structure General where
  logLevel : String := "info"
  /-- Who issues the tokens. -/
  issuer : String := "sdp-controller"
deriving DecidableEq

/-- Where the controller listens. -/
structure Network where
  knockListen : SocketAddress := .quad 0 0 0 0 62201
  httpListen : SocketAddress := .quad 0 0 0 0 8080
  /-- How many knocks are looked at at a time. -/
  maxInflight : UInt64 := 256
deriving DecidableEq

/-- What the controller trusts, and for how long. Spans are in seconds. -/
structure Security where
  tokenSecretHex : String := ""
  tokenTtl : UInt64 := 120
  maxClockSkew : UInt64 := 30
  /-- How many accepted knocks are remembered. -/
  replayCapacity : UInt64 := 100000
  sweepInterval : UInt64 := 10
deriving DecidableEq

/-- The form of the general settings. -/
def General.form : Form General :=
  (Fields.of General.mk
    |>.setting "log_level" .text (·.logLevel) {}
    |>.setting "issuer" .text (·.issuer) {}).form

/-- The form of the settings of the network. -/
def Network.form : Form Network :=
  (Fields.of Network.mk
    |>.setting "knock_listen" .address (·.knockListen) {}
    |>.setting "http_listen" .address (·.httpListen) {}
    |>.setting "max_inflight" .count (·.maxInflight) {}).form

/-- The form of the settings of security. -/
def Security.form : Form Security :=
  (Fields.of Security.mk
    |>.setting "token_secret_hex" .text (·.tokenSecretHex) {}
    |>.setting "token_ttl_secs" .count (·.tokenTtl) {}
    |>.setting "max_clock_skew_secs" .count (·.maxClockSkew) {}
    |>.setting "replay_capacity" .count (·.replayCapacity) {}
    |>.setting "sweep_interval_secs" .count (·.sweepInterval) {}).form

end Config

/-- The settings of the controller. -/
structure Config where
  controller : Config.General := {}
  network : Config.Network := {}
  security : Config.Security := {}
  devices : List DeviceEntry := []
deriving DecidableEq

namespace Config

/-- The form of the settings. -/
def form : Form Config :=
  (Fields.of Config.mk
    |>.setting "controller" General.form (·.controller) {}
    |>.setting "network" Network.form (·.network) {}
    |>.setting "security" Security.form (·.security) {}
    |>.setting "devices" Settings.devices (·.devices) {}).form

/-- Reads the settings from a file. They have their values without one. -/
def load (path : String) (file : FileContent) : Except Settings.Error Config :=
  Settings.load form (some {}) path file

/-- The secret behind the tokens. -/
def tokenSecret (c : Config) : Except Settings.Cause Bytes :=
  Settings.tokenSecret c.security.tokenSecretHex

/-- Seconds between two sweeps. -/
def sweepInterval (c : Config) : UInt64 := Settings.atLeastOne c.security.sweepInterval

/-- Checks the settings that have no value of their own, and those that must not be
zero. -/
def validate (c : Config) : Except Settings.Cause Unit := do
  let _ ← c.tokenSecret
  Settings.checkPositive .maxClockSkew c.security.maxClockSkew
  Settings.checkPositive .maxInflight c.network.maxInflight

theorem tokenSecret_ne_default : Config.tokenSecret {} = .error (.tokenSecretTooShort 0) := rfl

end Config

end Perimeter.Controller
