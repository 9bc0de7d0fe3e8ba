import Perimeter.Agent.Attempt
import Perimeter.Settings.Secret
import Perimeter.Settings.Storage
import Perimeter.Wire.Knock

/-!
# `Perimeter.Agent.Config`: the settings of an agent

An agent is one device. It knows its secret and its certificate, where to knock, and
how to tell its gateway from another: by the digest of the gateway's certificate or by
an authority, never by both.

* `Config.form`: how the settings stand in a file.
* `Config.validate`: which settings can be used.
-/

set_option autoImplicit false

namespace Perimeter.Agent

open Settings (Fields Form)

namespace Config

/-- Which device the agent is. -/
structure General where
  deviceId : String := ""
  knockSecretHex : String := ""
  logLevel : String := "info"
deriving DecidableEq

/-- Where the agent knocks and connects. -/
structure Network where
  /-- Where tokens come from, if the gateway asks for them. -/
  controller : Option SocketAddress := none
  gatewayKnock : SocketAddress := .quad 127 0 0 1 62202
  gatewayTls : SocketAddress := .quad 127 0 0 1 8443
  /-- Where knocks are sent from. -/
  knockBind : SocketAddress := .quad 0 0 0 0 0
  /-- Milliseconds that a grant is waited for. -/
  replyTimeout : UInt64 := 2000
  /-- Milliseconds between the last knock and the connection. -/
  settle : UInt64 := 50
  /-- Seconds that the gateway is given to answer. -/
  connectTimeout : UInt64 := 5
deriving DecidableEq

/-- The agent's certificate, and how that of the gateway is checked. -/
structure Tls where
  certPath : String := ""
  keyPath : String := ""
  /-- The name that the gateway's certificate must bear for an authority to count. -/
  serverName : String := "localhost"
  serverCaPath : Option String := none
  /-- The digest of the gateway's certificate. -/
  serverFingerprint : Option String := none
  /-- Seconds that a handshake may take. -/
  handshakeTimeout : UInt64 := 10
deriving DecidableEq

/-- The form of the general settings. -/
def General.form : Form General :=
  (Fields.of General.mk
    |>.setting "device_id" .text (·.deviceId) {}
    |>.setting "knock_secret_hex" .text (·.knockSecretHex) {}
    |>.setting "log_level" .text (·.logLevel) {}).form

/-- The form of the settings of the network. -/
def Network.form : Form Network :=
  (Fields.of Network.mk
    |>.member "controller" (.optional .address) (·.controller)
    |>.setting "gateway_knock" .address (·.gatewayKnock) {}
    |>.setting "gateway_tls" .address (·.gatewayTls) {}
    |>.setting "knock_bind" .address (·.knockBind) {}
    |>.setting "reply_timeout_ms" .count (·.replyTimeout) {}
    |>.setting "settle_ms" .count (·.settle) {}
    |>.setting "connect_timeout_secs" .count (·.connectTimeout) {}).form

/-- The form of the settings of connections. -/
def Tls.form : Form Tls :=
  (Fields.of Tls.mk
    |>.setting "cert_path" .text (·.certPath) {}
    |>.setting "key_path" .text (·.keyPath) {}
    |>.setting "server_name" .text (·.serverName) {}
    |>.member "server_ca_path" (.optional .text) (·.serverCaPath)
    |>.member "server_fingerprint" (.optional .text) (·.serverFingerprint)
    |>.setting "handshake_timeout_secs" .count (·.handshakeTimeout) {}).form

end Config

/-- The settings of an agent. -/
structure Config where
  agent : Config.General := {}
  network : Config.Network := {}
  tls : Config.Tls := {}
deriving DecidableEq

namespace Config

/-- The form of the settings. -/
def form : Form Config :=
  (Fields.of Config.mk
    |>.setting "agent" General.form (·.agent) {}
    |>.setting "network" Network.form (·.network) {}
    |>.setting "tls" Tls.form (·.tls) {}).form

/-- Reads the settings from a file, which must be there. -/
def load (path : String) (file : FileContent) : Except Settings.Error Config :=
  Settings.load form none path file

/-- The device that the agent is. Blanks around its identifier and its secret count for
nothing. -/
def credentials (c : Config) : Except Settings.Cause Credentials := do
  let id ← (DeviceId.ofText (Text.trim c.agent.deviceId)).mapError .deviceId
  let secret ← (KnockSecret.ofHex (Text.trim c.agent.knockSecretHex)).mapError .knockSecret
  return ⟨id, secret⟩

/-- The digest that the gateway's certificate must have. -/
def serverFingerprint (c : Config) : Except Settings.Cause (Option (Octets 32)) :=
  match c.tls.serverFingerprint with
  | none => .ok none
  | some text => match Hex.decode (Text.utf8 (Text.trim text)) with
    | .error cause => .error (.serverFingerprintNotHex cause)
    | .ok bs => match Octets.ofBytes? fingerprintLength bs with
      | some digest => .ok (some digest)
      | none => .error (.serverFingerprintLength bs.length)

/-- Which machines are knocked at. -/
def route (c : Config) : Route :=
  match c.network.controller with
  | some controller => .viaController controller
  | none => .direct

/-- Milliseconds that a grant is waited for. -/
def replyTimeout (c : Config) : UInt64 := Settings.atLeastOne c.network.replyTimeout

/-- Seconds that the gateway is given to answer. -/
def connectTimeout (c : Config) : UInt64 := Settings.atLeastOne c.network.connectTimeout

/-- Seconds that a handshake may take. -/
def handshakeTimeout (c : Config) : UInt64 := Settings.atLeastOne c.tls.handshakeTimeout

/-- Checks the settings that have no value of their own. -/
def validate (c : Config) : Except Settings.Cause Unit := do
  let _ ← c.credentials
  if c.tls.certPath = "" ∨ c.tls.keyPath = "" then
    throw .missingCertificate
  let pin ← c.serverFingerprint
  if c.tls.serverCaPath.isSome = pin.isSome then
    throw .ambiguousServerTrust

/-- What the agent attempts. -/
def plan (c : Config) : Except Settings.Cause Plan := do
  return {
    who := ← c.credentials
    route := c.route
    gatewayKnock := c.network.gatewayKnock
    gatewayTls := c.network.gatewayTls
    replyTimeout := c.replyTimeout.toNat
    settle := c.network.settle.toNat }

end Config

end Perimeter.Agent
