import Perimeter.Agent.Config
import Perimeter.Net.ServerName
import Perimeter.Tls.Verifier

/-!
# `Perimeter.Agent.Setup`: an agent that is ready to start

Before its first knock an agent makes sure that its settings can be used and that it
will be able to tell its gateway: the name that it is going to ask for must be one.

* `ofConfig_of_invalid`: settings that cannot be used are reported first.
-/

set_option autoImplicit false

namespace Perimeter.Agent

/-- Why an agent does not start. -/
inductive SetupError where
  | config (cause : Settings.Cause)
  | serverName (name : String)
deriving DecidableEq

/-- The error in words. -/
def SetupError.message : SetupError → String
  | .config cause => (Settings.Error.invalid cause).message
  | .serverName name => Net.ServerName.refusal name

/-- An agent that is ready to start. -/
structure Setup where
  plan : Plan
  trust : Tls.ServerTrust

namespace Setup

/-- How the gateway is told: by its digest if one is set, and otherwise by the authority
in a file. Who that authority vouches for is for others to say. -/
def trustOf (c : Config) (vouches : String → String → Tls.Presented → Bool) :
    Except Settings.Cause Tls.ServerTrust := do
  match ← c.serverFingerprint with
  | some digest => return .pinned digest
  | none => return .named (vouches (c.tls.serverCaPath.getD "")) c.tls.serverName

/-- Makes an agent ready. -/
def ofConfig (c : Config) (vouches : String → String → Tls.Presented → Bool) :
    Except SetupError Setup := do
  c.validate.mapError .config
  let plan ← c.plan.mapError .config
  let trust ← (trustOf c vouches).mapError .config
  if Net.ServerName.isValid c.tls.serverName then return ⟨plan, trust⟩
  else throw (.serverName c.tls.serverName)

theorem ofConfig_of_invalid {c : Config} {cause : Settings.Cause}
    (h : c.validate = .error cause) (vouches : String → String → Tls.Presented → Bool) :
    ofConfig c vouches = .error (.config cause) := by
  rw [ofConfig, h]
  rfl

end Setup

end Perimeter.Agent
