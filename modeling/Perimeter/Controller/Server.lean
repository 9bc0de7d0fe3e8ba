import Perimeter.Controller.Config
import Perimeter.Controller.GrantDesk
import Perimeter.Controller.TokenApi
import Perimeter.KnockPort
import Perimeter.Start

/-!
# `Perimeter.Controller.Server`: the controller at work

The controller has a port for knocks and answers those that count with grants. It also
answers questions about its tokens.

* `start`: what a configuration makes a controller of.
* `knock_snd_of_none`: only knocks that count are answered.
-/

set_option autoImplicit false

namespace Perimeter.Controller

/-- A controller at work. -/
structure Server where
  port : KnockPort
  desk : GrantDesk

namespace Server

/-- The number of knocks remembered. None asked for means as many as usual. -/
def replayCapacity (c : Config) : Nat :=
  if c.security.replayCapacity = 0 then ReplayGuard.defaultCapacity
  else c.security.replayCapacity.toNat

/-- Starts a controller. -/
def start (c : Config) : Except StartError Server := do
  c.validate.mapError .config
  let registry ← (Registry.ofEntries c.devices).mapError .registry
  let validator ← Start.validator registry c.security.maxClockSkew (replayCapacity c)
  let secret ← c.tokenSecret.mapError .config
  let issuer ← (TokenIssuer.new secret c.controller.issuer c.security.tokenTtl.toNat).mapError
    (.token .issuer)
  let maxInflight ← Start.permits c.network.maxInflight
  return ⟨KnockPort.new validator maxInflight, GrantDesk.new issuer⟩

/-- Takes in a datagram and gives the answer to its sender. A token that is issued gets
the number given. -/
def knock (s : Server) (clock : Clock) (id : Uuid) (datagram : Bytes) :
    Server × Option Bytes :=
  match s.port.receive clock 0 datagram with
  | (port, none) => ({ s with port }, none)
  | (port, some knock) => match s.desk.onKnock clock.unixSeconds id knock with
    | (desk, some reply) => (⟨port.replied, desk⟩, some reply)
    | (desk, none) => (⟨port, desk⟩, none)

/-- Answers a question about tokens, unless it breaks down. -/
def respond (s : Server) (clock : Clock) (request : Request) : Option Response :=
  TokenApi.respond s.desk.issuer clock.unixSeconds request

/-- Forgets what has expired. -/
def sweep (s : Server) (clock : Clock) : Server := { s with port := s.port.sweep clock }

theorem knock_snd_of_none {s : Server} {clock : Clock} {id : Uuid} {datagram : Bytes}
    (h : (s.port.receive clock 0 datagram).2 = none) : (s.knock clock id datagram).2 = none := by
  unfold knock
  split
  · rfl
  · simp_all

end Server

end Perimeter.Controller
