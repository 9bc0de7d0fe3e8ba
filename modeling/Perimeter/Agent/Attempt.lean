import Perimeter.Net.Address
import Perimeter.Text.Duration
import Perimeter.Wire.Grant
import Perimeter.Wire.Knock

/-!
# `Perimeter.Agent.Attempt`: what an agent does to get through

An agent that needs a token knocks at the controller, waits for the grant, knocks
at the gateway with the token, and connects. An agent that needs none knocks at the
gateway and connects. It never tries twice: silence looks the same whatever its
reason, and whether a further attempt is worth a knock is for others to say.

All that an attempt meets with outside is an `Outside σ`: functions over a state
that may do anything. The stages that were entered are written down as they are.

* `Sequencer.position_run`: an attempt ends where its result says.
-/

set_option autoImplicit false

namespace Perimeter.Agent

/-- The stages of an attempt. Each of them can fail. -/
inductive Stage where
  | buildKnock
  | sendKnock
  | awaitToken
  | sendSecondKnock
  | dial
deriving DecidableEq

/-- The stage as it is shown. -/
def Stage.name : Stage → String
  | buildKnock => "build-knock"
  | sendKnock => "send-knock"
  | awaitToken => "await-token"
  | sendSecondKnock => "send-second-knock"
  | dial => "dial-mtls"

/-- Where an attempt stands. -/
inductive Position where
  | idle
  | at (stage : Stage)
  | connected
  | failed (stage : Stage)
deriving DecidableEq

/-- The position as it is shown. -/
def Position.name : Position → String
  | idle => "idle"
  | .at stage => stage.name
  | connected => "connected"
  | failed stage => s!"failed at {stage.name}"

/-- Why no connection came about. The texts are those of the system. -/
inductive DialError where
  | connect (text : String)
  | handshake (text : String)
  /-- Nothing came within so many nanoseconds. -/
  | timedOut (span : Nat)
deriving DecidableEq

/-- Why a stage failed. -/
inductive Cause where
  | build (cause : Wire.Error)
  | transport (text : String)
  | noTokenReceived
  | invalidGrant (cause : Wire.Error)
  | expiredGrant (expiresAt : Int64)
  | dial (cause : DialError)
deriving DecidableEq

/-- The cause in words. -/
def Cause.message : Cause → String
  | build cause => s!"knock could not be built: {cause.message}"
  | transport text => s!"knock could not be sent: {text}"
  | noTokenReceived => "no token received from controller"
  | invalidGrant cause => s!"controller reply failed verification: {cause.message}"
  | expiredGrant expiresAt =>
    s!"controller granted a token that expired at {expiresAt.toInt}"
  | dial (.connect text) => s!"could not reach gateway: {text}"
  | dial (.handshake text) => s!"TLS handshake rejected by gateway: {text}"
  | dial (.timedOut span) => s!"gateway did not answer within {Text.duration span}"

/-- The end of an attempt that failed. -/
structure Failure where
  stage : Stage
  cause : Cause
deriving DecidableEq

/-- Which machines are knocked at. -/
inductive Route where
  /-- The controller for a token, then the gateway with it. -/
  | viaController (controller : SocketAddress)
  /-- The gateway alone. -/
  | direct
deriving DecidableEq

/-- What an attempt meets with outside: a clock, fresh nonces, a socket for datagrams
and a way to connect, all over a state. Spans are in milliseconds. -/
structure Outside (σ : Type) where
  now : σ → σ × Int64
  nonce : σ → σ × Nonce
  send : SocketAddress → Bytes → σ → σ × Except String Unit
  awaitReply : SocketAddress → Nat → σ → σ × Except String (Option Bytes)
  pause : Nat → σ → σ
  dial : SocketAddress → σ → σ × Except DialError Unit

/-- The state outside and the stages entered so far. -/
structure Journey (σ : Type) where
  outside : σ
  stages : List Stage

/-- A part of an attempt: it takes the journey further and may fail. -/
def Leg (σ α : Type) : Type := Journey σ → Journey σ × Except Failure α

namespace Leg

variable {σ α β : Type}

/-- The leg that does nothing. -/
def done (a : α) : Leg σ α := fun j => (j, .ok a)

/-- One leg after another, unless the first fails. -/
def andThen (first : Leg σ α) (next : α → Leg σ β) : Leg σ β := fun j =>
  match first j with
  | (j, .ok a) => next a j
  | (j, .error failure) => (j, .error failure)

instance : Monad (Leg σ) where
  pure := done
  bind := andThen

/-- The leg that fails. -/
def fail (stage : Stage) (cause : Cause) : Leg σ α := fun j => (j, .error ⟨stage, cause⟩)

/-- Enters a stage. -/
def enter (stage : Stage) : Leg σ Unit := fun j =>
  ({ j with stages := j.stages ++ [stage] }, .ok ())

/-- Asks something of the outside. -/
def ask (question : σ → σ × α) : Leg σ α := fun j =>
  let (outside, a) := question j.outside
  ({ j with outside }, .ok a)

/-- Goes on with a result, or fails for the reason given. -/
def orFail {ε : Type} (stage : Stage) (cause : ε → Cause) : Except ε α → Leg σ α
  | .ok a => done a
  | .error e => fail stage (cause e)

end Leg

/-- Who attempts to get through, and where. -/
structure Plan where
  who : Credentials
  route : Route
  gatewayKnock : SocketAddress
  gatewayTls : SocketAddress
  /-- How long the grant is waited for, in milliseconds. -/
  replyTimeout : Nat
  /-- How long the gateway is given after the knock, in milliseconds. -/
  settle : Nat

/-- The time that a grant is waited for unless something else is asked for, in
milliseconds. -/
def defaultReplyTimeout : Nat := 2000

/-- The time that the gateway is given unless something else is asked for, in
milliseconds. -/
def defaultSettle : Nat := 50

namespace Plan

variable {σ : Type}

/-- Writes a knock with the time and a fresh nonce, and gives the nonce too. -/
def build (p : Plan) (o : Outside σ) (stage : Stage) (token : Option String) :
    Leg σ (Nonce × Bytes) := do
  -- The time is read anew for every knock, since a grant may have been waited for.
  let now ← Leg.ask o.now
  let nonce ← Leg.ask o.nonce
  let datagram ← Leg.orFail stage .build (p.who.knock now nonce token)
  return (nonce, datagram)

/-- Sends a datagram. -/
def send (o : Outside σ) (stage : Stage) (target : SocketAddress) (datagram : Bytes) :
    Leg σ Unit := do
  Leg.orFail stage .transport (← Leg.ask (o.send target datagram))

/-- Knocks without a token and gives the nonce of the knock. -/
def firstKnock (p : Plan) (o : Outside σ) (target : SocketAddress) : Leg σ Nonce := do
  Leg.enter .buildKnock
  let (nonce, datagram) ← p.build o .buildKnock none
  Leg.enter .sendKnock
  send o .sendKnock target datagram
  return nonce

/-- Waits for the grant that answers a knock. -/
def awaitGrant (p : Plan) (o : Outside σ) (controller : SocketAddress) (nonce : Nonce) :
    Leg σ Grant := do
  Leg.enter .awaitToken
  let reply ← Leg.orFail .awaitToken .transport
    (← Leg.ask (o.awaitReply controller p.replyTimeout))
  match reply with
  | none => Leg.fail .awaitToken .noTokenReceived
  | some datagram =>
    let grant ← Leg.orFail .awaitToken .invalidGrant (Grant.decode p.who.secret datagram nonce)
    let now ← Leg.ask o.now
    if grant.expiresAt < now then Leg.fail .awaitToken (.expiredGrant grant.expiresAt)
    else return grant

/-- Knocks at the gateway with a token. -/
def secondKnock (p : Plan) (o : Outside σ) (token : String) : Leg σ Unit := do
  Leg.enter .sendSecondKnock
  let (_, datagram) ← p.build o .sendSecondKnock (some token)
  send o .sendSecondKnock p.gatewayKnock datagram

/-- Does all that comes before the connection. -/
def approach (p : Plan) (o : Outside σ) : Leg σ Unit :=
  match p.route with
  | .viaController controller => do
    let nonce ← p.firstKnock o controller
    let grant ← p.awaitGrant o controller nonce
    p.secondKnock o grant.token
  | .direct => do
    let _ ← p.firstKnock o p.gatewayKnock

/-- Connects to the gateway. -/
def connect (p : Plan) (o : Outside σ) : Leg σ Unit := do
  Leg.ask fun outside => (o.pause p.settle outside, ())
  Leg.enter .dial
  Leg.orFail .dial .dial (← Leg.ask (o.dial p.gatewayTls))

/-- One attempt from the first knock to the connection. -/
def attempt (p : Plan) (o : Outside σ) : Leg σ Unit := do
  p.approach o
  p.connect o

end Plan

/-- An agent with the positions of its last attempt. -/
structure Sequencer where
  plan : Plan
  positions : List Position

namespace Sequencer

variable {σ : Type}

/-- An agent that has attempted nothing yet. -/
def new (plan : Plan) : Sequencer := ⟨plan, [.idle]⟩

/-- The position in which the last attempt ended. -/
def position (s : Sequencer) : Position := s.positions.getLast?.getD .idle

/-- The position in which an attempt ends. -/
def terminal : Except Failure Unit → Position
  | .ok () => .connected
  | .error failure => .failed failure.stage

/-- Makes an attempt. Nothing is left of the one before. -/
def run (s : Sequencer) (o : Outside σ) (outside : σ) : Sequencer × σ × Except Failure Unit :=
  let (journey, result) := s.plan.attempt o ⟨outside, []⟩
  let positions := .idle :: journey.stages.map .at ++ [terminal result]
  ({ s with positions }, journey.outside, result)

theorem position_run (s : Sequencer) (o : Outside σ) (outside : σ) :
    (s.run o outside).1.position = terminal (s.run o outside).2.2 := by
  simp [run, position, List.getLast?_cons]

end Sequencer

end Perimeter.Agent
