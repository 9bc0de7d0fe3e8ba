import Perimeter.Agent.Attempt
import Perimeter.Agent.Inbox
import Perimeter.Controller.Server
import Perimeter.Gateway.Server

/-!
# `Perimeter.Deployment`: the machines together

A controller, a gateway and a service behind it work on one clock, and clients reach
them over a network. The network carries everything or nothing. An agent is a client
like any other: its attempt is made of the same knocks and connections.

* `carried_of_down`: without a network no client reaches anything.
* `attempt`: an attempt of an agent among these machines.
-/

set_option autoImplicit false

namespace Perimeter

/-- Whether the network carries anything. -/
inductive Link where
  | up
  | down
deriving DecidableEq

/-- Fresh values: the one for each number. -/
structure Chance where
  ids : Nat → Uuid
  nonces : Nat → Nonce

/-- The machines, with the state of the network between them and their clients. -/
structure Deployment where
  clock : Clock
  link : Link
  controller : Option Controller.Server
  gateway : Option Gateway.Server
  controllerKnock : SocketAddress
  gatewayKnock : SocketAddress
  gatewayTls : SocketAddress
  /-- What the gateway presents in a handshake. -/
  gatewayCertificates : Tls.Presented
  /-- Whether the service behind the gateway answers. -/
  serviceUp : Bool
  chance : Chance
  /-- How many fresh values have been drawn. -/
  drawn : Nat

namespace Deployment

/-- Lets time pass. -/
def advance (d : Deployment) (ms : Nat) : Deployment := { d with clock := d.clock.advance ms }

/-- Lets every machine forget what has expired. -/
def sweep (d : Deployment) : Deployment :=
  { d with
    controller := d.controller.map (·.sweep d.clock)
    gateway := d.gateway.map (·.sweep d.clock) }

/-- Changes the devices that the gateway knows. -/
def changeRegistry (d : Deployment) (change : Registry → Registry) : Deployment :=
  { d with gateway := d.gateway.map fun s => s.withRegistry (change s.registry) }

/-- Lets the time for handshakes that have not begun run out. -/
def expireHandshakes (d : Deployment) : Deployment :=
  { d with gateway := d.gateway.map (·.expireHandshakes) }

/-- Hands a datagram to the controller and gives its answer. -/
def deliverToController (d : Deployment) (datagram : Bytes) : Deployment × Option Bytes :=
  match d.controller with
  | none => (d, none)
  | some controller =>
    let (controller, reply) := controller.knock d.clock (d.chance.ids d.drawn) datagram
    ({ d with controller := some controller, drawn := d.drawn + 1 }, reply)

/-- Hands a datagram to the gateway. -/
def deliverToGateway (d : Deployment) (source : IpAddress) (datagram : Bytes) : Deployment :=
  { d with gateway := d.gateway.map (·.knock d.clock source datagram) }

/-- Whether an address is admitted at the gateway. -/
def isAdmitted (d : Deployment) (source : IpAddress) : Deployment × Bool :=
  match d.gateway with
  | none => (d, false)
  | some gateway =>
    let (gateway, found) := gateway.isAdmitted d.clock source
    ({ d with gateway := some gateway }, found)

/-- Opens a connection to the gateway. -/
def connectToGateway (d : Deployment) (source : IpAddress) (handshake : Gateway.Handshake) :
    Deployment × Gateway.Arrival :=
  match d.gateway with
  | none => (d, .refused)
  | some gateway =>
    let (gateway, arrival) := gateway.connect d.clock source handshake
    ({ d with gateway := some gateway }, arrival)

/-- Closes a connection that had been established. -/
def close (d : Deployment) : Gateway.Arrival → Deployment
  | .established _ => { d with gateway := d.gateway.map (·.close) }
  | _ => d

/-- Whether a connection reaches the service. -/
def reachesService (d : Deployment) : Gateway.Arrival → Bool
  | .established _ => d.serviceUp
  | _ => false

/-- What comes of something that a client does: nothing if the network does not carry
it. -/
def carried {α : Type} (d : Deployment) (a : α) : Option α :=
  match d.link with
  | .up => some a
  | .down => none

/-- A client knocks at the controller and may hear something. -/
def knockController (d : Deployment) (datagram : Bytes) :
    Option (Deployment × Option Bytes) :=
  d.carried (d.deliverToController datagram)

/-- A client knocks at the gateway, and is admitted or not. -/
def knockGateway (d : Deployment) (source : IpAddress) (datagram : Bytes) :
    Option (Deployment × Bool) :=
  d.carried ((d.deliverToGateway source datagram).isAdmitted source)

/-- A client asks the controller about a token. There is no answer if nobody listens, or if the
answer breaks down. -/
def ask (d : Deployment) (request : Request) : Option (Option Response) :=
  d.carried (d.controller.bind (·.respond d.clock request))

/-- A client connects to the gateway. Unless it holds the connection, it closes it
again. The answer tells whether it reached the service. -/
def connect (d : Deployment) (source : IpAddress) (handshake : Gateway.Handshake)
    (hold : Bool) : Option (Deployment × Bool) :=
  let (after, arrival) := d.connectToGateway source handshake
  d.carried (if hold then after else after.close arrival, d.reachesService arrival)

theorem carried_of_down {α : Type} {d : Deployment} (h : d.link = .down) (a : α) :
    d.carried a = none := by
  simp [carried, h]

/-- An agent among the machines. -/
structure Visitor where
  source : IpAddress
  /-- What it presents in a handshake. -/
  certificates : Tls.Presented
  trust : Tls.ServerTrust

/-- The machines while an agent makes an attempt. -/
structure Visit where
  deployment : Deployment
  inbox : Agent.Inbox
  /-- Whether the agent has reached the service. -/
  reached : Bool

namespace Visitor

/-- The words of the system where nothing arrives. -/
def unreachable : String := "Network is unreachable (os error 101)"

/-- The words of the system where nobody listens. -/
def connectionRefused : String := "Connection refused (os error 111)"

/-- What is said of a handshake that the gateway has ended. -/
def handshakeEnded : String := "tls handshake eof"

/-- Whether an agent believes that it talks to its gateway. -/
def trusts (v : Visitor) (d : Deployment) : Bool :=
  match v.trust.check d.gatewayCertificates with
  | .ok () => true
  | .error _ => false

/-- Sends a datagram to a machine. -/
def send (v : Visitor) (target : SocketAddress) (datagram : Bytes) (visit : Visit) :
    Visit × Except String Unit :=
  let d := visit.deployment
  match d.link with
  | .down => (visit, .error unreachable)
  | .up =>
    if target = d.controllerKnock then
      let (deployment, reply) := d.deliverToController datagram
      ({ visit with
          deployment
          inbox := visit.inbox ++ (reply.map fun r => (target, r)).toList }, .ok ())
    else if target = d.gatewayKnock then
      ({ visit with deployment := d.deliverToGateway v.source datagram }, .ok ())
    else (visit, .ok ())

/-- Waits for a datagram from a machine. -/
def awaitReply (sender : SocketAddress) (visit : Visit) :
    Visit × Except String (Option Bytes) :=
  let (inbox, datagram) := visit.inbox.receive sender
  ({ visit with inbox }, .ok datagram)

/-- What an agent makes of how far its connection comes. It has ended its side of the
handshake before the gateway looks at its certificate, so that a certificate that is
not accepted shows only later. -/
def judge (trusts : Bool) : Gateway.Arrival → Except Agent.DialError Unit
  | .established _ => .ok ()
  | .rejected false => if trusts then .ok () else .error (.handshake handshakeEnded)
  | _ => .error (.handshake handshakeEnded)

/-- Connects to a machine, tries the service and closes the connection. -/
def dial (v : Visitor) (target : SocketAddress) (visit : Visit) :
    Visit × Except Agent.DialError Unit :=
  let d := visit.deployment
  match d.link with
  | .down => (visit, .error (.connect unreachable))
  | .up =>
    if target ≠ d.gatewayTls then (visit, .error (.connect connectionRefused))
    else
      -- An agent that does not trust the gateway breaks off before it presents anything.
      let handshake := if v.trusts d then .presenting v.certificates else .broken
      let (after, arrival) := d.connectToGateway v.source handshake
      ({ visit with deployment := after.close arrival, reached := d.reachesService arrival },
        judge (v.trusts d) arrival)

/-- What an agent meets with among the machines. -/
def outside (v : Visitor) : Agent.Outside Visit where
  now visit := (visit, visit.deployment.clock.unixSeconds)
  nonce visit :=
    let d := visit.deployment
    ({ visit with deployment := { d with drawn := d.drawn + 1 } }, d.chance.nonces d.drawn)
  send := v.send
  awaitReply sender _ := awaitReply sender
  pause ms visit := { visit with deployment := visit.deployment.advance ms }
  dial := v.dial

end Visitor

/-- An agent makes an attempt. The answer tells the positions it went through, whether
it reached the service, and how the attempt ended. -/
def attempt (d : Deployment) (v : Visitor) (plan : Agent.Plan) :
    Deployment × Agent.Sequencer × Bool × Except Agent.Failure Unit :=
  let (agent, visit, result) := (Agent.Sequencer.new plan).run v.outside ⟨d, [], false⟩
  (visit.deployment, agent, visit.reached, result)

end Deployment

end Perimeter
