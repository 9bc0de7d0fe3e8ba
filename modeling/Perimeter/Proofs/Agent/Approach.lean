import Perimeter.Agent.Attempt

/-!
# `Perimeter.Proofs.Agent.Approach`: the way over the controller

An agent that needs a token makes two knocks, and between them reads the answer to the first.
`Course` lists what it meets with outside on that way, question by question. If each answer is
what the agent hopes for, the agent passes the four stages before the connection
(`Plan.approach_of_course`).
-/

set_option autoImplicit false

namespace Perimeter.Agent

variable {σ : Type} {o : Outside σ} {plan : Plan} {stages : List Stage} {s s₁ s₂ s₃ : σ}

/-- A leg that succeeds leads to the next one. -/
theorem Leg.bind_of_ok {α β : Type} {first : Leg σ α} {next : α → Leg σ β} {j j' : Journey σ}
    {a : α} (h : first j = (j', .ok a)) : (first >>= next) j = next a j' := by
  show andThen first next j = _
  rw [andThen, h]

/-- What an agent meets with outside on its way over a controller to a gateway, where every
answer leaves another state: the time and the nonce for a first knock, a controller that takes the
knock and sends a reply, the time at which the reply is read, the time and the nonce for a
second knock, and a gateway that takes it. -/
def Course (o : Outside σ) (plan : Plan) (controller : SocketAddress) (firstAt : Int64)
    (firstNonce : Nonce) (first reply : Bytes) (readAt secondAt : Int64) (secondNonce : Nonce)
    (second : Bytes) (s s' : σ) : Prop :=
  ∃ s₁ s₂ s₃ s₄ s₅ s₆ s₇,
    o.now s = (s₁, firstAt) ∧ o.nonce s₁ = (s₂, firstNonce) ∧
    o.send controller first s₂ = (s₃, .ok ()) ∧
    o.awaitReply controller plan.replyTimeout s₃ = (s₄, .ok (some reply)) ∧
    o.now s₄ = (s₅, readAt) ∧
    o.now s₅ = (s₆, secondAt) ∧ o.nonce s₆ = (s₇, secondNonce) ∧
    o.send plan.gatewayKnock second s₇ = (s', .ok ())

namespace Plan

/-- A first knock that can be written and is taken. -/
theorem firstKnock_of_taken {target : SocketAddress} {now : Int64} {nonce : Nonce}
    {datagram : Bytes} (hnow : o.now s = (s₁, now)) (hnonce : o.nonce s₁ = (s₂, nonce))
    (hknock : plan.who.knock now nonce none = .ok datagram)
    (hsend : o.send target datagram s₂ = (s₃, .ok ())) :
    plan.firstKnock o target ⟨s, stages⟩ =
      (⟨s₃, stages ++ [.buildKnock, .sendKnock]⟩, .ok nonce) := by
  simp [firstKnock, build, send, bind, pure, Leg.andThen, Leg.enter, Leg.ask, Leg.orFail, Leg.done,
    hnow, hnonce, hknock, hsend]

/-- A reply that opens as a grant which has not expired when it is read. -/
theorem awaitGrant_of_opened {controller : SocketAddress} {nonce : Nonce} {reply : Bytes}
    {grant : Grant} {now : Int64}
    (hreply : o.awaitReply controller plan.replyTimeout s = (s₁, .ok (some reply)))
    (hopens : Grant.decode plan.who.secret reply nonce = .ok grant)
    (hnow : o.now s₁ = (s₂, now)) (hvalid : ¬ grant.expiresAt < now) :
    plan.awaitGrant o controller nonce ⟨s, stages⟩ =
      (⟨s₂, stages ++ [.awaitToken]⟩, .ok grant) := by
  simp [awaitGrant, bind, pure, Leg.andThen, Leg.enter, Leg.ask, Leg.orFail, Leg.done, hreply,
    hopens, hnow, hvalid]

/-- A second knock that can be written and is taken. -/
theorem secondKnock_of_taken {token : String} {now : Int64} {nonce : Nonce} {datagram : Bytes}
    (hnow : o.now s = (s₁, now)) (hnonce : o.nonce s₁ = (s₂, nonce))
    (hknock : plan.who.knock now nonce (some token) = .ok datagram)
    (hsend : o.send plan.gatewayKnock datagram s₂ = (s₃, .ok ())) :
    plan.secondKnock o token ⟨s, stages⟩ = (⟨s₃, stages ++ [.sendSecondKnock]⟩, .ok ()) := by
  simp [secondKnock, build, send, bind, pure, Leg.andThen, Leg.enter, Leg.ask, Leg.orFail,
    Leg.done, hnow, hnonce, hknock, hsend]

/-- An agent whose knocks can be written and are taken, and whose reply opens as a grant that has
not expired, has done all that comes before the connection. -/
theorem approach_of_course {controller : SocketAddress} {firstAt readAt secondAt : Int64}
    {firstNonce secondNonce : Nonce} {first reply second : Bytes} {grant : Grant} {s' : σ}
    (hroute : plan.route = .viaController controller)
    (hcourse : Course o plan controller firstAt firstNonce first reply readAt secondAt secondNonce
      second s s')
    (hfirst : plan.who.knock firstAt firstNonce none = .ok first)
    (hopens : Grant.decode plan.who.secret reply firstNonce = .ok grant)
    (hvalid : ¬ grant.expiresAt < readAt)
    (hsecond : plan.who.knock secondAt secondNonce (some grant.token) = .ok second) :
    plan.approach o ⟨s, stages⟩ =
      (⟨s', stages ++ [.buildKnock, .sendKnock, .awaitToken, .sendSecondKnock]⟩, .ok ()) := by
  obtain ⟨s₁, s₂, s₃, s₄, s₅, s₆, s₇, hnow₁, hnonce₁, hsend₁, hreply, hread, hnow₂, hnonce₂,
    hsend₂⟩ := hcourse
  rw [approach, hroute]
  show (plan.firstKnock o controller >>= _) _ = _
  rw [Leg.bind_of_ok (firstKnock_of_taken hnow₁ hnonce₁ hfirst hsend₁),
    Leg.bind_of_ok (awaitGrant_of_opened hreply hopens hread hvalid),
    secondKnock_of_taken hnow₂ hnonce₂ hsecond hsend₂]
  simp

end Plan

end Perimeter.Agent
