import Perimeter.Deployment
import Perimeter.Proofs.Wire.Grant

/-!
# `Perimeter.Proofs.Agent.Reply`: which datagram answers the agent

All that is sent to an agent arrives at one socket, from the controller and from strangers, and
for this attempt and earlier ones. The agent takes the first datagram that bears the controller's
address, and judges that one alone. So whatever strangers send is passed over, and whatever comes
later is not missed (`Plan.first_from_controller_decides`).

An address is easily forged, and an answer can be late. What stands in front of the right answer
and bears the controller's address is taken in its place, and the attempt fails for it
(`Plan.late_grant_hides_answer`).
-/

set_option autoImplicit false

namespace Perimeter

/-! ### What the buffer makes of a grant -/

namespace Grant

variable {secret : KnockSecret} {datagram : Bytes} {nonce : Nonce} {grant : Grant}

theorem decode_of_long (h : maxLength < datagram.length) :
    decode secret datagram nonce = .error (.oversized datagram.length maxLength) := by
  rw [decode, if_pos h]
  rfl

/-- The agent's buffer holds every grant whole, and of what is longer it holds too much. -/
theorem decode_cut_eq_ok_iff :
    decode secret (Agent.Inbox.cut datagram) nonce = .ok grant ↔
      decode secret datagram nonce = .ok grant := by
  by_cases hlong : maxLength < datagram.length
  · have hcut : maxLength < (Agent.Inbox.cut datagram).length := by
      rw [Agent.Inbox.cut, List.length_take]
      omega
    rw [decode_of_long hlong, decode_of_long hcut]
    simp
  · have hsame : Agent.Inbox.cut datagram = datagram := by
      rw [Agent.Inbox.cut, List.take_of_length_le (by omega)]
    rw [hsame]

end Grant

namespace Agent

/-- Behind what others have sent stands the first datagram from a sender. It is received, and
what stands behind it is left. -/
theorem Inbox.receive_of_first {sender : SocketAddress} {before after : Inbox} {datagram : Bytes}
    (h : sender ∉ before.map Prod.fst) :
    (before ++ (sender, datagram) :: after : Inbox).receive sender =
      (after, some (Inbox.cut datagram)) := by
  induction before with
  | nil => simp [receive]
  | cons first rest ih =>
    obtain ⟨hother, hrest⟩ : sender ≠ first.1 ∧ sender ∉ rest.map Prod.fst := by simpa using h
    show (if first.1 = sender then _ else receive sender (rest ++ _)) = _
    rw [if_neg hother.symm]
    exact ih hrest

variable {σ : Type}

/-- An agent hears from outside through a socket: whenever it waits for somebody, it receives from
what has arrived there. -/
def Outside.HearsFrom (o : Outside σ) (arrived : σ → Inbox) : Prop :=
  ∀ sender span outside,
    (o.awaitReply sender span outside).2 = .ok ((arrived outside).receive sender).2

/-- Among the machines an agent hears through the socket of its visit. -/
theorem hearsFrom_inbox (v : Deployment.Visitor) : v.outside.HearsFrom Deployment.Visit.inbox :=
  fun _ _ _ => rfl

/-- What comes of a reply that is read at some time. -/
def judgeReply (secret : KnockSecret) (nonce : Nonce) (readAt : Int64) :
    Option Bytes → Except Cause Grant
  | none => .error .noTokenReceived
  | some reply => match Grant.decode secret reply nonce with
    | .error cause => .error (.invalidGrant cause)
    | .ok grant =>
      if grant.expiresAt < readAt then .error (.expiredGrant grant.expiresAt) else .ok grant

/-- The wait for a grant comes to what the reply comes to. -/
theorem Plan.awaitGrant_of_reply {p : Plan} {o : Outside σ} {controller : SocketAddress}
    {nonce : Nonce} {j : Journey σ} {reply : Option Bytes}
    (h : (o.awaitReply controller p.replyTimeout j.outside).2 = .ok reply) :
    let readAt := (o.now (o.awaitReply controller p.replyTimeout j.outside).1).2
    (p.awaitGrant o controller nonce j).2 =
      (judgeReply p.who.secret nonce readAt reply).mapError (Failure.mk .awaitToken) := by
  intro readAt
  cases hwait : o.awaitReply controller p.replyTimeout j.outside with
  | mk outside outcome =>
    rw [hwait] at h
    cases h
    -- The leg fails in the same places as the judgement, and in the same order.
    simp only [awaitGrant, bind, pure, Leg.andThen, Leg.enter, Leg.ask, hwait, readAt]
    cases reply with
    | none => rfl
    | some reply =>
      simp only [judgeReply, Leg.orFail, Leg.done]
      cases Grant.decode p.who.secret reply nonce with
      | error cause => rfl
      | ok grant =>
        by_cases hlate : grant.expiresAt < (o.now outside).2
        · simp [hlate, Leg.andThen, Leg.done, Leg.ask, Leg.fail, Checks.mapError_error]
        · simp [hlate, Leg.andThen, Leg.done, Leg.ask, Checks.mapError_ok]

/-- The first datagram from the controller decides. Whatever has arrived when an agent waits for
the grant, in whatever order, and whatever attempts were made before:

If nothing bears the controller's address, there is no token. Otherwise the first datagram that
does is the only one to count, whatever strangers have sent before it and whatever stands behind
it. If it opens as a grant for the knock of this attempt that has not expired when it is read, that
is the grant. If it opens and has expired, or does not open, the attempt fails for that reason. -/
theorem Plan.first_from_controller_decides (p : Plan) (o : Outside σ) (arrived : σ → Inbox)
    (hears : o.HearsFrom arrived) (controller : SocketAddress) (nonce : Nonce) (j : Journey σ) :
    let readAt := (o.now (o.awaitReply controller p.replyTimeout j.outside).1).2
    let outcome := (p.awaitGrant o controller nonce j).2
    (controller ∉ (arrived j.outside).map Prod.fst →
      outcome = .error ⟨.awaitToken, .noTokenReceived⟩) ∧
    ∀ before datagram after, arrived j.outside = before ++ (controller, datagram) :: after →
      controller ∉ before.map Prod.fst →
      (∀ grant, outcome = .ok grant ↔
        Grant.decode p.who.secret datagram nonce = .ok grant ∧ readAt ≤ grant.expiresAt) ∧
      (∀ grant, Grant.decode p.who.secret datagram nonce = .ok grant → grant.expiresAt < readAt →
        outcome = .error ⟨.awaitToken, .expiredGrant grant.expiresAt⟩) ∧
      ∀ cause, Grant.decode p.who.secret (Inbox.cut datagram) nonce = .error cause →
        outcome = .error ⟨.awaitToken, .invalidGrant cause⟩ := by
  intro readAt outcome
  have houtcome : outcome = (judgeReply p.who.secret nonce readAt
      ((arrived j.outside).receive controller).2).mapError (Failure.mk .awaitToken) :=
    awaitGrant_of_reply (hears controller p.replyTimeout j.outside)
  refine ⟨?_, ?_⟩
  · intro hnobody
    rw [houtcome, Inbox.receive_eq_none_iff.mpr hnobody]
    rfl
  · intro before datagram after harrived hstrangers
    rw [harrived, Inbox.receive_of_first hstrangers] at houtcome
    rw [houtcome, judgeReply]
    refine ⟨?_, ?_, ?_⟩
    · intro grant
      rw [Checks.mapError_eq_ok, ← Grant.decode_cut_eq_ok_iff, ← Int64.not_lt]
      cases Grant.decode p.who.secret (Inbox.cut datagram) nonce with
      | error cause => simp
      | ok opened =>
        simp only [Checks.error_if_eq_ok, Except.ok.injEq]
        -- Whether the grant has expired is asked of the one that has opened.
        constructor
        · intro h
          obtain ⟨hvalid, hsame⟩ := h
          exact ⟨hsame, hsame ▸ hvalid⟩
        · intro h
          obtain ⟨hsame, hvalid⟩ := h
          exact ⟨hsame ▸ hvalid, hsame⟩
    · intro grant hopens hlate
      rw [Grant.decode_cut_eq_ok_iff.mpr hopens]
      simp [hlate, Checks.mapError_error]
    · intro cause hrefused
      rw [hrefused]
      rfl

/-- An outside that is no more than a socket, at a time that does not pass. -/
def Outside.socket (now : Int64) (nonce : Nonce) : Outside Inbox where
  now inbox := (inbox, now)
  nonce inbox := (inbox, nonce)
  send _ _ inbox := (inbox, .ok ())
  awaitReply sender _ inbox := ((inbox.receive sender).1, .ok (inbox.receive sender).2)
  pause _ inbox := inbox
  dial _ inbox := (inbox, .error (.connect "connection refused"))

/-- A stranger sends a forgery, and the answer behind it is heard. What stands behind the answer
is not looked at. -/
theorem Plan.first_from_controller_decides_of_stranger :
    let who : Credentials := ⟨⟨"tablet", by decide, by decide⟩, ⟨List.replicate 16 7, by decide⟩⟩
    let controller := SocketAddress.quad 192 0 2 1 62201
    let stranger := SocketAddress.quad 192 0 2 9 62201
    let p : Plan := ⟨who, .viaController controller, .quad 192 0 2 2 62202, .quad 192 0 2 2 8443,
      2000, 50⟩
    let grant : Grant := ⟨⟨List.replicate 16 1, rfl⟩, 1030, "token"⟩
    let answer := (Grant.encode who.secret grant).toOption.getD []
    let o := Outside.socket 1000 grant.nonce
    let arriving := [(stranger, [2, 2]), (controller, answer), (controller, [1, 2])]
    o.HearsFrom id ∧ Grant.decode who.secret answer grant.nonce = .ok grant ∧
      (p.awaitGrant o controller grant.nonce ⟨arriving, []⟩).2 = .ok grant := by
  intro who controller stranger p grant answer o arriving
  have hears : o.HearsFrom id := fun _ _ _ => rfl
  have hopens : Grant.decode who.secret answer grant.nonce = .ok grant := by decide +kernel
  obtain ⟨-, hfirst⟩ :=
    p.first_from_controller_decides o id hears controller grant.nonce ⟨arriving, []⟩
  obtain ⟨hgranted, -⟩ := hfirst [(stranger, [2, 2])] answer [(controller, [1, 2])] rfl (by decide)
  exact ⟨hears, hopens, (hgranted grant).mpr ⟨hopens, by decide⟩⟩

/-- The answer to an earlier attempt comes late, in front of the answer to this one. The attempt
fails for it, although a grant has arrived from the controller that opens and has not expired. -/
theorem Plan.late_grant_hides_answer :
    let who : Credentials := ⟨⟨"tablet", by decide, by decide⟩, ⟨List.replicate 16 7, by decide⟩⟩
    let controller := SocketAddress.quad 192 0 2 1 62201
    let p : Plan := ⟨who, .viaController controller, .quad 192 0 2 2 62202, .quad 192 0 2 2 8443,
      2000, 50⟩
    let earlier : Grant := ⟨⟨List.replicate 16 0, rfl⟩, 1020, "token"⟩
    let grant : Grant := ⟨⟨List.replicate 16 1, rfl⟩, 1030, "token"⟩
    let late := (Grant.encode who.secret earlier).toOption.getD []
    let answer := (Grant.encode who.secret grant).toOption.getD []
    let o := Outside.socket 1000 grant.nonce
    let arriving := [(controller, late), (controller, answer)]
    Grant.decode who.secret answer grant.nonce = .ok grant ∧ 1000 ≤ grant.expiresAt ∧
      (p.awaitGrant o controller grant.nonce ⟨arriving, []⟩).2 =
        .error ⟨.awaitToken, .invalidGrant .nonceMismatch⟩ := by
  intro who controller p earlier grant late answer o arriving
  exact ⟨by decide +kernel, by decide, by decide +kernel⟩

end Agent

end Perimeter
