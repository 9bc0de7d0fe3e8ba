import Perimeter.Proofs.Agent.Contacts

/-!
# `Perimeter.Proofs.Agent.Presented`: the tokens that an agent presents

Whatever the clock, the network and the gateway do, an agent that needs a token presents one
that it has been granted in the same attempt, and nothing else (`presents_only_granted_tokens`).
Until it has the grant, it sends nothing but its first knock, and it does not connect.

The proof asks of every contact of an attempt whether it may follow those before it
(`Plan.MayFollow`), and puts the answer together from the contacts of the legs.
-/

set_option autoImplicit false

namespace Perimeter.Agent

variable {σ : Type}

/-! ### Contacts in turn -/

/-- Every contact is such as may follow those before it. -/
def EachFollows (May : List Contact → Contact → Prop) (contacts : List Contact) : Prop :=
  ∀ before contact after, contacts = before ++ contact :: after → May before contact

section
variable {May : List Contact → Contact → Prop}

theorem eachFollows_nil : EachFollows May [] := by
  intro before contact after h
  simp at h

theorem EachFollows.cons {contact : Contact} {rest : List Contact} (hfirst : May [] contact)
    (hrest : EachFollows (fun before => May (contact :: before)) rest) :
    EachFollows May (contact :: rest) := by
  intro before contact' after h
  cases before with
  | nil =>
    cases h
    exact hfirst
  | cons first before =>
    cases h
    exact hrest before contact' after rfl

theorem EachFollows.append {made rest : List Contact} (hmade : EachFollows May made)
    (hrest : EachFollows (fun before => May (made ++ before)) rest) :
    EachFollows May (made ++ rest) := by
  -- What may follow changes with every contact that has been made.
  induction made generalizing May with
  | nil => exact hrest
  | cons first made ih =>
    refine .cons (hmade [] first made rfl) (ih ?_ hrest)
    rintro before contact after rfl
    exact hmade (first :: before) contact after rfl

end

namespace Plan

variable {p : Plan} {May : List Contact → Contact → Prop} {controller target : SocketAddress}
  {token : Option String} {knocked granted : List Contact} {nonce : Option Nonce} {grant : Grant}

/-- A datagram is the knock of an agent that presents the token it has been granted. -/
def Presents (p : Plan) (controller : SocketAddress) (before : List Contact) (datagram : Bytes) :
    Prop :=
  ∃ granted grant knocking nonce, p.Granted controller granted grant ∧
    before = granted ++ knocking ∧ p.Knocking (some grant.token) knocking nonce datagram

/-- What an agent that needs a token may do after what it has done. -/
def MayFollow (p : Plan) (controller : SocketAddress) (before : List Contact) : Contact → Prop
  | .sent target datagram _ =>
    (target = controller ∧ ∃ nonce, p.Knocking none before nonce datagram) ∨
      (target = p.gatewayKnock ∧ p.Presents controller before datagram)
  | .dialled target _ => target = p.gatewayTls ∧
    ∃ granted grant knocked nonce, p.Granted controller granted grant ∧
      p.Knocked (some grant.token) p.gatewayKnock knocked (some nonce) ∧
      before = granted ++ knocked ++ [.paused p.settle]
  | .awaited sender _ _ => sender = controller
  | .readTime _ | .drewNonce _ | .paused _ => True

/-- What an agent that needs no token may do after what it has done. -/
def MayFollowDirectly (p : Plan) (before : List Contact) : Contact → Prop
  | .sent target datagram _ =>
    target = p.gatewayKnock ∧ ∃ nonce, p.Knocking none before nonce datagram
  | .awaited _ _ _ => False
  | .dialled target _ => target = p.gatewayTls
  | .readTime _ | .drewNonce _ | .paused _ => True

/-- A knock consists of contacts that may be made if its datagram may be sent. -/
theorem Knocked.eachFollows (h : p.Knocked token target knocked nonce)
    (hread : ∀ before now, May before (.readTime now))
    (hdrew : ∀ before nonce, May before (.drewNonce nonce))
    (hsent : ∀ before nonce datagram outcome, p.Knocking token before nonce datagram →
      May before (.sent target datagram outcome)) : EachFollows May knocked := by
  have hknocking : ∀ {before nonce datagram outcome}, p.Knocking token before nonce datagram →
      EachFollows May (before ++ [.sent target datagram outcome]) := by
    rintro before nonce datagram outcome ⟨now, rfl, hencode⟩
    refine .cons (hread ..) (.cons (hdrew ..) (.cons ?_ eachFollows_nil))
    exact hsent _ nonce datagram outcome ⟨now, rfl, hencode⟩
  cases h with
  | unwritten now nonce => exact .cons (hread ..) (.cons (hdrew ..) eachFollows_nil)
  | untaken text h => exact hknocking h
  | taken h => exact hknocking h

theorem Knocked.eachFollows_first (h : p.Knocked none controller knocked nonce) :
    EachFollows (p.MayFollow controller) knocked :=
  h.eachFollows (fun _ _ => trivial) (fun _ _ => trivial)
    fun _ nonce _ _ hknocking => .inl ⟨rfl, nonce, hknocking⟩

theorem Awaited.eachFollows {awaited : List Contact} {nonce : Nonce} {grant : Option Grant}
    (h : p.Awaited controller nonce awaited grant) (before : List Contact) :
    EachFollows (fun during => p.MayFollow controller (before ++ during)) awaited := by
  cases h with
  | unopened => exact .cons rfl eachFollows_nil
  | expired | granted => exact .cons rfl (.cons trivial eachFollows_nil)

theorem Granted.eachFollows (h : p.Granted controller granted grant) :
    EachFollows (p.MayFollow controller) granted := by
  obtain ⟨before, nonce, datagram, reply, now, hknocking, hopens, hnow, rfl⟩ := h
  have hknocked : p.Knocked none controller (before ++ [.sent controller datagram (.ok ())]) _ :=
    .taken hknocking
  have hawaited := (Awaited.granted hopens hnow : p.Awaited controller nonce _ _).eachFollows
  simpa using hknocked.eachFollows_first.append (hawaited _)

/-- The second knock presents the token of the grant. -/
theorem Knocked.eachFollows_second (hgranted : p.Granted controller granted grant)
    (h : p.Knocked (some grant.token) p.gatewayKnock knocked nonce) :
    EachFollows (p.MayFollow controller) (granted ++ knocked) :=
  hgranted.eachFollows.append <| h.eachFollows (fun _ _ => trivial) (fun _ _ => trivial)
    fun before nonce _ _ hknocking =>
      .inr ⟨rfl, granted, grant, before, nonce, hgranted, rfl, hknocking⟩

theorem Approached.eachFollows {approached : List Contact} {came : Option Unit}
    (h : p.Approached approached came) (hroute : p.route = .viaController controller) :
    EachFollows (p.MayFollow controller) approached := by
  cases h with
  | direct hdirect => cases hroute.symm.trans hdirect
  | untaken hroute' hknocked =>
    cases hroute.symm.trans hroute'
    exact hknocked.eachFollows_first
  | ungranted hroute' hknocked hawaited =>
    cases hroute.symm.trans hroute'
    exact hknocked.eachFollows_first.append (hawaited.eachFollows _)
  | granted hroute' hgranted hknocked =>
    cases hroute.symm.trans hroute'
    exact hknocked.eachFollows_second hgranted

/-- An agent that needs a token does nothing but what it may do. -/
theorem Attempted.eachFollows {contacts : List Contact} (h : p.Attempted contacts)
    (hroute : p.route = .viaController controller) :
    EachFollows (p.MayFollow controller) contacts := by
  cases h with
  | failed hfailed => exact hfailed.eachFollows hroute
  | dialled hcame outcome =>
    refine (hcame.eachFollows hroute).append (.cons trivial (.cons ⟨rfl, ?_⟩ eachFollows_nil))
    -- So far comes only who has been granted a token and has presented it.
    generalize hcame' : some () = came at hcame
    cases hcame with
    | direct hdirect => cases hroute.symm.trans hdirect
    | untaken | ungranted => cases hcame'
    | @granted _ granted knocked grant nonce hroute' hgranted hknocked =>
      cases hroute.symm.trans hroute'
      cases nonce with
      | none => cases hcame'
      | some nonce => exact ⟨granted, grant, knocked, nonce, hgranted, hknocked, rfl⟩

/-- An agent that needs no token does nothing but what it may do. -/
theorem Attempted.eachFollows_directly {contacts : List Contact} (h : p.Attempted contacts)
    (hroute : p.route = .direct) : EachFollows p.MayFollowDirectly contacts := by
  have happroached : ∀ {approached came}, p.Approached approached came →
      EachFollows p.MayFollowDirectly approached := by
    intro approached came h
    cases h with
    | direct _ hknocked =>
      exact hknocked.eachFollows (fun _ _ => trivial) (fun _ _ => trivial)
        fun _ nonce _ _ hknocking => ⟨rfl, nonce, hknocking⟩
    | untaken hroute' | ungranted hroute' | granted hroute' => cases hroute.symm.trans hroute'
  cases h with
  | failed hfailed => exact happroached hfailed
  | dialled hcame outcome =>
    exact (happroached hcame).append (.cons trivial (.cons rfl eachFollows_nil))

end Plan

/-- An agent presents only tokens that it has been granted in the same attempt. Whatever the
outside does, and whatever attempts have been made before: on the way over a controller, a
datagram that is sent is the first knock, without a token, to the controller, or it is a knock to
the gateway with the token of a grant. The grant has opened, under the agent's own secret, from
a reply to the nonce of the first knock, and had not expired when it was read. The agent connects
only when such a knock has been sent. On the direct way it sends one knock without a token to the
gateway, and waits for nobody. -/
theorem Sequencer.presents_only_granted_tokens (s : Sequencer) (o : Outside σ) (outside : σ) :
    (∀ controller, s.plan.route = .viaController controller →
      (∀ before target datagram outcome after,
        s.contacts o outside = before ++ .sent target datagram outcome :: after →
          (target = controller ∧ ∃ nonce, s.plan.Knocking none before nonce datagram) ∨
          (target = s.plan.gatewayKnock ∧ ∃ granted grant knocking nonce,
            s.plan.Granted controller granted grant ∧ before = granted ++ knocking ∧
            s.plan.Knocking (some grant.token) knocking nonce datagram)) ∧
      ∀ before target outcome after,
        s.contacts o outside = before ++ .dialled target outcome :: after →
          target = s.plan.gatewayTls ∧ ∃ granted grant knocked nonce,
            s.plan.Granted controller granted grant ∧
            s.plan.Knocked (some grant.token) s.plan.gatewayKnock knocked (some nonce) ∧
            before = granted ++ knocked ++ [.paused s.plan.settle]) ∧
    (s.plan.route = .direct → ∀ before contact after,
      s.contacts o outside = before ++ contact :: after →
        (∀ target datagram outcome, contact = .sent target datagram outcome →
          target = s.plan.gatewayKnock ∧ ∃ nonce, s.plan.Knocking none before nonce datagram) ∧
        ∀ sender span outcome, contact ≠ .awaited sender span outcome) := by
  have hattempted := s.contacts_attempted o outside
  refine ⟨fun controller hroute => ⟨?sent, ?dialled⟩, ?direct⟩
  case sent =>
    intro before target datagram outcome after hcontacts
    exact hattempted.eachFollows hroute before _ after hcontacts
  case dialled =>
    intro before target outcome after hcontacts
    exact hattempted.eachFollows hroute before _ after hcontacts
  case direct =>
    intro hroute before contact after hcontacts
    have hmay := hattempted.eachFollows_directly hroute before contact after hcontacts
    refine ⟨?_, ?_⟩
    · rintro target datagram outcome rfl
      exact hmay
    · rintro sender span outcome rfl
      exact hmay

/-- A controller that grants a token for half a minute, and an agent that presents it. -/
theorem Sequencer.presents_only_granted_tokens_of_grant :
    let who : Credentials := ⟨⟨"tablet", by decide, by decide⟩, ⟨List.replicate 16 7, by decide⟩⟩
    let controller := SocketAddress.quad 192 0 2 1 62201
    let gatewayKnock := SocketAddress.quad 192 0 2 2 62202
    let nonce : Nonce := ⟨List.replicate 16 0, rfl⟩
    let o : Outside Unit := {
      now := fun s => (s, 1000)
      nonce := fun s => (s, nonce)
      send := fun _ _ s => (s, .ok ())
      awaitReply := fun _ _ s => (s, .ok (Grant.encode who.secret ⟨nonce, 1030, "token"⟩).toOption)
      pause := fun _ s => s
      dial := fun _ s => (s, .ok ()) }
    let s := Sequencer.new
      ⟨who, .viaController controller, gatewayKnock, .quad 192 0 2 2 8443, 2000, 50⟩
    ∃ before datagram after,
      s.contacts o () = before ++ .sent gatewayKnock datagram (.ok ()) :: after ∧
      ∃ granted grant knocking nonce, s.plan.Granted controller granted grant ∧
        before = granted ++ knocking ∧
        s.plan.Knocking (some grant.token) knocking nonce datagram := by
  intro who controller gatewayKnock nonce o s
  let second := (who.knock 1000 nonce (some "token")).toOption.getD []
  have hsent : .sent gatewayKnock second (.ok ()) ∈ s.contacts o () := by decide +kernel
  obtain ⟨before, after, hcontacts⟩ := List.append_of_mem hsent
  obtain ⟨hroute, -⟩ := s.presents_only_granted_tokens o ()
  refine ⟨before, second, after, hcontacts, ?_⟩
  obtain ⟨hsame, -⟩ | ⟨-, hgranted⟩ :=
    (hroute controller rfl).1 before gatewayKnock second _ after hcontacts
  · exact absurd hsame (by decide)
  · exact hgranted

end Perimeter.Agent
