import Mathlib.Control.Monad.Basic
import Perimeter.Agent.Attempt

/-!
# `Perimeter.Proofs.Agent.Contacts`: what an agent has to do with the outside

An attempt is a run against an outside that may do anything. `Sequencer.contacts` lists what the
agent asks of it and what the outside answers, in turn. The list is made by an outside that
answers the same and writes everything down, and the attempt is none the different for it
(`run_recorded`).

`Leg.Makes` describes the contacts of a leg. A description is put together from those of the
parts, by one rule for each way in which a leg is built (`makes_ask`, `makes_orFail`,
`Makes.bind`), so that every leg of an attempt has a description of its own.

* `Knocked`, `Awaited`, `Granted`: the contacts of a knock, of the wait for the answer, and of
  both if they lead to a grant.
* `Approached`, `Attempted`: those of all that comes before the connection, and of an attempt.
* `contacts_attempted`: an attempt makes the contacts that its plan leads to, and no others.
-/

set_option autoImplicit false

namespace Perimeter.Agent

/-- A question to the outside with the answer to it. -/
inductive Contact where
  | readTime (now : Int64)
  | drewNonce (nonce : Nonce)
  | sent (target : SocketAddress) (datagram : Bytes) (outcome : Except String Unit)
  | awaited (sender : SocketAddress) (span : Nat) (outcome : Except String (Option Bytes))
  | paused (span : Nat)
  | dialled (target : SocketAddress) (outcome : Except DialError Unit)
deriving DecidableEq

variable {σ α β : Type}

/-- A question, the answer to which is written down. -/
def recording (contact : α → Contact) (question : σ → σ × α) (s : σ × List Contact) :
    (σ × List Contact) × α :=
  (((question s.1).1, s.2 ++ [contact (question s.1).2]), (question s.1).2)

/-- The same outside, where everything is written down. -/
def Outside.recorded (o : Outside σ) : Outside (σ × List Contact) where
  now := recording .readTime o.now
  nonce := recording .drewNonce o.nonce
  send target datagram := recording (.sent target datagram) (o.send target datagram)
  awaitReply sender span := recording (.awaited sender span) (o.awaitReply sender span)
  pause span s := (recording (fun _ => .paused span) (fun s => (o.pause span s, ())) s).1
  dial target := recording (.dialled target) (o.dial target)

/-- What an agent asks of the outside in an attempt, and the answers. -/
def Sequencer.contacts (s : Sequencer) (o : Outside σ) (outside : σ) : List Contact :=
  (s.run o.recorded (outside, [])).2.1.2

/-! ### The contacts of a leg -/

namespace Leg

/-- A leg does the same when everything is written down. What is written down is as described,
together with the value that the leg leads to if it does not fail. -/
def Makes (leg : Leg σ α) (recorded : Leg (σ × List Contact) α)
    (Made : List Contact → Option α → Prop) : Prop :=
  ∀ outside past stages, ∃ made,
    recorded ⟨(outside, past), stages⟩ =
      (⟨((leg ⟨outside, stages⟩).1.outside, past ++ made), (leg ⟨outside, stages⟩).1.stages⟩,
        (leg ⟨outside, stages⟩).2) ∧
    Made made (leg ⟨outside, stages⟩).2.toOption

variable {Made : List Contact → Option α → Prop} {Made' : List Contact → Option β → Prop}
  {leg : Leg σ α} {recorded : Leg (σ × List Contact) α} {next : α → Leg σ β}
  {next' : α → Leg (σ × List Contact) β}

theorem Makes.mono {Wider : List Contact → Option α → Prop} (h : leg.Makes recorded Made)
    (hwider : ∀ made a, Made made a → Wider made a) : leg.Makes recorded Wider := by
  intro outside past stages
  obtain ⟨made, hrecorded, hmade⟩ := h outside past stages
  exact ⟨made, hrecorded, hwider made _ hmade⟩

theorem makes_done {a : α} (h : Made [] (some a)) :
    Makes (pure a : Leg σ α) (pure a) Made :=
  fun _ past _ => ⟨[], by simp [pure, done], h⟩

theorem makes_fail {stage : Stage} {cause : Cause} (h : Made [] none) :
    Makes (fail stage cause : Leg σ α) (fail stage cause) Made :=
  fun _ past _ => ⟨[], by simp [fail], h⟩

theorem makes_orFail {ε : Type} {stage : Stage} {cause : ε → Cause} {result : Except ε α}
    (h : Made [] result.toOption) :
    Makes (orFail stage cause result : Leg σ α) (orFail stage cause result) Made := by
  cases result with
  | ok a => exact makes_done h
  | error e => exact makes_fail h

/-- A leg makes the contacts of its first part and, unless that fails, those of the rest. -/
theorem Makes.bind {First : List Contact → Option α → Prop} (hfirst : leg.Makes recorded First)
    (hfailed : ∀ made, First made none → Made' made none)
    (hnext : ∀ made a, First made (some a) →
      (next a).Makes (next' a) fun rest b => Made' (made ++ rest) b) :
    (leg >>= next).Makes (recorded >>= next') Made' := by
  intro outside past stages
  obtain ⟨made, hrecorded, hmade⟩ := hfirst outside past stages
  show ∃ made, andThen recorded next' _ =
    (⟨((andThen leg next _).1.outside, _), (andThen leg next _).1.stages⟩, (andThen leg next _).2) ∧
      Made' made (andThen leg next _).2.toOption
  simp only [andThen, hrecorded]
  -- Written down or not, the first part ends in the same way, and that decides what follows.
  generalize leg ⟨outside, stages⟩ = after at hmade ⊢
  obtain ⟨⟨outside', stages'⟩, result⟩ := after
  cases result with
  | error failure => exact ⟨made, rfl, hfailed made hmade⟩
  | ok a =>
    obtain ⟨rest, hrecorded', hrest⟩ := hnext made a hmade outside' (past ++ made) stages'
    exact ⟨made ++ rest, by simp only [hrecorded', List.append_assoc], hrest⟩

theorem Makes.enter_bind {stage : Stage} {leg : Leg σ β} {recorded : Leg (σ × List Contact) β}
    (h : leg.Makes recorded Made') :
    (enter stage >>= fun _ => leg).Makes (enter stage >>= fun _ => recorded) Made' :=
  fun outside past stages => h outside past (stages ++ [stage])

theorem makes_ask (contact : α → Contact) (question : σ → σ × α) :
    (ask question).Makes (ask (recording contact question)) fun made answer =>
      ∃ a, made = [contact a] ∧ answer = some a :=
  fun _ _ _ => ⟨_, rfl, _, rfl, rfl⟩

/-- A question comes first among the contacts. -/
theorem makes_ask_bind {contact : α → Contact} {question : σ → σ × α}
    (h : ∀ a, (next a).Makes (next' a) fun rest b => Made' (contact a :: rest) b) :
    (ask question >>= next).Makes (ask (recording contact question) >>= next') Made' := by
  refine (makes_ask contact question).bind ?_ ?_
  · rintro made ⟨_, _, hnone⟩
    cases hnone
  · rintro made a ⟨_, rfl, hsome⟩
    cases hsome
    exact h a

/-- Where a result is needed, the rest is only for one that is there. -/
theorem makes_orFail_bind {ε : Type} {stage : Stage} {cause : ε → Cause} {result : Except ε α}
    (hfailed : ∀ e, result = .error e → Made' [] none)
    (hnext : ∀ a, result = .ok a → (next a).Makes (next' a) Made') :
    (orFail stage cause result >>= next).Makes (orFail stage cause result >>= next') Made' := by
  cases result with
  | ok a => exact hnext a rfl
  | error e => exact makes_fail (hfailed e rfl)

end Leg

/-! ### The contacts of an attempt -/

namespace Plan

/-- What comes before a datagram that is a knock: the time and the nonce for it are asked for. -/
def Knocking (p : Plan) (token : Option String) (before : List Contact) (nonce : Nonce)
    (datagram : Bytes) : Prop :=
  ∃ now, before = [.readTime now, .drewNonce nonce] ∧
    Knock.encode p.who.secret ⟨p.who.id, now, nonce, token⟩ = .ok datagram

/-- The contacts of a knock, and its nonce if it is taken. -/
inductive Knocked (p : Plan) (token : Option String) (target : SocketAddress) :
    List Contact → Option Nonce → Prop where
  | unwritten (now : Int64) (nonce : Nonce) :
    Knocked p token target [.readTime now, .drewNonce nonce] none
  | untaken {before : List Contact} {nonce : Nonce} {datagram : Bytes} (text : String)
    (hknocking : p.Knocking token before nonce datagram) :
    Knocked p token target (before ++ [.sent target datagram (.error text)]) none
  | taken {before : List Contact} {nonce : Nonce} {datagram : Bytes}
    (hknocking : p.Knocking token before nonce datagram) :
    Knocked p token target (before ++ [.sent target datagram (.ok ())]) (some nonce)

/-- The contacts of an agent that waits for the answer to a knock, and the grant if it gets
one. -/
inductive Awaited (p : Plan) (controller : SocketAddress) (nonce : Nonce) :
    List Contact → Option Grant → Prop where
  | unopened {outcome : Except String (Option Bytes)}
    (hfails : ∀ reply grant, outcome = .ok (some reply) →
      Grant.decode p.who.secret reply nonce ≠ .ok grant) :
    Awaited p controller nonce [.awaited controller p.replyTimeout outcome] none
  | expired {reply : Bytes} {grant : Grant} {now : Int64}
    (hopens : Grant.decode p.who.secret reply nonce = .ok grant) (hlate : grant.expiresAt < now) :
    Awaited p controller nonce
      [.awaited controller p.replyTimeout (.ok (some reply)), .readTime now] none
  | granted {reply : Bytes} {grant : Grant} {now : Int64}
    (hopens : Grant.decode p.who.secret reply nonce = .ok grant) (hnow : now ≤ grant.expiresAt) :
    Awaited p controller nonce
      [.awaited controller p.replyTimeout (.ok (some reply)), .readTime now] (some grant)

/-- The contacts of an agent that has got a grant. -/
def Granted (p : Plan) (controller : SocketAddress) (granted : List Contact) (grant : Grant) :
    Prop :=
  ∃ before nonce datagram reply now, p.Knocking none before nonce datagram ∧
    Grant.decode p.who.secret reply nonce = .ok grant ∧ now ≤ grant.expiresAt ∧
    granted = before ++ [.sent controller datagram (.ok ()),
      .awaited controller p.replyTimeout (.ok (some reply)), .readTime now]

/-- The contacts of an agent before the connection, and whether it got so far. -/
inductive Approached (p : Plan) : List Contact → Option Unit → Prop where
  | direct {knocked : List Contact} {nonce : Option Nonce} (hroute : p.route = .direct)
    (hknocked : p.Knocked none p.gatewayKnock knocked nonce) :
    Approached p knocked (nonce.map fun _ => ())
  | untaken {controller : SocketAddress} {knocked : List Contact}
    (hroute : p.route = .viaController controller)
    (hknocked : p.Knocked none controller knocked none) : Approached p knocked none
  | ungranted {controller : SocketAddress} {knocked awaited : List Contact} {nonce : Nonce}
    (hroute : p.route = .viaController controller)
    (hknocked : p.Knocked none controller knocked (some nonce))
    (hawaited : p.Awaited controller nonce awaited none) : Approached p (knocked ++ awaited) none
  | granted {controller : SocketAddress} {granted knocked : List Contact} {grant : Grant}
    {nonce : Option Nonce} (hroute : p.route = .viaController controller)
    (hgranted : p.Granted controller granted grant)
    (hknocked : p.Knocked (some grant.token) p.gatewayKnock knocked nonce) :
    Approached p (granted ++ knocked) (nonce.map fun _ => ())

/-- The contacts of an attempt: if the agent gets so far, it connects. -/
inductive Attempted (p : Plan) : List Contact → Prop where
  | failed {approached : List Contact} (hfailed : p.Approached approached none) :
    Attempted p approached
  | dialled {approached : List Contact} (hcame : p.Approached approached (some ()))
    (outcome : Except DialError Unit) :
    Attempted p (approached ++ [.paused p.settle, .dialled p.gatewayTls outcome])

open Leg

variable (p : Plan) (o : Outside σ)

theorem build_makes (stage : Stage) (token : Option String) :
    (p.build o stage token).Makes (p.build o.recorded stage token) fun made built =>
      ∃ now nonce, made = [.readTime now, .drewNonce nonce] ∧
        ∀ nonce' datagram, built = some (nonce', datagram) →
          p.Knocking token made nonce' datagram := by
  refine makes_ask_bind fun now => makes_ask_bind fun nonce => makes_orFail_bind ?_ ?_
  · exact fun cause _ => ⟨now, nonce, rfl, nofun⟩
  · refine fun datagram hknock => makes_done ⟨now, nonce, rfl, ?_⟩
    rintro _ _ ⟨⟩
    exact ⟨now, rfl, hknock⟩

theorem send_makes (stage : Stage) (target : SocketAddress) (datagram : Bytes) :
    (send o stage target datagram).Makes (send o.recorded stage target datagram)
      fun made sent => ∃ outcome, made = [.sent target datagram outcome] ∧
        sent = outcome.toOption :=
  makes_ask_bind fun outcome => makes_orFail ⟨outcome, rfl, rfl⟩

/-- A knock is written for the time and the nonce that were asked for, and then sent. -/
theorem firstKnock_makes (target : SocketAddress) :
    (p.firstKnock o target).Makes (p.firstKnock o.recorded target) (p.Knocked none target) := by
  refine Makes.enter_bind ((p.build_makes o .buildKnock none).bind ?unwritten ?written)
  case unwritten =>
    rintro _ ⟨now, nonce, rfl, -⟩
    exact .unwritten now nonce
  case written =>
    rintro made ⟨nonce, datagram⟩ ⟨_, _, -, hwritten⟩
    have hknocking := hwritten nonce datagram rfl
    refine Makes.enter_bind ((send_makes o .sendKnock target datagram).bind ?_ ?_)
    · rintro _ ⟨outcome, rfl, hfailed⟩
      cases outcome with
      | ok u => cases hfailed
      | error text => exact .untaken text hknocking
    · rintro _ _ ⟨outcome, rfl, htaken⟩
      cases outcome with
      | ok u => exact makes_done (.taken hknocking)
      | error text => cases htaken

theorem secondKnock_makes (token : String) :
    (p.secondKnock o token).Makes (p.secondKnock o.recorded token) fun made sent =>
      ∃ nonce, p.Knocked (some token) p.gatewayKnock made nonce ∧ sent = nonce.map fun _ => () := by
  refine Makes.enter_bind ((p.build_makes o .sendSecondKnock (some token)).bind ?unwritten ?written)
  case unwritten =>
    rintro _ ⟨now, nonce, rfl, -⟩
    exact ⟨none, .unwritten now nonce, rfl⟩
  case written =>
    rintro made ⟨nonce, datagram⟩ ⟨_, _, -, hwritten⟩
    have hknocking := hwritten nonce datagram rfl
    refine makes_ask_bind fun outcome => makes_orFail ?_
    cases outcome with
    | ok u => exact ⟨some nonce, .taken hknocking, rfl⟩
    | error text => exact ⟨none, .untaken text hknocking, rfl⟩

/-- A reply counts if it opens as the answer to the knock and has not expired when it is read. -/
theorem awaitGrant_makes (controller : SocketAddress) (nonce : Nonce) :
    (p.awaitGrant o controller nonce).Makes (p.awaitGrant o.recorded controller nonce)
      (p.Awaited controller nonce) := by
  refine Makes.enter_bind (makes_ask_bind fun outcome => makes_orFail_bind ?_ ?_)
  · rintro text rfl
    exact .unopened nofun
  · rintro reply? rfl
    cases reply? with
    | none => exact makes_fail (.unopened nofun)
    | some reply =>
      -- The time is asked for only if the reply has opened.
      refine makes_orFail_bind ?_ fun grant hopens => makes_ask_bind fun now => ?_
      · intro cause hfails
        refine .unopened ?_
        rintro _ grant ⟨⟩ hopens
        cases hfails.symm.trans hopens
      · by_cases hlate : grant.expiresAt < now
        · simp only [hlate, if_true]
          exact makes_fail (.expired hopens hlate)
        · simp only [hlate, if_false]
          exact makes_done (.granted hopens (Int64.not_lt.mp hlate))

/-- A taken knock and a grant for it. -/
theorem granted_of_awaited {controller : SocketAddress} {knocked awaited : List Contact}
    {nonce : Nonce} {grant : Grant} (hknocked : p.Knocked none controller knocked (some nonce))
    (hawaited : p.Awaited controller nonce awaited (some grant)) :
    p.Granted controller (knocked ++ awaited) grant := by
  cases hknocked with
  | taken hknocking =>
    cases hawaited with
    | granted hopens hnow =>
      exact ⟨_, _, _, _, _, hknocking, hopens, hnow, by simp⟩

/-- An agent that needs a token gets no further than it is granted one. -/
theorem approach_makes : (p.approach o).Makes (p.approach o.recorded) p.Approached := by
  unfold approach
  cases hroute : p.route with
  | direct =>
    refine (p.firstKnock_makes o p.gatewayKnock).bind (fun _ hknocked => .direct hroute hknocked) ?_
    intro knocked nonce hknocked
    exact makes_done (by simpa using Approached.direct hroute hknocked)
  | viaController controller =>
    refine (p.firstKnock_makes o controller).bind (fun _ hknocked => .untaken hroute hknocked) ?_
    intro knocked nonce hknocked
    refine (p.awaitGrant_makes o controller nonce).bind
      (fun _ hawaited => .ungranted hroute hknocked hawaited) ?_
    intro awaited grant hawaited
    refine (p.secondKnock_makes o grant.token).mono ?_
    rintro second _ ⟨nonce', hsecond, rfl⟩
    rw [← List.append_assoc]
    exact .granted hroute (p.granted_of_awaited hknocked hawaited) hsecond

theorem connect_makes :
    (p.connect o).Makes (p.connect o.recorded) fun made _ =>
      ∃ outcome, made = [.paused p.settle, .dialled p.gatewayTls outcome] := by
  have hpause := makes_ask (fun _ => .paused p.settle) fun s => (o.pause p.settle s, ())
  refine hpause.bind ?_ ?_
  · rintro _ ⟨_, _, hnone⟩
    cases hnone
  · rintro _ _ ⟨_, rfl, -⟩
    exact Makes.enter_bind (makes_ask_bind fun outcome => makes_orFail ⟨outcome, rfl⟩)

theorem attempt_makes :
    (p.attempt o).Makes (p.attempt o.recorded) fun made _ => p.Attempted made := by
  refine (p.approach_makes o).bind (fun _ hfailed => .failed hfailed) ?_
  intro approached _ hcame
  refine (p.connect_makes o).mono ?_
  rintro _ _ ⟨outcome, rfl⟩
  exact .dialled hcame outcome

end Plan

namespace Sequencer

/-- An attempt is none the different for being written down. -/
theorem run_recorded (s : Sequencer) (o : Outside σ) (outside : σ) :
    s.run o.recorded (outside, []) =
      ((s.run o outside).1, ((s.run o outside).2.1, s.contacts o outside),
        (s.run o outside).2.2) := by
  obtain ⟨made, hrecorded, -⟩ := s.plan.attempt_makes o outside [] []
  simp only [contacts, run, hrecorded, List.nil_append]

/-- The contacts of an attempt are those that its plan leads to. -/
theorem contacts_attempted (s : Sequencer) (o : Outside σ) (outside : σ) :
    s.plan.Attempted (s.contacts o outside) := by
  obtain ⟨made, hrecorded, hmade⟩ := s.plan.attempt_makes o outside [] []
  have hcontacts : s.contacts o outside = made := by
    simp only [contacts, run, hrecorded, List.nil_append]
  exact hcontacts ▸ hmade

end Sequencer

end Perimeter.Agent
