import Perimeter.Proofs.Agent.Contacts

/-!
# `Perimeter.Proofs.Agent.Itinerary`: the stages of an attempt are those of its plan

The stages that an agent enters are written down by one hand, and every place at which an attempt
can fail names its stage by another. That the two agree is a fact about each leg of an attempt:
it walks along a path that is known beforehand, and where it fails, it stands at the stage that
it names (`Leg.Walks`). There is a rule for each way in which a leg is built, and `Walks.bind`
puts paths together.

`Plan.itinerary` is the path of an attempt. `Sequencer.run_cases` puts it beside the contacts: the
agent either fails on the way and does not dial, or it comes to the gateway with every datagram
taken, and dials once.
-/

set_option autoImplicit false

namespace Perimeter.Agent

variable {σ α β : Type}

namespace Leg

/-- How far a leg comes on a path that it sets out on at a stage. If it fails, it is at the last
stage that was entered, which may be the one that it set out at. -/
inductive Walked (start : Option Stage) (path : List Stage) :
    List Stage → Except Failure α → Prop where
  | whole (a : α) : Walked start path path (.ok a)
  | stopped {walked : List Stage} {failure : Failure} (hbegins : walked <+: path)
    (hstage : walked.getLast?.or start = some failure.stage) :
    Walked start path walked (.error failure)

/-- Whatever has been before, a leg that sets out at a stage walks along a path. -/
def Walks (leg : Leg σ α) (start : Option Stage) (path : List Stage) : Prop :=
  ∀ j, ∃ walked, (leg j).1.stages = j.stages ++ walked ∧ Walked start path walked (leg j).2

variable {leg : Leg σ α} {next : α → Leg σ β} {start : Option Stage} {stage : Stage}
  {path more : List Stage}

theorem walks_done (a : α) : Walks (pure a : Leg σ α) start [] :=
  fun j => ⟨[], (List.append_nil j.stages).symm, .whole a⟩

theorem walks_ask (question : σ → σ × α) : (ask question).Walks start [] :=
  fun j => ⟨[], (List.append_nil j.stages).symm, .whole _⟩

/-- A leg may fail in the name of the stage at which it stands. -/
theorem walks_fail (cause : Cause) : Walks (fail stage cause : Leg σ α) (some stage) [] :=
  fun j => ⟨[], (List.append_nil j.stages).symm, .stopped (List.prefix_refl []) rfl⟩

theorem walks_orFail {ε : Type} (cause : ε → Cause) (result : Except ε α) :
    Walks (orFail stage cause result : Leg σ α) (some stage) [] := by
  cases result with
  | ok a => exact walks_done a
  | error e => exact walks_fail (cause e)

/-- The paths of two legs are one, on which the second sets out where the first came to. -/
theorem Walks.bind (hfirst : leg.Walks start path)
    (hnext : ∀ a, (next a).Walks (path.getLast?.or start) more) :
    (leg >>= next).Walks start (path ++ more) := by
  intro j
  obtain ⟨walked, hstages, hwalked⟩ := hfirst j
  show ∃ walked, (andThen leg next j).1.stages = _ ∧ Walked _ _ walked (andThen leg next j).2
  rw [andThen]
  generalize leg j = after at hstages hwalked
  obtain ⟨j', result⟩ := after
  cases hwalked with
  | stopped hbegins hstage =>
    exact ⟨walked, hstages, .stopped (hbegins.trans (List.prefix_append path more)) hstage⟩
  | whole a =>
    -- The second leg sets out at the last stage of the first path, if that has any.
    obtain ⟨rest, hstages', hrest⟩ := hnext a j'
    refine ⟨path ++ rest, by rw [hstages', hstages, List.append_assoc], ?_⟩
    show Walked _ _ _ (next a j').2
    generalize next a j' = after at hrest
    obtain ⟨j'', result⟩ := after
    cases hrest with
    | whole b => exact .whole b
    | stopped hbegins hstage =>
      refine .stopped (List.prefix_append_right_inj path |>.mpr hbegins) ?_
      rw [List.getLast?_append, Option.or_assoc]
      exact hstage

/-- A question is no step. -/
theorem walks_ask_bind {question : σ → σ × α} (h : ∀ a, (next a).Walks start path) :
    (ask question >>= next).Walks start path :=
  (walks_ask question).bind h

/-- Neither is a result that is needed. -/
theorem walks_orFail_bind {ε : Type} {cause : ε → Cause} {result : Except ε α}
    (h : ∀ a, (next a).Walks (some stage) path) :
    (orFail stage cause result >>= next).Walks (some stage) path :=
  (walks_orFail cause result).bind h

theorem Walks.enter_bind {leg : Leg σ β} (h : leg.Walks (some stage) path) :
    (enter stage >>= fun _ => leg).Walks start (stage :: path) := by
  have henter : (enter stage : Leg σ Unit).Walks start [stage] := fun _ => ⟨_, rfl, .whole ()⟩
  exact henter.bind fun _ => h

end Leg

namespace Plan

open Leg

variable (p : Plan) (o : Outside σ)

/-- The stages before the connection. -/
def outward (p : Plan) : List Stage :=
  match p.route with
  | .viaController _ => [.buildKnock, .sendKnock, .awaitToken, .sendSecondKnock]
  | .direct => [.buildKnock, .sendKnock]

/-- The stages of an attempt. -/
def itinerary (p : Plan) : List Stage := p.outward ++ [.dial]

/-- Whom an attempt knocks at. -/
def knockedAt (p : Plan) : List SocketAddress :=
  match p.route with
  | .viaController controller => [controller, p.gatewayKnock]
  | .direct => [p.gatewayKnock]

theorem dial_not_mem_outward : .dial ∉ p.outward := by
  unfold outward
  split <;> decide

theorem build_walks (stage : Stage) (token : Option String) :
    (p.build o stage token).Walks (some stage) [] :=
  walks_ask_bind fun _ => walks_ask_bind fun _ => walks_orFail_bind fun _ => walks_done _

theorem send_walks (stage : Stage) (target : SocketAddress) (datagram : Bytes) :
    (send o stage target datagram).Walks (some stage) [] :=
  walks_ask_bind fun outcome => walks_orFail .transport outcome

theorem firstKnock_walks (target : SocketAddress) (start : Option Stage) :
    (p.firstKnock o target).Walks start [.buildKnock, .sendKnock] := by
  refine Walks.enter_bind ((p.build_walks o .buildKnock none).bind ?_)
  rintro ⟨nonce, datagram⟩
  exact Walks.enter_bind ((send_walks o .sendKnock target datagram).bind fun _ => walks_done nonce)

theorem awaitGrant_walks (controller : SocketAddress) (nonce : Nonce) (start : Option Stage) :
    (p.awaitGrant o controller nonce).Walks start [.awaitToken] := by
  refine Walks.enter_bind (walks_ask_bind fun outcome => walks_orFail_bind fun reply? => ?_)
  cases reply? with
  | none => exact walks_fail .noTokenReceived
  | some reply =>
    refine walks_orFail_bind fun grant => walks_ask_bind fun now => ?_
    by_cases hlate : grant.expiresAt < now
    · simp only [hlate, if_true]
      exact walks_fail (.expiredGrant grant.expiresAt)
    · simp only [hlate, if_false]
      exact walks_done grant

theorem secondKnock_walks (token : String) (start : Option Stage) :
    (p.secondKnock o token).Walks start [.sendSecondKnock] := by
  refine Walks.enter_bind ((p.build_walks o .sendSecondKnock (some token)).bind ?_)
  rintro ⟨nonce, datagram⟩
  exact send_walks o .sendSecondKnock p.gatewayKnock datagram

/-- What comes before the connection is what the plan says. -/
theorem approach_walks (start : Option Stage) : (p.approach o).Walks start p.outward := by
  unfold approach outward
  cases p.route with
  | direct => exact (p.firstKnock_walks o p.gatewayKnock start).bind fun _ => walks_done ()
  | viaController controller =>
    refine (p.firstKnock_walks o controller start).bind fun nonce => ?_
    refine (p.awaitGrant_walks o controller nonce _).bind fun grant => ?_
    exact p.secondKnock_walks o grant.token _

/-- What the connection adds to a journey: one more stage, and the result of dialling. -/
theorem connect_eq (j : Journey σ) :
    p.connect o j =
      (⟨(o.dial p.gatewayTls (o.pause p.settle j.outside)).1, j.stages ++ [.dial]⟩,
        (o.dial p.gatewayTls (o.pause p.settle j.outside)).2.mapError fun e =>
          ⟨.dial, .dial e⟩) := by
  let outcome := (o.dial p.gatewayTls (o.pause p.settle j.outside)).2
  unfold connect
  show (Leg.orFail .dial .dial outcome : Leg σ Unit) _ = (_, outcome.mapError _)
  cases outcome <;> rfl

end Plan

/-! ### The contacts on the way -/

namespace Contact

/-- A datagram that is sent: to whom, and whether it is taken. -/
def sending? : Contact → Option (SocketAddress × Except String Unit)
  | sent target _ outcome => some (target, outcome)
  | readTime _ | drewNonce _ | awaited .. | paused _ | dialled .. => none

/-- Whether it is the gateway that is dialled. -/
def isDial : Contact → Bool
  | dialled .. => true
  | readTime _ | drewNonce _ | sent .. | awaited .. | paused _ => false

/-- Contacts before the gateway is dialled, with the datagrams that are sent in them. -/
structure Outbound (made : List Contact) (sendings : List (SocketAddress × Except String Unit)) :
    Prop where
  countP_isDial : made.countP isDial = 0
  sendings_eq : made.filterMap sending? = sendings

theorem Outbound.append {made made' : List Contact}
    {sendings sendings' : List (SocketAddress × Except String Unit)}
    (h : Outbound made sendings) (h' : Outbound made' sendings') :
    Outbound (made ++ made') (sendings ++ sendings') where
  countP_isDial := by rw [List.countP_append, h.countP_isDial, h'.countP_isDial]
  sendings_eq := by rw [List.filterMap_append, h.sendings_eq, h'.sendings_eq]

/-- The gateway is dialled after such contacts and not among them. -/
theorem Outbound.eq_of_append {made before after : List Contact}
    {sendings : List (SocketAddress × Except String Unit)} {last dial : Contact}
    (h : Outbound made sendings) (hdial : dial.isDial)
    (heq : made ++ [last] = before ++ dial :: after) : before = made ∧ dial = last := by
  rcases List.append_eq_append_iff.mp heq with ⟨between, rfl, hlast⟩ | ⟨between, rfl, hafter⟩
  · cases between with
    | nil =>
      cases hlast
      exact ⟨List.append_nil made, rfl⟩
    | cons c rest => simp at hlast
  · cases between with
    | nil =>
      cases hafter
      exact ⟨(List.append_nil before).symm, rfl⟩
    | cons c rest =>
      cases hafter
      have hnone := h.countP_isDial
      simp [hdial] at hnone

end Contact

namespace Plan

open Contact (Outbound)

variable {p : Plan} {made : List Contact}

theorem Knocking.outbound {token : Option String} {nonce : Nonce} {datagram : Bytes}
    (h : p.Knocking token made nonce datagram) : Outbound made [] := by
  obtain ⟨now, rfl, -⟩ := h
  exact ⟨rfl, rfl⟩

/-- A knock that is taken is one datagram. -/
theorem Knocked.outbound {token : Option String} {target : SocketAddress} {nonce : Option Nonce}
    (h : p.Knocked token target made nonce) :
    ∃ sendings, Outbound made sendings ∧ (nonce.isSome → sendings = [(target, .ok ())]) := by
  cases h with
  | unwritten now nonce => exact ⟨[], ⟨rfl, rfl⟩, nofun⟩
  | untaken text hknocking =>
    exact ⟨[(target, .error text)], hknocking.outbound.append ⟨rfl, rfl⟩, nofun⟩
  | taken hknocking =>
    exact ⟨[(target, .ok ())], hknocking.outbound.append ⟨rfl, rfl⟩, fun _ => rfl⟩

theorem Awaited.outbound {controller : SocketAddress} {nonce : Nonce} {grant : Option Grant}
    (h : p.Awaited controller nonce made grant) : Outbound made [] := by
  cases h <;> exact ⟨rfl, rfl⟩

theorem Granted.outbound {controller : SocketAddress} {grant : Grant}
    (h : p.Granted controller made grant) : Outbound made [(controller, .ok ())] := by
  obtain ⟨before, nonce, datagram, reply, now, hknocking, -, -, rfl⟩ := h
  exact hknocking.outbound.append ⟨rfl, rfl⟩

/-- When all that comes before the connection is done, every datagram has been taken. -/
theorem Approached.outbound {came : Option Unit} (h : p.Approached made came) :
    ∃ sendings, Outbound made sendings ∧
      (came.isSome → sendings = p.knockedAt.map (·, .ok ())) := by
  cases h with
  | direct hroute hknocked =>
    obtain ⟨sendings, houtbound, htaken⟩ := hknocked.outbound
    refine ⟨sendings, houtbound, fun hcame => ?_⟩
    rw [Option.isSome_map] at hcame
    simp only [htaken hcame, knockedAt, hroute, List.map_cons, List.map_nil]
  | untaken hroute hknocked =>
    obtain ⟨sendings, houtbound, -⟩ := hknocked.outbound
    exact ⟨sendings, houtbound, nofun⟩
  | ungranted hroute hknocked hawaited =>
    obtain ⟨sendings, houtbound, -⟩ := hknocked.outbound
    exact ⟨_, houtbound.append hawaited.outbound, nofun⟩
  | granted hroute hgranted hknocked =>
    obtain ⟨sendings, houtbound, htaken⟩ := hknocked.outbound
    refine ⟨_, hgranted.outbound.append houtbound, fun hcame => ?_⟩
    rw [Option.isSome_map] at hcame
    simp only [htaken hcame, knockedAt, hroute, List.map_cons, List.map_nil, List.cons_append,
      List.nil_append]

end Plan

namespace Sequencer

/-- What becomes of an attempt. Either it fails on the way, in the stage that was entered last, and
the gateway is not dialled. Or it enters every stage, and the result is that of dialling. -/
theorem run_cases (s : Sequencer) (o : Outside σ) (outside : σ) :
    (∃ walked failure, walked <+: s.plan.outward ∧ walked.getLast? = some failure.stage ∧
      s.plan.Approached (s.contacts o outside) none ∧
      (s.run o outside).1.positions = .idle :: walked.map .at ++ [.failed failure.stage] ∧
      (s.run o outside).2.2 = .error failure) ∨
    ∃ approached outcome, s.plan.Approached approached (some ()) ∧
      s.contacts o outside =
        approached ++ [.paused s.plan.settle, .dialled s.plan.gatewayTls outcome] ∧
      (s.run o outside).1.positions =
        .idle :: s.plan.itinerary.map .at ++ [terminal (s.run o outside).2.2] ∧
      (s.run o outside).2.2 = outcome.mapError fun e => ⟨.dial, .dial e⟩ := by
  obtain ⟨made, hrecorded, hmade⟩ := s.plan.approach_makes o outside [] []
  obtain ⟨walked, hstages, hwalked⟩ := s.plan.approach_walks o none ⟨outside, []⟩
  have hattempt : s.plan.attempt o ⟨outside, []⟩ =
      Leg.andThen (s.plan.approach o) (fun _ => s.plan.connect o) ⟨outside, []⟩ := rfl
  have hattempt' : s.plan.attempt o.recorded ⟨(outside, []), []⟩ =
      Leg.andThen (s.plan.approach o.recorded) (fun _ => s.plan.connect o.recorded)
        ⟨(outside, []), []⟩ := rfl
  -- The attempt that is written down goes as the one that is made, and stops where it stops.
  simp only [contacts, run, hattempt, hattempt', Leg.andThen, hrecorded]
  generalize s.plan.approach o ⟨outside, []⟩ = after at hmade hstages hwalked
  obtain ⟨⟨outside', stages⟩, result⟩ := after
  obtain rfl : stages = walked := hstages
  cases hwalked with
  | stopped hbegins hstage =>
    refine .inl ⟨stages, _, hbegins, by simpa using hstage, hmade, rfl, rfl⟩
  | whole u =>
    refine .inr ⟨made, (o.dial s.plan.gatewayTls (o.pause s.plan.settle outside')).2, hmade, ?_⟩
    simp only [Plan.connect_eq]
    exact ⟨by simp [Outside.recorded, recording], rfl, trivial⟩

/-- A log of an attempt that says what has happened: the stages entered and the position at the
end, beside the result and the contacts. -/
structure Log (plan : Plan) (positions : List Position) (result : Except Failure Unit)
    (contacts : List Contact) (stages : List Stage) (final : Position) : Prop where
  positions_eq : positions = .idle :: stages.map .at ++ [final]
  nonempty : stages ≠ []
  /-- The stages are those of the plan, in their order, and none is left out. -/
  inOrder : stages <+: plan.itinerary
  connected_iff : final = .connected ↔ result = .ok ()
  complete : result = .ok () → stages = plan.itinerary
  /-- An attempt that failed ends at the stage of the error, which was entered last. -/
  failed : ∀ failure, result = .error failure →
    final = .failed failure.stage ∧ stages.getLast? = some failure.stage
  /-- The gateway is dialled once if that stage is entered, and otherwise not at all. -/
  dials : contacts.countP Contact.isDial = if .dial ∈ stages then 1 else 0
  /-- Before it is dialled, all datagrams of the plan have been sent, and all have been taken. -/
  dialled_after : ∀ before target outcome after,
    contacts = before ++ .dialled target outcome :: after →
      target = plan.gatewayTls ∧
        before.filterMap Contact.sending? = plan.knockedAt.map (·, .ok ())

variable {plan : Plan}

/-- The log of an attempt that fails before the connection. -/
theorem log_of_failed {walked : List Stage} {failure : Failure} {contacts : List Contact}
    (hbegins : walked <+: plan.outward) (hlast : walked.getLast? = some failure.stage)
    (hmade : plan.Approached contacts none) :
    Log plan (.idle :: walked.map .at ++ [.failed failure.stage]) (.error failure) contacts walked
      (.failed failure.stage) := by
  obtain ⟨sendings, houtbound, -⟩ := hmade.outbound
  have hdial : .dial ∉ walked := fun h => plan.dial_not_mem_outward (hbegins.subset h)
  exact {
    positions_eq := rfl
    nonempty := by
      rintro rfl
      cases hlast
    inOrder := hbegins.trans (List.prefix_append plan.outward [.dial])
    connected_iff := by simp only [reduceCtorEq]
    complete := nofun
    failed := by
      rintro _ ⟨⟩
      exact ⟨rfl, hlast⟩
    dials := by rw [if_neg hdial, houtbound.countP_isDial]
    dialled_after := by
      rintro before target outcome after rfl
      have hnone := houtbound.countP_isDial
      simp [Contact.isDial] at hnone }

/-- The log of an attempt that dials. -/
theorem log_of_dialled {approached : List Contact} {outcome : Except DialError Unit}
    (hmade : plan.Approached approached (some ())) :
    let result := outcome.mapError fun e => (⟨.dial, .dial e⟩ : Failure)
    Log plan (.idle :: plan.itinerary.map .at ++ [terminal result]) result
      (approached ++ [.paused plan.settle, .dialled plan.gatewayTls outcome]) plan.itinerary
      (terminal result) := by
  intro result
  obtain ⟨sendings, houtbound, htaken⟩ := hmade.outbound
  have hdial : .dial ∈ plan.itinerary := List.mem_append_right plan.outward (by simp)
  have hpause : Contact.Outbound [.paused plan.settle] [] := ⟨rfl, rfl⟩
  have hpaused := houtbound.append hpause
  rw [List.append_nil] at hpaused
  exact {
    positions_eq := rfl
    nonempty := List.ne_nil_of_mem hdial
    inOrder := List.prefix_refl _
    connected_iff := by cases result <;> simp [terminal]
    complete := fun _ => rfl
    failed := by
      intro failure hfailed
      have hstage : failure.stage = .dial := by
        cases outcome with
        | ok u => exact absurd hfailed nofun
        | error e => exact (congrArg Failure.stage (Except.error.inj hfailed)).symm
      rw [hfailed, hstage, Plan.itinerary, List.getLast?_concat]
      exact ⟨congrArg Position.failed hstage, rfl⟩
    dials := by
      rw [if_pos hdial, List.countP_append, houtbound.countP_isDial]
      rfl
    dialled_after := by
      intro before target outcome' after heq
      rw [List.append_cons] at heq
      obtain ⟨rfl, hsame⟩ := hpaused.eq_of_append rfl heq
      cases hsame
      exact ⟨rfl, hpaused.sendings_eq.trans (htaken rfl)⟩ }

/-- The agent and the outside after so many attempts, one after the other. -/
def afterRuns (o : Outside σ) : Nat → Sequencer × σ → Sequencer × σ
  | 0, before => before
  | n + 1, (s, outside) => afterRuns o n ((s.run o outside).1, (s.run o outside).2.1)

/-- No attempt changes the plan. -/
theorem plan_afterRuns (o : Outside σ) (n : Nat) :
    ∀ (s : Sequencer) (outside : σ), (afterRuns o n (s, outside)).1.plan = s.plan := by
  induction n with
  | zero => exact fun _ _ => rfl
  | succ n ih => exact fun s outside => ih (s.run o outside).1 (s.run o outside).2.1

/-- The log of an attempt is a path of the plan. Whatever the attempt meets with outside, and
however many attempts have been made before, the log has nothing of them: it begins with `idle`,
goes on with the first stages of the plan, at least one, and ends with one position more. That is
`connected` if the attempt succeeded, and then all stages have been entered. Otherwise it is
`failed`, with the stage that was entered last, which is also the stage of the error. The gateway
is dialled exactly if the stage for it is entered, once, and after every datagram of the plan has
been taken. -/
theorem log_is_path_of_plan (plan : Plan) (o : Outside σ) (start : σ) (n : Nat) :
    let s := (afterRuns o n (new plan, start)).1
    let outside := (afterRuns o n (new plan, start)).2
    ∃ stages final,
      Log plan (s.run o outside).1.positions (s.run o outside).2.2 (s.contacts o outside) stages
        final := by
  intro s outside
  have hplan : s.plan = plan := plan_afterRuns o n (new plan) start
  rcases s.run_cases o outside with
    ⟨walked, failure, hbegins, hlast, hmade, hpositions, hresult⟩ |
    ⟨approached, outcome, hmade, hcontacts, hpositions, hresult⟩
  · rw [hplan] at hbegins hmade
    rw [hpositions, hresult]
    exact ⟨walked, _, log_of_failed hbegins hlast hmade⟩
  · rw [hplan] at hmade hcontacts hpositions
    rw [hpositions, hcontacts, hresult]
    exact ⟨plan.itinerary, _, log_of_dialled hmade⟩

/-- A second attempt, which is refused where the first got through: nothing of the first is in its
log. -/
theorem log_is_path_of_plan_of_refused :
    let plan : Plan :=
      ⟨⟨⟨"tablet", by decide, by decide⟩, ⟨List.replicate 16 7, by decide⟩⟩, .direct,
        .quad 192 0 2 1 62201, .quad 192 0 2 1 443, 2000, 50⟩
    let o : Outside Nat := {
      now := fun n => (n, 1000)
      nonce := fun n => (n, Octets.zero 16)
      send := fun _ _ n => (n, .ok ())
      awaitReply := fun _ _ n => (n, .ok none)
      pause := fun _ n => n
      dial := fun _ n => (n + 1, if n = 0 then .ok () else .error (.connect "refused")) }
    let first := afterRuns o 1 (new plan, 0)
    let second := first.1.run o first.2
    first.1.positions =
      [.idle, .at .buildKnock, .at .sendKnock, .at .dial, .connected] ∧
    second.1.positions =
      [.idle, .at .buildKnock, .at .sendKnock, .at .dial, .failed .dial] ∧
    ∃ stages final,
      Log plan second.1.positions second.2.2 (first.1.contacts o first.2) stages final := by
  intro plan o first second
  exact ⟨by decide +kernel, by decide +kernel, log_is_path_of_plan plan o 0 1⟩

end Sequencer

end Perimeter.Agent
