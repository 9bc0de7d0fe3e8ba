import Perimeter.Proofs.Agent.Approach
import Perimeter.Proofs.Controller.Answer
import Perimeter.Proofs.Gateway.Entry

/-!
# `Perimeter.Proofs.Passage`: from the first knock to the open gate

A device that controller and gateway both know gets through. Its first knock is accepted by the
controller and answered with a grant, the grant opens at the device, the token in it makes a
second knock, and the gateway accepts that and lets the address in (`Passage.Runs`). Everybody
writes what another one reads, and four times are taken from three clocks.

What can come between is listed: what the servers were told (`Passage.Prepared`), the times
(`Passage.Timely`), and what the servers have on record (`Validator.Expects`,
`Passage.Presentable`), which includes that the machines have numbers for the ends of the records.
`Passage.runs_of_prepared` says that nothing else can, up to the last minute of the machine's time,
when the gateway breaks down over every token that the controller issues.
-/

set_option autoImplicit false

namespace Perimeter

/-- A device on its way, and the two servers at the moments at which it knocks at them. -/
structure Passage where
  who : Credentials
  /-- The device as the controller knows it. -/
  enrolled : Device
  /-- The device as the gateway knows it. -/
  known : Device
  controllerClock : Clock
  controller : Validator
  desk : GrantDesk
  gatewayClock : Clock
  gateway : Validator
  doorkeeper : Doorkeeper
  policy : TokenPolicy
  /-- The device's own time at the first knock. -/
  firstAt : Int64
  firstNonce : Nonce
  /-- The device's own time at the second knock. -/
  secondAt : Int64
  secondNonce : Nonce
  tokenId : Uuid
  /-- The address that the device knocks from. -/
  source : IpAddress

namespace Passage

variable {p : Passage}

/-- The controller's time at the first knock. -/
def issuedAt (p : Passage) : Int64 := p.controllerClock.unixSeconds

/-- The gateway's time at the second knock. -/
def admittedAt (p : Passage) : Int64 := p.gatewayClock.unixSeconds

/-- The token that the controller issues. -/
def token (p : Passage) : String := p.desk.issuer.tokenFor p.enrolled p.issuedAt p.tokenId

/-- What it says. -/
def claims (p : Passage) : Token.Claims := p.desk.issuer.claimsFor p.enrolled p.issuedAt p.tokenId

/-- The first knock, when it has been accepted. -/
def firstKnock (p : Passage) : ValidatedKnock := ⟨p.enrolled, p.firstNonce, p.firstAt, none⟩

/-- The grant that answers it. -/
def grant (p : Passage) : Grant := ⟨p.firstNonce, p.claims.expiresAt, p.token⟩

/-- The second knock, when it has been accepted. -/
def secondKnock (p : Passage) : ValidatedKnock :=
  ⟨p.known, p.secondNonce, p.secondAt, some p.token⟩

/-! ### What can come between -/

/-- The servers are at work, they trust each other, and both allow the device the service. -/
structure Prepared (p : Passage) : Prop where
  controller_reached : p.controller.Reached p.controllerClock
  gateway_reached : p.gateway.Reached p.gatewayClock
  doorkeeper_reached : p.doorkeeper.Reached p.gatewayClock
  /-- The desk's issuer was made for a time to live in nanoseconds. -/
  issuer_made : ∃ secret name ttl, TokenIssuer.ofNanoseconds secret name ttl = .ok p.desk.issuer
  tokens_eq : p.doorkeeper.tokens = some p.policy
  secret_eq : p.desk.issuer.secret = p.policy.verifier.secret
  issuer_eq : p.desk.issuer.issuer = p.policy.verifier.issuer
  enrolled_service : p.doorkeeper.service ∈ p.enrolled.services
  known_service : p.doorkeeper.service ∈ p.known.services

/-- The device knocks again before the token expires, and the gateway's clock is no more than a
minute behind the controller's and not past the expiry. -/
structure Timely (p : Passage) : Prop where
  again : p.secondAt.toInt ≤ p.issuedAt.toInt + p.desk.issuer.ttl
  early : p.issuedAt.toInt - 60 ≤ p.admittedAt.toInt
  late : p.admittedAt.toInt ≤ p.issuedAt.toInt + p.desk.issuer.ttl
  expiry : 0 ≤ p.claims.expiresAt

/-- The token fits in a knock, and the gateway has room for its number, which is new to it. It has
numbers for the ends of the records that it makes of the token and of the admission. -/
structure Presentable (p : Passage) : Prop where
  short : p.token.length ≤ Wire.maxTokenLength
  new : p.tokenId ∉ p.policy.onRecord p.gatewayClock
  room : (p.policy.onRecord p.gatewayClock).card < p.policy.used.capacity
  token_inRange :
    p.gatewayClock.instant + TokenPolicy.retention p.claims p.admittedAt < Clock.limit
  admission_inRange : p.doorkeeper.gate.InRange p.gatewayClock

/-! ### What happens -/

/-- A passage from the first knock to the open gate, with the datagrams that are sent. -/
structure Runs (p : Passage) (first reply second : Bytes) : Prop where
  first_made : p.who.knock p.firstAt p.firstNonce none = .ok first
  first_accepted : (p.controller.validate p.controllerClock first).2 = .ok p.firstKnock
  issued : p.desk.issuer.issue p.enrolled p.issuedAt p.tokenId = .ok (p.token, p.claims)
  answered : (p.desk.grant p.issuedAt p.tokenId p.firstKnock).2 = .ok (some reply)
  opens : Grant.decode p.who.secret reply p.firstNonce = .ok p.grant
  expiry_eq : p.grant.expiresAt = p.claims.expiresAt
  /-- The device reads the reply before it knocks again, and does not find it expired. -/
  unexpired : ∀ readAt, readAt ≤ p.secondAt → ¬ p.grant.expiresAt < readAt
  second_made : p.who.knock p.secondAt p.secondNonce (some p.grant.token) = .ok second
  second_accepted : (p.gateway.validate p.gatewayClock second).2 = .ok p.secondKnock
  /-- The gateway lets the address in, but for the last minute of the machine's time. -/
  admitted : (p.doorkeeper.consider p.gatewayClock p.secondKnock p.source).2 =
    if p.admittedAt.toInt + 60 < 2 ^ 63 then .ok () else .error (.token .outOfRange)
  /-- An address that was let in connects as the device, as long as its admission lasts. -/
  taken : (p.doorkeeper.consider p.gatewayClock p.secondKnock p.source).2 = .ok () →
    ∀ later, p.gatewayClock.instant ≤ later.instant →
      later.instant < p.gatewayClock.instant + p.doorkeeper.gate.ttl →
      ((p.doorkeeper.consider p.gatewayClock p.secondKnock p.source).1.gate.take later
        p.source).2 = some ⟨p.known, p.admittedAt⟩

theorem Prepared.ttl_le (h : p.Prepared) : p.desk.issuer.ttl ≤ TokenIssuer.maxTtl := by
  obtain ⟨secret, name, ttl, hmade⟩ := h.issuer_made
  exact TokenIssuer.ttl_le_of_ofNanoseconds hmade

/-- The gateway's doorkeeper decides on the second knock by the time alone. -/
theorem consider_secondKnock (hprepared : p.Prepared) (htimely : p.Timely)
    (hpresentable : p.Presentable) (hid : p.enrolled.id = p.known.id) :
    (p.doorkeeper.consider p.gatewayClock p.secondKnock p.source).2 =
      if p.admittedAt.toInt + 60 < 2 ^ 63 then .ok () else .error (.token .outOfRange) := by
  obtain ⟨-, policy, hpolicy, hstrict⟩ := hprepared.doorkeeper_reached.spec
  cases hprepared.tokens_eq.symm.trans hpolicy
  have hpermits : p.known.permits p.doorkeeper.service :=
    List.contains_iff_mem.mpr hprepared.known_service
  rw [Doorkeeper.consider_snd_of_token hpolicy rfl hpermits hpresentable.admission_inRange]
  show (p.policy.check p.gatewayClock p.token p.known.id p.doorkeeper.service).2 = _
  rw [← hid]
  exact TokenPolicy.check_snd_of_issued hstrict hprepared.secret_eq hprepared.issuer_eq
    hprepared.ttl_le htimely.expiry htimely.early htimely.late hprepared.enrolled_service
    hpresentable.token_inRange hpresentable.new hpresentable.room

/-- A device that both servers know and expect gets through, if the servers are at work and trust
each other, everybody is in time, and the token can be presented: all of its passage happens as it
should, and an agent that meets with it outside does all that comes before the connection. Only in
the last minute of the machine's time the gateway breaks down over the token. -/
theorem runs_of_prepared (hprepared : p.Prepared) (htimely : p.Timely)
    (hpresentable : p.Presentable)
    (hfirst : p.controller.Expects p.controllerClock p.who p.enrolled p.firstAt p.firstNonce)
    (hsecond : p.gateway.Expects p.gatewayClock p.who p.known p.secondAt p.secondNonce) :
    ∃ first reply second, p.Runs first reply second ∧
      ∀ (plan : Agent.Plan) (controller : SocketAddress), plan.who = p.who →
        plan.route = .viaController controller →
        ∀ {σ : Type} (o : Agent.Outside σ) (s s' : σ) (readAt : Int64) (stages : List Agent.Stage),
          readAt ≤ p.secondAt →
          Agent.Course o plan controller p.firstAt p.firstNonce first reply readAt p.secondAt
            p.secondNonce second s s' →
          plan.approach o ⟨s, stages⟩ =
            (⟨s', stages ++ [.buildKnock, .sendKnock, .awaitToken, .sendSecondKnock]⟩, .ok ()) := by
  -- The controller's half: the first knock, and the answer that the device can read.
  obtain ⟨first, hmade₁, haccepted₁⟩ : ∃ first,
      p.who.knock p.firstAt p.firstNonce none = .ok first ∧
        (p.controller.validate p.controllerClock first).2 = .ok p.firstKnock :=
    hprepared.controller_reached.validate_of_expects hfirst nofun
  have hfits : p.issuedAt.toInt + p.desk.issuer.ttl < 2 ^ 63 :=
    TokenIssuer.lt_of_expiresAt_nonneg hprepared.ttl_le htimely.expiry
  have hserved : p.firstKnock.device.services ≠ [] :=
    List.ne_nil_of_mem hprepared.enrolled_service
  obtain ⟨reply, hanswered, hopens⟩ : ∃ reply,
      (p.desk.grant p.issuedAt p.tokenId p.firstKnock).2 = .ok (some reply) ∧
        Grant.decode p.enrolled.secret reply p.firstNonce = .ok p.grant :=
    GrantDesk.grant_of_served hserved hfits hpresentable.short
  rw [hfirst.secret_eq] at hopens
  -- The gateway's half: the second knock, with the token of the answer.
  obtain ⟨second, hmade₂, haccepted₂⟩ : ∃ second,
      p.who.knock p.secondAt p.secondNonce (some p.token) = .ok second ∧
        (p.gateway.validate p.gatewayClock second).2 = .ok p.secondKnock :=
    hprepared.gateway_reached.validate_of_expects hsecond fun text htext =>
      Option.some.inj htext ▸ TokenIssuer.checkToken_tokenFor hpresentable.short
  have hunexpired : ∀ readAt, readAt ≤ p.secondAt → ¬ p.grant.expiresAt < readAt := by
    intro readAt hread
    have hexpiresAt : p.grant.expiresAt.toInt = p.issuedAt.toInt + p.desk.issuer.ttl :=
      TokenIssuer.toInt_expiresAt_of_nonneg hprepared.ttl_le htimely.expiry
    have hagain := htimely.again
    rw [Int64.le_iff_toInt_le] at hread
    rw [Int64.not_lt, Int64.le_iff_toInt_le]
    omega
  -- Both servers have found the device under the identifier that it knocks with.
  have hid : p.enrolled.id = p.known.id :=
    (Registry.id_of_lookup hfirst.registered).trans (Registry.id_of_lookup hsecond.registered).symm
  have hadmitted := consider_secondKnock hprepared htimely hpresentable hid
  refine ⟨first, reply, second, ⟨hmade₁, haccepted₁, if_pos hfits, hanswered, hopens, rfl,
    hunexpired, hmade₂, haccepted₂, hadmitted, ?_⟩, ?_⟩
  · intro hok later hle hlt
    rw [Doorkeeper.consider_fst_of_ok hok]
    exact AdmissionGate.take_withAdmission hprepared.doorkeeper_reached.spec.1 p.source p.known
      hle hlt
  · intro plan controller hwho hroute σ o s s' readAt stages hread hcourse
    exact Agent.Plan.approach_of_course hroute hcourse (hwho ▸ hmade₁) (hwho ▸ hopens)
      (hunexpired readAt hread) (hwho ▸ hmade₂)

/-- The passage of a device to a service between servers that have just been started, with room
for ten records each and thirty seconds for the clocks to differ. -/
def atStart (device : Device) (service : String) (issuer : TokenIssuer)
    (firstAt issuedAt secondAt admittedAt : Int64) : Passage where
  who := ⟨device.id, device.secret⟩
  enrolled := device
  known := device
  controllerClock := .startingAt issuedAt
  controller := .ofNanoseconds (Registry.empty.upsert device) 30000000000 10
  desk := .new issuer
  gatewayClock := .startingAt admittedAt
  gateway := .ofNanoseconds (Registry.empty.upsert device) 30000000000 10
  doorkeeper := .new (.new 30000 10) service (some (.new issuer 10))
  policy := .new issuer 10
  firstAt
  firstNonce := ⟨List.replicate 16 0, rfl⟩
  secondAt
  secondNonce := ⟨List.replicate 16 1, rfl⟩
  tokenId := ⟨Octets.zero 16⟩
  source := .v4 ⟨[192, 0, 2, 1], rfl⟩

section
variable {device : Device} {service : String} {issuer : TokenIssuer}
  {firstAt issuedAt secondAt admittedAt : Int64}

theorem prepared_atStart (hservice : service ∈ device.services)
    (hmade : ∃ secret name ttl, TokenIssuer.ofNanoseconds secret name ttl = .ok issuer) :
    (atStart device service issuer firstAt issuedAt secondAt admittedAt).Prepared where
  controller_reached := ⟨_, _, _, _, _, [], rfl⟩
  gateway_reached := ⟨_, _, _, _, _, [], rfl⟩
  doorkeeper_reached := ⟨_, _, _, _, _, _, [], rfl⟩
  issuer_made := hmade
  tokens_eq := rfl
  secret_eq := rfl
  issuer_eq := rfl
  enrolled_service := hservice
  known_service := hservice

theorem presentable_atStart
    (hshort : (4 * (issuer.claimsFor device (Clock.startingAt issuedAt).unixSeconds
      ⟨Octets.zero 16⟩).write.length + 2) / 3 + 81 ≤ Wire.maxTokenLength)
    (hrange : TokenPolicy.retention (issuer.claimsFor device (Clock.startingAt issuedAt).unixSeconds
      ⟨Octets.zero 16⟩) (Clock.startingAt admittedAt).unixSeconds < Clock.limit) :
    (atStart device service issuer firstAt issuedAt secondAt admittedAt).Presentable where
  short := by rwa [token, TokenIssuer.length_tokenFor]
  new := by simp [atStart, TokenPolicy.onRecord_new]
  room := by
    rw [atStart, TokenPolicy.onRecord_new, Finset.card_empty]
    exact Store.capacity_pos _
  token_inRange := (Nat.zero_add _).trans_lt hrange
  admission_inRange := by
    show 0 + 30000 < 2 ^ 63 * 1000
    decide

end

/-- A tablet whose clock is ten seconds behind that of the controller, and five seconds behind
that of the gateway. -/
theorem runs_of_prepared_of_late_clock :
    let device : Device :=
      ⟨⟨"tablet", by decide, by decide⟩, ⟨List.replicate 16 7, by decide⟩, .commonName "tablet",
        ["ssh"]⟩
    let issuer : TokenIssuer := ⟨List.replicate 32 9, by decide, "controller", 120⟩
    let p := atStart device "ssh" issuer 990 1000 1000 1005
    p.Prepared ∧ p.Timely ∧ p.Presentable ∧
    p.controller.Expects p.controllerClock p.who p.enrolled p.firstAt p.firstNonce ∧
    p.gateway.Expects p.gatewayClock p.who p.known p.secondAt p.secondNonce ∧
    (p.doorkeeper.consider p.gatewayClock p.secondKnock p.source).2 = .ok () ∧
    ∃ first reply second, p.Runs first reply second := by
  intro device issuer p
  have hprepared : p.Prepared := prepared_atStart (by decide)
    ⟨List.replicate 32 9, "controller", 120000000000, by decide⟩
  have htimely : p.Timely := ⟨by decide, by decide, by decide, by decide⟩
  have hpresentable : p.Presentable := presentable_atStart (by decide +kernel) (by decide)
  have hlookup := Registry.empty.lookup_upsert_self device
  have hfirst : p.controller.Expects p.controllerClock p.who p.enrolled p.firstAt p.firstNonce :=
    Validator.expects_ofNanoseconds hlookup rfl (by decide) (by decide)
  have hsecond : p.gateway.Expects p.gatewayClock p.who p.known p.secondAt p.secondNonce :=
    Validator.expects_ofNanoseconds hlookup rfl (by decide) (by decide)
  obtain ⟨first, reply, second, hruns, -⟩ :=
    runs_of_prepared hprepared htimely hpresentable hfirst hsecond
  have hadmitted : (p.doorkeeper.consider p.gatewayClock p.secondKnock p.source).2 = .ok () :=
    hruns.admitted.trans (if_pos (by decide))
  exact ⟨hprepared, htimely, hpresentable, hfirst, hsecond, hadmitted, first, reply, second, hruns⟩

/-- Eleven seconds before the end of the machine's time all clocks agree, and the gateway breaks
down over a token that the controller has just issued. -/
theorem stopped_of_last_minute :
    let device : Device :=
      ⟨⟨"dev-1", by decide, by decide⟩, ⟨List.replicate 16 0x11, by decide⟩, .commonName "dev-1",
        ["ssh"]⟩
    let issuer : TokenIssuer := ⟨List.replicate 32 0x42, by decide, "sdp-controller", 10⟩
    let now : Int64 := 9223372036854775797
    let p := atStart device "ssh" issuer now now now now
    p.Prepared ∧ p.Timely ∧ p.Presentable ∧
    p.controller.Expects p.controllerClock p.who p.enrolled p.firstAt p.firstNonce ∧
    p.gateway.Expects p.gatewayClock p.who p.known p.secondAt p.secondNonce ∧
    (p.doorkeeper.consider p.gatewayClock p.secondKnock p.source).2 =
      .error (.token .outOfRange) := by
  intro device issuer now p
  have hprepared : p.Prepared := prepared_atStart (by decide)
    ⟨List.replicate 32 0x42, "sdp-controller", 10000000000, by decide⟩
  have htimely : p.Timely := ⟨by decide, by decide, by decide, by decide⟩
  have hpresentable : p.Presentable := presentable_atStart (by decide +kernel) (by decide)
  have hlookup := Registry.empty.lookup_upsert_self device
  have hadmittedAt : p.admittedAt = now := by decide
  have hbroke := consider_secondKnock hprepared htimely hpresentable rfl
  rw [hadmittedAt, if_neg (by decide)] at hbroke
  exact ⟨hprepared, htimely, hpresentable,
    Validator.expects_ofNanoseconds hlookup rfl (by decide) (by decide),
    Validator.expects_ofNanoseconds hlookup rfl (by decide) (by decide), hbroke⟩

end Passage

end Perimeter
