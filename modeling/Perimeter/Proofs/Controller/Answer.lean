import Perimeter.Controller.Server
import Perimeter.Proofs.Token.Issued
import Perimeter.Proofs.Validation.OnRecord
import Perimeter.Proofs.Validation.Port
import Perimeter.Proofs.Wire.Grant
import Perimeter.Proofs.Wire.Knock

/-!
# `Perimeter.Proofs.Controller.Answer`: whom the controller answers

The port of the controller is open to everybody, and answers nobody but the devices. `Earned`
gathers what stands behind an answer: a knock that only the device can have made, services for
it, and a grant that only the device can read, with a token for it (`earned_of_answered`).

A datagram that is answered has been accepted by the validator, and the records of that
outlast its freshness, whatever else happens to the controller. So a copy of it gets no answer,
and in a whole run every answer is earned by a datagram of its own
(`answers_earned_and_once`).

The token of an answer is valid at once, unless the machine's time is about to end: a minute later
is no time that the machine can count, and the verification of the token breaks down
(`answers_invalid_of_last_minute`).
-/

set_option autoImplicit false

namespace Perimeter

namespace GrantDesk

variable {desk : GrantDesk} {now : Int64} {id : Uuid} {k : ValidatedKnock} {reply : Bytes}

/-- The grant of the token for a knock, whether or not the token can be issued. -/
def grantOf (desk : GrantDesk) (now : Int64) (id : Uuid) (k : ValidatedKnock) : Grant :=
  ⟨k.nonce, (desk.issuer.claimsFor k.device now id).expiresAt, desk.issuer.tokenFor k.device now id⟩

/-- There is a grant as long as the expiry of its token is in range, and otherwise the desk breaks
down. -/
theorem grantFor_eq (desk : GrantDesk) (now : Int64) (id : Uuid) (k : ValidatedKnock) :
    desk.grantFor now id k =
      if now.toInt + desk.issuer.ttl < 2 ^ 63 then .ok (desk.grantOf now id k)
      else .error .outOfRange := by
  rw [grantFor, TokenIssuer.issue]
  split <;> rfl

/-- A knock is answered if its device has services and the expiry of its token is in range, with
what the device's secret makes of the grant. -/
theorem grant_eq_some_iff :
    (desk.grant now id k).2 = .ok (some reply) ↔
      k.device.services ≠ [] ∧ now.toInt + desk.issuer.ttl < 2 ^ 63 ∧
        Grant.encode k.device.secret (desk.grantOf now id k) = .ok reply := by
  rw [grant, grantFor_eq]
  by_cases hnone : k.device.services = []
  · simp [hnone]
  · have hsome : k.device.services.isEmpty = false := by simpa using hnone
    by_cases hfits : now.toInt + desk.issuer.ttl < 2 ^ 63
    · simp only [hsome, hfits, if_true]
      cases Grant.encode k.device.secret (desk.grantOf now id k) <;> simp [hnone]
    · simp only [hsome, hfits, if_false]
      simp

/-- A device with services gets a grant, and can read it, if the expiry of the token is in range
and the token is not too long. -/
theorem grant_of_served (hserved : k.device.services ≠ [])
    (hfits : now.toInt + desk.issuer.ttl < 2 ^ 63)
    (hshort : (desk.issuer.tokenFor k.device now id).length ≤ Wire.maxTokenLength) :
    ∃ reply, (desk.grant now id k).2 = .ok (some reply) ∧
      Grant.decode k.device.secret reply k.nonce = .ok (desk.grantOf now id k) := by
  obtain ⟨reply, hencode⟩ : ∃ reply,
      Grant.encode k.device.secret (desk.grantOf now id k) = .ok reply :=
    Grant.exists_encode_iff.mpr
      (Wire.checkToken_ok_iff.mp (TokenIssuer.checkToken_tokenFor hshort))
  refine ⟨reply, grant_eq_some_iff.mpr ⟨hserved, hfits, hencode⟩, ?_⟩
  rw [Grant.decode_of_encode hencode]
  exact if_neg (not_not_intro rfl)

/-- The sender of a knock hears the answer, if there is one. -/
theorem onKnock_eq (desk : GrantDesk) (now : Int64) (id : Uuid) (k : ValidatedKnock) :
    desk.onKnock now id k = ((desk.grant now id k).1, (desk.grant now id k).2.toOption.join) := by
  unfold onKnock
  split <;> rename_i hgrant <;> rw [hgrant] <;> rfl

theorem onKnock_eq_some_iff :
    (desk.onKnock now id k).2 = some reply ↔ (desk.grant now id k).2 = .ok (some reply) := by
  rw [onKnock_eq]
  cases (desk.grant now id k).2 <;> simp [Except.toOption]

theorem issuer_onKnock (desk : GrantDesk) (now : Int64) (id : Uuid) (k : ValidatedKnock) :
    (desk.onKnock now id k).1.issuer = desk.issuer := by
  rw [onKnock_eq, grant]
  split
  · rfl
  · split
    · rfl
    · split <;> rfl

end GrantDesk

namespace Controller.Server

variable {s : Server} {clock : Clock} {id : Uuid} {datagram reply : Bytes}

/-- A datagram is answered if it gives a knock and the desk answers that. -/
theorem knock_eq_some_iff :
    (s.knock clock id datagram).2 = some reply ↔
      ∃ k, (s.port.receive clock 0 datagram).2 = some k ∧
        (s.desk.onKnock clock.unixSeconds id k).2 = some reply := by
  unfold knock
  split
  · rename_i hport
    simp [hport]
  · rename_i k hport
    simp only [hport, Option.some.injEq, exists_eq_left']
    split <;> rename_i hdesk <;> simp [hdesk]

/-- A datagram that gives a knock of a device with services is answered, if the expiry of the token
is in range and the token is not too long, and the device can read the answer. -/
theorem knock_of_received {k : ValidatedKnock}
    (hreceive : (s.port.receive clock 0 datagram).2 = some k) (hserved : k.device.services ≠ [])
    (hfits : clock.unixSeconds.toInt + s.desk.issuer.ttl < 2 ^ 63)
    (hshort : (s.desk.issuer.tokenFor k.device clock.unixSeconds id).length ≤ Wire.maxTokenLength) :
    ∃ reply, (s.knock clock id datagram).2 = some reply ∧
      Grant.decode k.device.secret reply k.nonce = .ok (s.desk.grantOf clock.unixSeconds id k) := by
  obtain ⟨reply, hgrant, hopens⟩ := GrantDesk.grant_of_served hserved hfits hshort
  exact ⟨reply, knock_eq_some_iff.mpr ⟨k, hreceive, GrantDesk.onKnock_eq_some_iff.mpr hgrant⟩,
    hopens⟩

/-- Whatever is answered, the port has done its part before. -/
theorem validator_knock (s : Server) (clock : Clock) (id : Uuid) (datagram : Bytes) :
    (s.knock clock id datagram).1.port.validator =
      (s.port.receive clock 0 datagram).1.validator := by
  unfold knock
  split
  · rename_i hport
    rw [hport]
  · rename_i hport
    rw [hport]
    split <;> rfl

theorem issuer_knock (s : Server) (clock : Clock) (id : Uuid) (datagram : Bytes) :
    (s.knock clock id datagram).1.desk.issuer = s.desk.issuer := by
  unfold knock
  split
  · rfl
  · rename_i k _
    have hissuer := s.desk.issuer_onKnock clock.unixSeconds id k
    split <;> rename_i hdesk <;> rw [hdesk] at hissuer <;> exact hissuer

/-! ### What stands behind an answer -/

/-- What a datagram and the answer to it have to do with a device. -/
structure Earned (registry : Registry) (issuer : TokenIssuer) (now : Int64)
    (datagram reply : Bytes) (device : Device) (knock : Knock) (grant : Grant)
    (claims : Token.Claims) : Prop where
  registered : registry.lookup knock.device = some device
  /-- The datagram is what the device's secret makes of the knock. -/
  genuine : Knock.encode device.secret knock = .ok datagram
  served : device.services ≠ []
  /-- The answer opens under the device's secret, as a grant for this knock. -/
  opens : Grant.decode device.secret reply knock.nonce = .ok grant
  /-- The token in it is valid at once, but for the last minute of the machine's time. There its
  verification breaks down. -/
  valid : 0 ≤ grant.expiresAt → issuer.verify grant.token now =
    if now.toInt + 60 < 2 ^ 63 then .ok claims else .error .outOfRange
  subject_eq : claims.subject = device.id.text
  scope_eq : claims.scope = device.services
  expiresAt_eq : claims.expiresAt = grant.expiresAt

/-- Every answer is earned. -/
theorem earned_of_answered (httl : s.desk.issuer.ttl ≤ TokenIssuer.maxTtl)
    (h : (s.knock clock id datagram).2 = some reply) :
    ∃ device knock grant claims, Earned s.port.validator.registry s.desk.issuer clock.unixSeconds
      datagram reply device knock grant claims := by
  obtain ⟨k, hreceive, hanswer⟩ := knock_eq_some_iff.mp h
  obtain ⟨received, hdecode, hknock, hlookup, htag, -, -⟩ :=
    Validator.validate_ok_iff.mp (KnockPort.validate_of_receive hreceive)
  obtain ⟨hserved, -, hencode⟩ :=
    GrantDesk.grant_eq_some_iff.mp (GrantDesk.onKnock_eq_some_iff.mp hanswer)
  let claims := s.desk.issuer.claimsFor k.device clock.unixSeconds id
  refine ⟨k.device, k.knock, s.desk.grantOf clock.unixSeconds id k, claims, {
    registered := hlookup
    genuine := hknock ▸ Knock.encode_of_decode hdecode htag
    served := hserved
    opens := ?_
    valid := ?_
    subject_eq := rfl
    scope_eq := rfl
    expiresAt_eq := rfl }⟩
  · rw [Grant.decode_of_encode hencode]
    exact if_neg (not_not_intro rfl)
  · intro hexpiry
    exact TokenIssuer.verify_tokenFor_of_window rfl rfl hexpiry httl (by omega) (by omega)

/-! ### A controller at work -/

/-- What may happen to a controller while it is at work. A token that is issued gets the number
that comes with the datagram. -/
inductive Action where
  | knock (id : Uuid) (datagram : Bytes)
  | sweep

/-- What an action makes of a controller. -/
def act (clock : Clock) (s : Server) : Action → Server
  | .knock id datagram => (s.knock clock id datagram).1
  | .sweep => s.sweep clock

/-- A datagram is answered at a moment of a run. -/
def Answers (p : Timed Server × Event Action) (datagram reply : Bytes) : Prop :=
  ∃ id, p.2 = .act (.knock id datagram) ∧
    (p.1.state.knock p.1.clock id datagram).2 = some reply

/-- The validator of a controller at a moment of a run. -/
def judging (t : Timed Server) : Timed Validator := ⟨t.clock, t.state.port.validator⟩

variable {t : Timed Server} {p : Timed Server × Event Action} {skew retention capacity : Nat}

/-- What happens to a controller happens to its validator or passes it by. -/
theorem judging_next (t : Timed Server) (e : Event Action) :
    judging (t.next act e) = judging t ∨
      ∃ e', e'.duration = e.duration ∧
        judging (t.next act e) = (judging t).next Validator.act e' := by
  cases e with
  | advance ms => exact .inr ⟨.advance ms, rfl, rfl⟩
  | act action =>
    cases action with
    | sweep => exact .inr ⟨.act .sweep, rfl, rfl⟩
    | knock id datagram =>
      have hvalidator := t.state.validator_knock t.clock id datagram
      rcases t.state.port.validator_receive t.clock 0 datagram with hkept | hjudged
      · exact .inl (congrArg (Timed.mk t.clock) (hvalidator.trans hkept))
      · exact .inr ⟨.act (.validate (KnockPort.cut datagram)), rfl,
          congrArg (Timed.mk t.clock) (hvalidator.trans hjudged)⟩

/-- What is answered has been accepted. -/
theorem accepts_of_answers (h : Answers p datagram reply) :
    ∃ k, Validator.Accepts (judging p.1, .act (.validate datagram)) datagram k := by
  obtain ⟨id, -, hanswer⟩ := h
  obtain ⟨k, hreceive, -⟩ := knock_eq_some_iff.mp hanswer
  exact ⟨k, rfl, KnockPort.validate_of_receive hreceive⟩

/-- What is answered leaves the validator as it leaves an acceptance. -/
theorem judging_next_of_answers {e : Event Action} (h : Answers (t, e) datagram reply) :
    judging (t.next act e) = (judging t).next Validator.act (.act (.validate datagram)) := by
  obtain ⟨id, rfl, hanswer⟩ := h
  obtain ⟨k, hreceive, -⟩ := knock_eq_some_iff.mp hanswer
  exact congrArg (Timed.mk t.clock)
    ((t.state.validator_knock t.clock id datagram).trans
      (KnockPort.validator_receive_of_some hreceive))

/-- What an event leaves behind: the record of a datagram that it answers. -/
def Recorded (retention : Nat) (p : Timed Server × Event Action) (t : Timed Server) : Prop :=
  ∀ datagram reply, Answers p datagram reply →
    Validator.Recorded retention (judging p.1, .act (.validate datagram)) (judging t)

theorem guarded_next (h : (judging t).state.Guarded skew retention capacity) (e : Event Action) :
    (judging (t.next act e)).state.Guarded skew retention capacity := by
  rcases judging_next t e with hsame | ⟨e', -, hnext⟩
  · rwa [hsame]
  · rw [hnext]
    cases e' with
    | act action => exact h.act _ action
    | advance ms => exact h

/-- An event that answers a datagram records it. -/
theorem recorded_next_of_answers (h : (judging t).state.Guarded skew retention capacity)
    (e : Event Action) : Recorded retention (t, e) (t.next act e) := by
  intro datagram reply hanswers
  rw [judging_next_of_answers hanswers]
  rintro _ k ⟨heq, hok⟩
  cases heq
  exact h.remembers_of_accepted hok

/-- Every event keeps the record of an answered datagram until it expires. -/
theorem Recorded.next (h : Recorded retention p t)
    (ht : (judging t).state.Guarded skew retention capacity) {e : Event Action}
    (hfits : t.clock.Fits e.duration) : Recorded retention p (t.next act e) := by
  intro datagram reply hanswers
  have hrecorded := h datagram reply hanswers
  rcases judging_next t e with hsame | ⟨e', hduration, hnext⟩
  · rwa [hsame]
  · rw [hnext]
    exact hrecorded.next ht (hduration ▸ hfits)

/-- What is answered after another datagram is not a copy of it. -/
theorem Recorded.ne_of_answers {q : Timed Server × Event Action} {d₁ r₁ d₂ r₂ : Bytes}
    (h : Recorded retention p q.1) (hp : (judging p.1).state.Guarded skew retention capacity)
    (hq : (judging q.1).state.Guarded skew retention capacity)
    (hbefore : p.1.clock.Precedes q.1.clock) (hpfits : p.1.clock.Fits p.2.duration)
    (hqfits : q.1.clock.Fits q.2.duration) (hfirst : Answers p d₁ r₁)
    (hsecond : Answers q d₂ r₂) : d₁ ≠ d₂ := by
  rintro rfl
  obtain ⟨k₁, haccepts₁⟩ := accepts_of_answers hfirst
  obtain ⟨k₂, haccepts₂⟩ := accepts_of_answers hsecond
  have hne := Validator.Recorded.ne_of_accepts
    (q := (judging q.1, .act (.validate d₁))) (h d₁ r₁ hfirst) hp hq hbefore
    (hpfits.mono (Nat.zero_le _)) (hqfits.mono (Nat.zero_le _)) haccepts₁ haccepts₂
  have hknock := Validator.knock_eq_of_accepted haccepts₁.2 haccepts₂.2
  obtain ⟨hid, htime, hnonce, -⟩ : k₁.device.id = k₂.device.id ∧ k₁.timestamp = k₂.timestamp ∧
    k₁.nonce = k₂.nonce ∧ k₁.token = k₂.token := by simpa [ValidatedKnock.knock] using hknock
  exact hne (by rw [hid, htime, hnonce])

/-- The registry and the issuer are the same at every moment of a run. -/
theorem constant_next {registry : Registry} {issuer : TokenIssuer} (t : Timed Server)
    (e : Event Action)
    (h : t.state.port.validator.registry = registry ∧ t.state.desk.issuer = issuer) :
    (t.next act e).state.port.validator.registry = registry ∧
      (t.next act e).state.desk.issuer = issuer := by
  cases e with
  | advance ms => exact h
  | act action =>
    cases action with
    | sweep => exact h
    | knock id datagram =>
      refine ⟨?_, (issuer_knock _ _ _ _).trans h.2⟩
      refine Eq.trans ?_ h.1
      show (t.state.knock t.clock id datagram).1.port.validator.registry = _
      rw [validator_knock]
      rcases t.state.port.validator_receive t.clock 0 datagram with hkept | hjudged
      · rw [hkept]
      · rw [hjudged, Validator.registry_validate]

/-- The controller answers what it should, and once. In a run of a controller that has accepted
nothing before, every answer is earned: the datagram is what a registered device's secret makes of
a knock, the device has services, and the answer opens under its secret as a grant for the knock,
with a token for the device and its services that is valid at once, but for the last minute of the
machine's time. Of all datagrams with the same octets at most one is answered. The allowed
difference of the clocks and the time to live are in nanoseconds. -/
theorem answers_earned_and_once (registry : Registry) (skew capacity maxInflight : Nat)
    (secret : Bytes) (name : String) (ttl : Nat) (issuer : TokenIssuer)
    (hissuer : TokenIssuer.ofNanoseconds secret name ttl = .ok issuer) (clock : Clock)
    (events : List (Event Action)) (hclock : NeverWraps clock events) :
    let run := trace act ⟨clock, KnockPort.new (.ofNanoseconds registry skew capacity) maxInflight,
      GrantDesk.new issuer⟩ events
    (∀ p ∈ run, ∀ datagram reply, Answers p datagram reply →
      ∃ device knock grant claims, Earned registry issuer p.1.clock.unixSeconds datagram reply
        device knock grant claims) ∧
    run.Pairwise fun first second => ∀ d₁ r₁ d₂ r₂, Answers first d₁ r₁ → Answers second d₂ r₂ →
      d₁ ≠ d₂ := by
  intro run
  constructor
  · intro p hp datagram reply hanswers
    obtain ⟨hregistry, hsame⟩ := forall_trace constant_next events _ ⟨rfl, rfl⟩ p hp
    obtain ⟨id, -, hanswer⟩ := hanswers
    have httl : p.1.state.desk.issuer.ttl ≤ TokenIssuer.maxTtl :=
      hsame ▸ TokenIssuer.ttl_le_of_ofNanoseconds hissuer
    have hearned := earned_of_answered httl hanswer
    rwa [hregistry, hsame] at hearned
  · let retention := (ReplayGuard.ofNanoseconds skew capacity).retention
    refine pairwise_trace
      (fun t => (judging t).state.Guarded (skew / millisecondNs) retention (max 1 capacity))
      (Recorded retention) (fun t e _ ht => guarded_next ht e)
      (fun t e _ ht => recorded_next_of_answers ht e)
      (fun p t e _ hfits ht hleft => hleft.next ht hfits) ?_ events _ hclock
      (Validator.guarded_ofNanoseconds registry skew capacity)
    intro p t e hbefore hpfits hfits hp ht hleft d₁ r₁ d₂ r₂ hfirst hsecond
    exact hleft.ne_of_answers (q := (t, e)) hp ht hbefore hpfits hfits hfirst hsecond

/-- A knock that is answered, and its copy a second and a sweep later. -/
theorem answers_earned_and_once_of_copy :
    let device : Device :=
      ⟨⟨"tablet", by decide, by decide⟩, ⟨List.replicate 16 7, by decide⟩, .commonName "tablet",
        ["ssh"]⟩
    let registry := Registry.empty.upsert device
    let secret : Bytes := List.replicate 32 9
    let issuer : TokenIssuer := ⟨secret, by decide, "controller", 120⟩
    let datagram := (Knock.encode device.secret
      ⟨device.id, 0, ⟨List.replicate 16 0, rfl⟩, none⟩).toOption.getD []
    let id : Uuid := ⟨Octets.zero 16⟩
    let events : List (Event Action) :=
      [.act (.knock id datagram), .advance 1000, .act .sweep, .act (.knock id datagram)]
    let run := trace act ⟨.startingAt 0,
      KnockPort.new (.ofNanoseconds registry 30000000000 10) 256, GrantDesk.new issuer⟩ events
    TokenIssuer.ofNanoseconds secret "controller" 120000000000 = .ok issuer ∧
    NeverWraps (.startingAt 0) events ∧
    ∃ p ∈ run, ∃ reply, Answers p datagram reply ∧
      (∃ device knock grant claims, Earned registry issuer p.1.clock.unixSeconds datagram reply
        device knock grant claims) ∧
      run.Pairwise fun first second => ∀ d₁ r₁ d₂ r₂, Answers first d₁ r₁ → Answers second d₂ r₂ →
        d₁ ≠ d₂ := by
  intro device registry secret issuer datagram id events run
  have hissuer : TokenIssuer.ofNanoseconds secret "controller" 120000000000 = .ok issuer := by
    decide
  have hclock : NeverWraps (.startingAt 0) events := by decide
  obtain ⟨hearned, honce⟩ := answers_earned_and_once registry 30000000000 10 256 secret "controller"
    120000000000 issuer hissuer _ events hclock
  let server : Server :=
    ⟨KnockPort.new (.ofNanoseconds registry 30000000000 10) 256, GrantDesk.new issuer⟩
  have hreceive : (server.port.receive (.startingAt 0) 0 datagram).2 =
      some ⟨device, ⟨List.replicate 16 0, rfl⟩, 0, none⟩ := by
    decide +kernel
  have hshort : (issuer.tokenFor device (Clock.startingAt 0).unixSeconds id).length ≤
      Wire.maxTokenLength := by
    rw [TokenIssuer.length_tokenFor]
    decide +kernel
  obtain ⟨reply, hreply, -⟩ := knock_of_received hreceive (by decide) (by decide) hshort
  have hanswers : Answers (⟨.startingAt 0, server⟩, .act (.knock id datagram)) datagram reply :=
    ⟨id, rfl, hreply⟩
  exact ⟨hissuer, hclock, _, .head _, reply, hanswers, hearned _ (.head _) _ _ hanswers, honce⟩

/-- Eleven seconds before the end of the machine's time a knock is answered with a token that
lasts ten seconds, and to verify it at once breaks down. -/
theorem answers_invalid_of_last_minute :
    let device : Device :=
      ⟨⟨"dev-1", by decide, by decide⟩, ⟨List.replicate 16 0x11, by decide⟩, .commonName "dev-1",
        ["ssh"]⟩
    let now : Int64 := 9223372036854775797
    let issuer : TokenIssuer := ⟨List.replicate 32 0x42, by decide, "sdp-controller", 10⟩
    let server : Server :=
      ⟨KnockPort.new (.ofNanoseconds (Registry.empty.upsert device) 30000000000 10) 256,
        GrantDesk.new issuer⟩
    let nonce : Nonce := ⟨List.replicate 16 1, rfl⟩
    let datagram := (Knock.encode device.secret ⟨device.id, now, nonce, none⟩).toOption.getD []
    TokenIssuer.ofNanoseconds (List.replicate 32 0x42) "sdp-controller" 10000000000 =
      .ok issuer ∧
    NeverWraps (.startingAt now)
      [(.act (.knock ⟨Octets.zero 16⟩ datagram) : Event Action)] ∧
    ∃ reply grant, (server.knock (.startingAt now) ⟨Octets.zero 16⟩ datagram).2 = some reply ∧
      Grant.decode device.secret reply nonce = .ok grant ∧ 0 ≤ grant.expiresAt ∧
      issuer.verify grant.token now = .error .outOfRange ∧
      Token.Error.outOfRange.message? = none := by
  intro device now issuer server nonce datagram
  refine ⟨by decide, by decide, ?_⟩
  have hreceive : (server.port.receive (.startingAt now) 0 datagram).2 =
      some ⟨device, nonce, now, none⟩ := by
    decide +kernel
  have hshort : (issuer.tokenFor device (Clock.startingAt now).unixSeconds
      ⟨Octets.zero 16⟩).length ≤ Wire.maxTokenLength := by
    rw [TokenIssuer.length_tokenFor]
    decide +kernel
  obtain ⟨reply, hreply, hopens⟩ := knock_of_received hreceive (by decide) (by decide) hshort
  have hexpiry : 0 ≤ (issuer.claimsFor device (Clock.startingAt now).unixSeconds
      ⟨Octets.zero 16⟩).expiresAt := by decide
  have hverify : issuer.verify (issuer.tokenFor device (Clock.startingAt now).unixSeconds
      ⟨Octets.zero 16⟩) now = .error .outOfRange := by
    refine (TokenIssuer.verify_tokenFor_of_window rfl rfl hexpiry ?_ ?_ ?_).trans ?_
    · decide
    · decide
    · decide
    · rw [if_neg (by decide)]
  exact ⟨reply, _, hreply, hopens, hexpiry, hverify, rfl⟩

end Controller.Server

end Perimeter
