import Perimeter.Proofs.Controller.Granted
import Perimeter.Proofs.Gateway.FirstGate
import Perimeter.Proofs.Token.Genuine
import Perimeter.Proofs.Validation.Counted

/-!
# `Perimeter.Proofs.Ledger`: every datagram is counted once

Nobody hears what becomes of a datagram that does not count, so the counters are all there is to
know of it. `KnockPort.Ledger` says what the counters of a port tell of the datagrams that have
arrived there. What the controller and the gateway count behind the port agrees with it: each
accepted datagram is counted once more, unless it is a knock whose grant cannot be written
(`datagrams_counted_once`).

What breaks down is counted as far as it has come and no further: as received, or as accepted.
`uncounted_of_last_minute` is a knock that a gateway accepts, and neither admits nor refuses.

Both servers keep their books in every step (`Controller.Server.Books.next`,
`Gateway.Server.Books.next`), whatever the clock shows.
-/

set_option autoImplicit false

namespace Perimeter

theorem countP_concat {α : Type} (f : α → Bool) (l : List α) (a : α) :
    (l ++ [a]).countP f = l.countP f + (f a).toNat := by
  rw [List.countP_append, List.countP_singleton]
  cases f a <;> rfl

/-! ### The controller -/

namespace GrantDesk

/-- What came of a knock at a desk is a grant that cannot be written. -/
def unwritten : Except GrantError (Option Bytes) → Bool
  | .error (.encode _) => true
  | .error (.token _) | .ok _ => false

/-- What came of a knock at a desk is that no token could be issued. -/
def unissued : Except GrantError (Option Bytes) → Bool
  | .error (.token _) => true
  | .error (.encode _) | .ok _ => false

/-- A desk counts a knock as issued or as refused, or fails to write the grant, or to issue its
token. -/
theorem grant_counts (desk : GrantDesk) (now : Int64) (id : Uuid) (k : ValidatedKnock) :
    let outcome := (desk.grant now id k).2
    ∃ refused : Nat,
      (desk.grant now id k).1 = { desk with
        issued := desk.issued + outcome.toOption.join.isSome.toNat
        refused := desk.refused + refused } ∧
      outcome.toOption.join.isSome.toNat + refused + (unwritten outcome).toNat +
        (unissued outcome).toNat = 1 := by
  intro outcome
  rcases desk.grant_cases now id k with
    ⟨-, hgrant⟩ | ⟨-, -, hgrant⟩ | ⟨-, -, -, reply, -, hgrant⟩ | ⟨-, -, -, hgrant⟩
  · -- The device has no services.
    refine ⟨1, ?_, ?_⟩ <;> simp only [outcome, hgrant] <;> rfl
  -- In the other cases nothing is refused.
  all_goals refine ⟨0, ?_, ?_⟩ <;> simp only [outcome, hgrant] <;> rfl

/-- No token can be issued whose expiry is out of range. -/
theorem le_of_unissued {desk : GrantDesk} {now : Int64} {id : Uuid} {k : ValidatedKnock}
    (h : unissued (desk.grant now id k).2) : 2 ^ 63 ≤ now.toInt + desk.issuer.ttl := by
  rcases desk.grant_cases now id k with
    ⟨-, hgrant⟩ | ⟨-, hover, -⟩ | ⟨-, -, -, reply, -, hgrant⟩ | ⟨-, -, -, hgrant⟩
  · rw [hgrant] at h
    cases h
  · exact hover
  · rw [hgrant] at h
    cases h
  · rw [hgrant] at h
    cases h

end GrantDesk

namespace Controller.Server

/-- The datagram of an event, where it arrives. -/
def arrival? (p : Timed Server × Event Action) : Option KnockPort.Arrival :=
  match p.2 with
  | .act (.knock _ datagram) => some ⟨p.1.clock, p.1.state.port, datagram⟩
  | .act .sweep | .advance _ => none

/-- An event is a datagram that is answered. -/
def isAnswered (p : Timed Server × Event Action) : Bool :=
  match p.2 with
  | .act (.knock id datagram) => (p.1.state.knock p.1.clock id datagram).2.isSome
  | .act .sweep | .advance _ => false

/-- What comes of the knock of an event at the desk, where the port gives one. -/
def outcome? (p : Timed Server × Event Action) : Option (Except GrantError (Option Bytes)) :=
  match p.2 with
  | .act (.knock id datagram) =>
    (p.1.state.port.fate p.1.clock 0 datagram).knock?.map fun knock =>
      (p.1.state.desk.grant p.1.clock.unixSeconds id knock).2
  | .act .sweep | .advance _ => none

/-- An event is a knock that counts, and whose grant cannot be written. -/
def isUnwritten (p : Timed Server × Event Action) : Bool := (outcome? p).any GrantDesk.unwritten

/-- An event is a knock that counts, and for which no token can be issued. -/
def isUnissued (p : Timed Server × Event Action) : Bool := (outcome? p).any GrantDesk.unissued

variable {s : Server} {clock : Clock} {id : Uuid} {datagram : Bytes} {knock : ValidatedKnock}
  {past : List (Timed Server × Event Action)} {t : Timed Server}

/-- What a controller makes of a datagram that gives no knock. -/
theorem knock_of_dropped (h : (s.port.fate clock 0 datagram).knock? = none) :
    s.knock clock id datagram = ({ s with port := (s.port.receive clock 0 datagram).1 }, none) := by
  rw [← KnockPort.snd_receive] at h
  rw [Server.knock]
  cases hreceive : s.port.receive clock 0 datagram with
  | mk port found =>
    rw [hreceive] at h
    cases h
    rfl

/-- What a controller makes of a datagram that gives a knock: what the desk answers is sent. -/
theorem knock_of_accepted (h : (s.port.fate clock 0 datagram).knock? = some knock) :
    let port := (s.port.receive clock 0 datagram).1
    let answer := (s.desk.grant clock.unixSeconds id knock).2.toOption.join
    s.knock clock id datagram =
      (⟨if answer.isSome then port.replied else port,
        (s.desk.grant clock.unixSeconds id knock).1⟩, answer) := by
  intro port answer
  rw [← KnockPort.snd_receive] at h
  rw [Server.knock]
  simp only [port, answer]
  cases hreceive : s.port.receive clock 0 datagram with
  | mk port found =>
    rw [hreceive] at h
    cases h
    simp only [GrantDesk.onKnock_eq]
    cases (s.desk.grant clock.unixSeconds id knock).2.toOption.join <;> rfl

/-- Nothing is sent for a datagram that is dropped. -/
theorem accepted_of_isAnswered {p : Timed Server × Event Action} (h : isAnswered p) :
    ∃ arrival knock, arrival? p = some arrival ∧ arrival.fate = .accepted knock := by
  obtain ⟨t, e⟩ := p
  cases e with
  | advance ms => cases h
  | act action =>
    cases action with
    | sweep => cases h
    | knock id datagram =>
      refine ⟨⟨t.clock, t.state.port, datagram⟩, ?_⟩
      cases hfate : t.state.port.fate t.clock 0 datagram with
      | accepted knock => exact ⟨knock, rfl, hfate⟩
      | oversized | saturated | rejected =>
        have hnone : (t.state.port.fate t.clock 0 datagram).knock? = none := by rw [hfate]; rfl
        change (t.state.knock t.clock id datagram).2.isSome at h
        rw [knock_of_dropped hnone] at h
        cases h

/-- The desk breaks down over a token whose expiry is out of range, and over nothing else. -/
theorem le_of_isUnissued {p : Timed Server × Event Action} (h : isUnissued p) :
    2 ^ 63 ≤ p.1.clock.unixSeconds.toInt + p.1.state.desk.issuer.ttl := by
  obtain ⟨t, e⟩ := p
  cases e with
  | advance ms => cases h
  | act action =>
    cases action with
    | sweep => cases h
    | knock id datagram =>
      rw [isUnissued, outcome?] at h
      dsimp only at h
      cases hfate : (t.state.port.fate t.clock 0 datagram).knock? with
      | none =>
        rw [hfate] at h
        cases h
      | some knock =>
        rw [hfate] at h
        exact GrantDesk.le_of_unissued h

/-- What a datagram changes in the counts of a controller. If it is accepted, one number grows by
one: that of the answers, that of the refusals, that of the grants that cannot be written, or that
of the tokens that cannot be issued. -/
theorem knock_counts (t : Timed Server) (id : Uuid) (datagram : Bytes) :
    let p : Timed Server × Event Action := (t, .act (.knock id datagram))
    let port := (t.state.port.receive t.clock 0 datagram).1
    ∃ refused : Nat,
      (t.state.knock t.clock id datagram).1 = ⟨if isAnswered p then port.replied else port,
        { t.state.desk with
          issued := t.state.desk.issued + (isAnswered p).toNat
          refused := t.state.desk.refused + refused }⟩ ∧
      port.counters.accepted = t.state.port.counters.accepted +
        ((isAnswered p).toNat + refused + (isUnwritten p).toNat + (isUnissued p).toNat) := by
  intro p port
  have haccepted := t.state.port.accepted_receive t.clock 0 datagram
  cases hfate : (t.state.port.fate t.clock 0 datagram).knock? with
  | none =>
    -- No knock comes to the desk.
    have hknock : t.state.knock t.clock id datagram = _ := knock_of_dropped hfate
    rw [hfate] at haccepted
    refine ⟨0, ?_, ?_⟩
    · simp [isAnswered, p, hknock, port]
    · simp [isAnswered, isUnwritten, isUnissued, outcome?, p, hknock, hfate, port, haccepted]
  | some knock =>
    have hknock : t.state.knock t.clock id datagram = _ := knock_of_accepted hfate
    rw [hfate] at haccepted
    obtain ⟨refused, hdesk, hone⟩ := t.state.desk.grant_counts t.clock.unixSeconds id knock
    have hanswered : isAnswered p =
        (t.state.desk.grant t.clock.unixSeconds id knock).2.toOption.join.isSome := by
      simp [isAnswered, p, hknock]
    have houtcome : outcome? p = some (t.state.desk.grant t.clock.unixSeconds id knock).2 := by
      simp [outcome?, p, hfate]
    refine ⟨refused, ?_, ?_⟩
    · rw [hknock, hanswered, hdesk]
    · rw [isUnwritten, isUnissued, hanswered, houtcome, Option.any_some, Option.any_some, hone]
      exact haccepted

/-- The books of a controller: what its port has counted, and how the desk has counted what was
accepted there. -/
structure Books (past : List (Timed Server × Event Action)) (t : Timed Server) : Prop where
  port : KnockPort.Books (past.filterMap arrival?) (past.countP isAnswered) t.state.port
  issued_eq : t.state.desk.issued = past.countP isAnswered
  accepted_eq : t.state.port.counters.accepted =
    t.state.desk.issued + t.state.desk.refused + past.countP isUnwritten +
      past.countP isUnissued

theorem books_new (clock : Clock) (validator : Validator) (maxInflight : Nat)
    (issuer : TokenIssuer) :
    Books [] ⟨clock, .new validator maxInflight, .new issuer⟩ where
  port := KnockPort.books_new validator maxInflight
  issued_eq := rfl
  accepted_eq := rfl

/-- Every event is entered in the books. -/
theorem Books.next (h : Books past t) (e : Event Action) :
    Books (past ++ [(t, e)]) (t.next act e) := by
  -- What is no datagram leaves all counts as they are.
  have hother : ∀ t', arrival? (t, e) = none → isAnswered (t, e) = false →
      outcome? (t, e) = none → t'.state.port.counters = t.state.port.counters →
      t'.state.port.maxInflight = t.state.port.maxInflight → t'.state.desk = t.state.desk →
      Books (past ++ [(t, e)]) t' := by
    intro t' hnothing hunanswered hnone hcounters hroom hdesk
    refine ⟨?_, ?_, ?_⟩
    · simpa [hnothing, hunanswered] using h.port.of_eq hcounters hroom
    · simpa [hdesk, hunanswered] using h.issued_eq
    · simpa [hdesk, hcounters, isUnwritten, isUnissued, hnone] using h.accepted_eq
  cases e with
  | advance ms => exact hother _ rfl rfl rfl rfl rfl rfl
  | act action =>
    cases action with
    | sweep => exact hother _ rfl rfl rfl rfl rfl rfl
    | knock id datagram =>
      obtain ⟨refused, hknock, haccepted⟩ := knock_counts t id datagram
      have hnext : t.next act (.act (.knock id datagram)) =
          ⟨t.clock, (t.state.knock t.clock id datagram).1⟩ := rfl
      have hport := h.port.receive t.clock datagram
      have hcounted := h.accepted_eq
      rw [hnext, hknock]
      refine ⟨?_, ?_, ?_⟩
      · cases hanswered : isAnswered (t, .act (.knock id datagram)) with
        | true => simpa [arrival?, hanswered] using hport.replied
        | false => simpa [arrival?, hanswered] using hport
      · rw [countP_concat, ← h.issued_eq]
      · -- A reply is no acceptance.
        have hsame : ∀ (answered : Bool) (port : KnockPort),
            (if answered then port.replied else port).counters.accepted =
              port.counters.accepted := by
          intro answered port
          cases answered <;> rfl
        rw [countP_concat, countP_concat, hsame, haccepted]
        show t.state.port.counters.accepted + _ =
          t.state.desk.issued + _ + (t.state.desk.refused + refused) + _ + _
        omega

end Controller.Server

/-! ### The gateway -/

/-- What breaks the check of a token down: its verification, or the end of its record. -/
theorem TokenPolicy.cases_of_breakdown {p : TokenPolicy} {clock : Clock} {token service : String}
    {device : DeviceId} {reason : AdmitError}
    (h : (p.check clock token device service).2 = .error reason) (hbreaks : reason.isBreakdown) :
    p.verifier.verify token clock.unixSeconds = .error .outOfRange ∨
      ∃ claims, p.examine token device service clock.unixSeconds = .ok claims ∧
        Clock.limit ≤ clock.instant + retention claims clock.unixSeconds := by
  cases hexamine : p.examine token device service clock.unixSeconds with
  | error found =>
    rw [check_of_examine_error hexamine] at h
    cases h
    exact .inl (verify_of_breakdown hexamine hbreaks)
  | ok claims =>
    refine .inr ⟨claims, rfl, ?_⟩
    simp only [check, hexamine] at h
    split at h
    · cases h
    · cases h
      cases hbreaks
    · cases h
      cases hbreaks
    · exact Store.insertIfAbsent_outOfRange_iff.mp ‹_›

namespace Doorkeeper

variable {d : Doorkeeper} {clock : Clock} {knock : ValidatedKnock} {source : IpAddress}

/-- A knock breaks the doorkeeper down. -/
def breaksDown (d : Doorkeeper) (clock : Clock) (knock : ValidatedKnock) (source : IpAddress) :
    Bool :=
  match (d.consider clock knock source).2 with
  | .ok () => false
  | .error reason => reason.isBreakdown

/-- A doorkeeper counts every knock that it considers, unless it breaks down. -/
theorem counts_onKnock (d : Doorkeeper) (clock : Clock) (knock : ValidatedKnock)
    (source : IpAddress) :
    (d.onKnock clock knock source).admitted + (d.onKnock clock knock source).refused +
      (d.breaksDown clock knock source).toNat = d.admitted + d.refused + 1 := by
  have hconsider : (d.consider clock knock source).1.admitted = d.admitted ∧
      (d.consider clock knock source).1.refused = d.refused := by
    by_cases hpermits : knock.device.permits d.service
    · rw [consider_of_permits hpermits]
      split
      · exact ⟨rfl, rfl⟩
      · split <;> exact ⟨rfl, rfl⟩
    · rw [consider_of_not_permits hpermits]
      exact ⟨rfl, rfl⟩
  obtain ⟨hadmitted, hrefused⟩ := hconsider
  rw [← hadmitted, ← hrefused, onKnock, breaksDown]
  cases hverdict : d.consider clock knock source with
  | mk after verdict =>
    cases verdict with
    | ok u =>
      show after.admitted + 1 + after.refused + 0 = after.admitted + after.refused + 1
      omega
    | error reason =>
      cases hbreaks : reason.isBreakdown <;> simp [hbreaks]
      omega

/-- A time is out of range that a doorkeeper needs for a knock. -/
inductive Overflows (d : Doorkeeper) (clock : Clock) (knock : ValidatedKnock) : Prop where
  /-- A minute from now, for the verification of a genuine token. -/
  | leeway {policy : TokenPolicy} {token : String} {claims : Token.Claims}
    (asked : d.tokens = some policy) (carried : knock.token = some token)
    (genuine : policy.verifier.Genuine token claims)
    (late : 2 ^ 63 ≤ clock.unixSeconds.toInt + 60) : Overflows d clock knock
  /-- The end of the record of a token that says what it must. -/
  | record {policy : TokenPolicy} {token : String} {claims : Token.Claims}
    (asked : d.tokens = some policy) (carried : knock.token = some token)
    (examined : policy.examine token knock.device.id d.service clock.unixSeconds = .ok claims)
    (late : Clock.limit ≤ clock.instant + TokenPolicy.retention claims clock.unixSeconds) :
    Overflows d clock knock
  /-- The end of the admission. -/
  | admission (late : ¬ d.gate.InRange clock) : Overflows d clock knock

/-- Nothing else breaks a doorkeeper down. -/
theorem overflows_of_breaksDown (h : d.breaksDown clock knock source) :
    d.Overflows clock knock := by
  by_cases hrange : d.gate.InRange clock
  swap
  · exact .admission hrange
  rw [breaksDown] at h
  by_cases hpermits : knock.device.permits d.service
  swap
  · rw [consider_of_not_permits hpermits] at h
    cases h
  rw [consider_of_permits hpermits] at h
  cases hcheck : (d.checkToken clock knock).2 with
  | ok u =>
    rw [hcheck] at h
    dsimp only at h
    rw [if_pos hrange] at h
    cases h
  | error reason =>
    rw [hcheck] at h
    cases htokens : d.tokens with
    | none =>
      rw [checkToken_of_none htokens] at hcheck
      cases hcheck
    | some policy =>
      cases htoken : knock.token with
      | none =>
        rw [checkToken_of_missing htokens htoken] at hcheck
        cases hcheck
        cases h
      | some token =>
        rw [checkToken_of_token htokens htoken] at hcheck
        obtain hverify | ⟨claims, hexamine, hlate⟩ := TokenPolicy.cases_of_breakdown hcheck h
        · obtain ⟨⟨claims, hgenuine⟩, hlate⟩ := TokenIssuer.breaksDown_iff.mp hverify
          exact .leeway htokens htoken hgenuine hlate
        · exact .record htokens htoken hexamine hlate

/-- A doorkeeper breaks down over a token if the verification of it does. -/
theorem breaksDown_of_verify {policy : TokenPolicy} {token : String}
    (hpolicy : d.tokens = some policy) (htoken : knock.token = some token)
    (hpermits : knock.device.permits d.service)
    (hverify : policy.verifier.verify token clock.unixSeconds = .error .outOfRange)
    (source : IpAddress) : d.breaksDown clock knock source := by
  rw [breaksDown, consider_of_permits hpermits, checkToken_of_token hpolicy htoken,
    TokenPolicy.check_of_examine_error (TokenPolicy.examine_of_verify_error hverify)]
  rfl

end Doorkeeper

namespace Gateway.Server

/-- The datagram of an event, where it arrives. -/
def arrival? (p : Happening) : Option KnockPort.Arrival :=
  match p.2 with
  | .act (.knock _ datagram) => some ⟨p.1.clock, p.1.state.port, datagram⟩
  | .act _ | .advance _ => none

/-- An event is a knock that counts, and that breaks the doorkeeper down. -/
def brokeDown (p : Happening) : Bool :=
  match p.2 with
  | .act (.knock source datagram) =>
    (p.1.state.port.fate p.1.clock 0 datagram).knock?.any fun knock =>
      p.1.state.doorkeeper.breaksDown p.1.clock knock source
  | .act _ | .advance _ => false

/-- A knock that is accepted breaks down if the doorkeeper does. -/
theorem brokeDown_of_fate {t : Timed Server} {source : IpAddress} {datagram : Bytes}
    {knock : ValidatedKnock} (hfate : t.state.port.fate t.clock 0 datagram = .accepted knock)
    (hbreaks : t.state.doorkeeper.breaksDown t.clock knock source) :
    brokeDown (t, .act (.knock source datagram)) := by
  rw [brokeDown]
  dsimp only
  rw [hfate]
  exact hbreaks

/-- The doorkeeper breaks down over a knock that the port has accepted, and only where a time is
out of range. -/
theorem overflows_of_brokeDown {p : Happening} (h : brokeDown p) :
    ∃ source datagram knock, p.2 = .act (.knock source datagram) ∧
      p.1.state.port.fate p.1.clock 0 datagram = .accepted knock ∧
      p.1.state.doorkeeper.Overflows p.1.clock knock := by
  obtain ⟨t, e⟩ := p
  cases e with
  | advance ms => cases h
  | act action =>
    cases action with
    | knock source datagram =>
      rw [brokeDown] at h
      obtain ⟨knock, hknock, hbreaks⟩ := (Option.any_eq_true _ _).mp h
      exact ⟨source, datagram, knock, rfl, KnockPort.Fate.knock?_eq_some_iff.mp hknock,
        Doorkeeper.overflows_of_breaksDown hbreaks⟩
    | connect | sweepReplay | sweepTokens | sweepGate | upsert | remove => cases h

/-- The books of a gateway: what its port has counted without ever replying, and that the
doorkeeper has considered what was accepted there. -/
structure Books (past : List Happening) (t : Timed Server) : Prop where
  port : KnockPort.Books (past.filterMap arrival?) 0 t.state.port
  considered_eq : t.state.doorkeeper.admitted + t.state.doorkeeper.refused +
    past.countP brokeDown = t.state.port.counters.accepted

variable {past : List Happening} {t : Timed Server}

/-- A connection is counted neither at the port nor by the doorkeeper. -/
theorem connect_counts (s : Server) (clock : Clock) (source : IpAddress) (handshake : Handshake) :
    (s.connect clock source handshake).1.port = s.port ∧
      (s.connect clock source handshake).1.doorkeeper.admitted = s.doorkeeper.admitted ∧
      (s.connect clock source handshake).1.doorkeeper.refused = s.doorkeeper.refused := by
  unfold connect
  dsimp only
  split
  · exact ⟨rfl, rfl, rfl⟩
  · unfold serve
    split
    · exact ⟨rfl, rfl, rfl⟩
    · split <;> exact ⟨rfl, rfl, rfl⟩

/-- Every event is entered in the books. -/
theorem Books.next (h : Books past t) (e : Event Action) :
    Books (past ++ [(t, e)]) (t.next act e) := by
  -- What is no datagram leaves all counts as they are.
  have hother : ∀ t', arrival? (t, e) = none → brokeDown (t, e) = false →
      t'.state.port.counters = t.state.port.counters →
      t'.state.port.maxInflight = t.state.port.maxInflight →
      t'.state.doorkeeper.admitted = t.state.doorkeeper.admitted →
      t'.state.doorkeeper.refused = t.state.doorkeeper.refused → Books (past ++ [(t, e)]) t' := by
    intro t' hnothing hunbroken hcounters hroom hadmitted hrefused
    refine ⟨?_, ?_⟩
    · simpa [hnothing] using h.port.of_eq hcounters hroom
    · rw [hadmitted, hrefused, hcounters, countP_concat, hunbroken, ← h.considered_eq]
      rfl
  cases e with
  | advance ms => exact hother _ rfl rfl rfl rfl rfl rfl
  | act action =>
    cases action with
    | sweepReplay | sweepTokens | sweepGate | upsert | remove =>
      exact hother _ rfl rfl rfl rfl rfl rfl
    | connect source handshake =>
      obtain ⟨hport, hadmitted, hrefused⟩ := t.state.connect_counts t.clock source handshake
      exact hother _ rfl rfl (congrArg KnockPort.counters hport)
        (congrArg KnockPort.maxInflight hport) hadmitted hrefused
    | knock source datagram =>
      have haccepted := t.state.port.accepted_receive t.clock 0 datagram
      have hreceived := t.state.port.snd_receive t.clock 0 datagram
      have hport := h.port.receive t.clock datagram
      have hconsidered := h.considered_eq
      have hnext : t.next act (.act (.knock source datagram)) =
          ⟨t.clock, t.state.knock t.clock source datagram⟩ := rfl
      have hbroke : brokeDown (t, .act (.knock source datagram)) =
          (t.state.port.fate t.clock 0 datagram).knock?.any fun knock =>
            t.state.doorkeeper.breaksDown t.clock knock source := rfl
      rw [hnext, Server.knock]
      cases hreceive : t.state.port.receive t.clock 0 datagram with
      | mk port found =>
        rw [hreceive] at haccepted hreceived hport
        rw [← hreceived] at haccepted hbroke
        -- The doorkeeper counts on exactly when the port has accepted, or breaks down.
        cases found with
        | none =>
          refine ⟨by simpa [arrival?] using hport, ?_⟩
          rw [countP_concat, hbroke]
          exact hconsidered.trans haccepted.symm
        | some knock =>
          refine ⟨by simpa [arrival?] using hport, ?_⟩
          have hcounts := t.state.doorkeeper.counts_onKnock t.clock knock source
          rw [countP_concat, hbroke, Option.any_some]
          change port.counters.accepted = t.state.port.counters.accepted + 1 at haccepted
          show (t.state.doorkeeper.onKnock t.clock knock source).admitted +
            (t.state.doorkeeper.onKnock t.clock knock source).refused + _ = port.counters.accepted
          omega

end Gateway.Server

/-! ### Every datagram -/

/-- Every datagram is counted once, and silence is kept. A port counts what is longer than a knock
can be, whatever it is, and does not look at it, so that no datagram is malformed for its length.

Take a controller or a gateway at the start, and any run of it: datagrams of any content and any
length, one after another, with whatever else happens in between. The port has counted each
datagram once, as accepted or as dropped. The controller has replied to as many as it has issued
grants for, all of them accepted. Of those that it accepted, the ones that are neither issued nor
refused are the knocks whose grant cannot be written. The gateway has replied to none, and has
admitted or refused each that it accepted.

Breakdowns are the exception, at the port and behind it. They come of sums that are out of range
and of nothing else, and what breaks down is in no further count. -/
theorem datagrams_counted_once (validator : Validator) (maxInflight : Nat) (clock : Clock) :
    (∀ (p : KnockPort) inflight datagram, Knock.maxLength < datagram.length →
      p.receive clock inflight datagram =
        ({ p with counters := { p.counters with
          received := p.counters.received + 1, oversized := p.counters.oversized + 1 } }, none)) ∧
    (∀ (p : KnockPort) inflight datagram cause,
      p.fate clock inflight datagram = .rejected (.malformed cause) →
        datagram.length ≤ Knock.maxLength ∧ Knock.decode datagram = .error cause ∧
          ∀ size most, cause ≠ .oversized size most) ∧
    (∀ (p : KnockPort) inflight datagram,
      p.fate clock inflight datagram = .rejected .outOfRange ↔
        datagram.length ≤ Knock.maxLength ∧ inflight < p.maxInflight ∧
          (∃ examined, p.validator.examine clock.unixSeconds datagram = .ok examined) ∧
          Clock.limit ≤ clock.instant + p.validator.replay.retention) ∧
    (∀ issuer events,
      let start : Timed Controller.Server := ⟨clock, .new validator maxInflight, .new issuer⟩
      let run := trace Controller.Server.act start events
      let s := (start.after Controller.Server.act events).state
      KnockPort.Ledger (run.filterMap Controller.Server.arrival?)
        (run.countP Controller.Server.isAnswered) s.port.counters ∧
      s.port.counters.replies = s.desk.issued ∧
      s.port.counters.accepted = s.desk.issued + s.desk.refused +
        run.countP Controller.Server.isUnwritten + run.countP Controller.Server.isUnissued ∧
      (∀ p ∈ run, Controller.Server.isAnswered p → ∃ arrival knock,
        Controller.Server.arrival? p = some arrival ∧ arrival.fate = .accepted knock) ∧
      ∀ p ∈ run, Controller.Server.isUnissued p →
        2 ^ 63 ≤ p.1.clock.unixSeconds.toInt + p.1.state.desk.issuer.ttl) ∧
    ∀ gate service tokens (rest : Gateway.Server) events,
      let start : Timed Gateway.Server := ⟨clock, { rest with
        port := .new validator maxInflight, doorkeeper := .new gate service tokens }⟩
      let run := trace Gateway.Server.act start events
      let s := (start.after Gateway.Server.act events).state
      KnockPort.Ledger (run.filterMap Gateway.Server.arrival?) 0 s.port.counters ∧
      s.doorkeeper.admitted + s.doorkeeper.refused + run.countP Gateway.Server.brokeDown =
        s.port.counters.accepted ∧
      ∀ p ∈ run, Gateway.Server.brokeDown p → ∃ source datagram knock,
        p.2 = .act (.knock source datagram) ∧
        p.1.state.port.fate p.1.clock 0 datagram = .accepted knock ∧
        p.1.state.doorkeeper.Overflows p.1.clock knock := by
  refine ⟨?_, ?_, ?_, ?_, ?_⟩
  · intro p inflight datagram hlong
    exact p.receive_of_long clock inflight hlong
  · intro p inflight datagram cause hfate
    exact KnockPort.decode_of_malformed hfate
  · intro p inflight datagram
    exact KnockPort.fate_outOfRange_iff
  · intro issuer events start run s
    have hbooks := record_after Controller.Server.Books (fun _ _ e h => h.next e) events [] start
      (Controller.Server.books_new clock validator maxInflight issuer)
    have hledger := hbooks.port.ledger
    refine ⟨hledger, hledger.replies_eq.trans hbooks.issued_eq.symm, hbooks.accepted_eq, ?_, ?_⟩
    · intro p hp hanswered
      exact Controller.Server.accepted_of_isAnswered hanswered
    · intro p hp hunissued
      exact Controller.Server.le_of_isUnissued hunissued
  · intro gate service tokens rest events start run s
    have hbooks := record_after Gateway.Server.Books (fun _ _ e h => h.next e) events [] start
      ⟨KnockPort.books_new validator maxInflight, rfl⟩
    refine ⟨hbooks.port.ledger, hbooks.considered_eq, ?_⟩
    intro p hp hbroke
    exact Gateway.Server.overflows_of_brokeDown hbroke

/-- A datagram that is too long, one that is no knock, and a knock that is answered. -/
theorem datagrams_counted_once_of_three :
    let device : Device := ⟨⟨"tablet", by decide, by decide⟩, ⟨List.replicate 16 7, by decide⟩,
      .commonName "tablet", ["ssh"]⟩
    let validator := Validator.ofNanoseconds (Registry.empty.upsert device) 30000000000 10
    let issuer : TokenIssuer := ⟨List.replicate 32 0x42, by decide, "sdp-controller", 120⟩
    let id : Uuid := ⟨Octets.zero 16⟩
    let long : Bytes := List.replicate (Knock.maxLength + 1) 1
    let genuine := (Knock.encode device.secret
      ⟨device.id, 1700000000, ⟨List.replicate 16 1, rfl⟩, none⟩).toOption.getD []
    let start : Timed Controller.Server :=
      ⟨.startingAt 1700000000, .new validator 1, .new issuer⟩
    let events : List (Event Controller.Server.Action) :=
      [.act (.knock id long), .act (.knock id [1, 2, 3]), .act (.knock id genuine)]
    let c := (start.after Controller.Server.act events).state.port.counters
    (start.state.port.receive start.clock 0 long).2 = none ∧
    (∃ cause, start.state.port.fate start.clock 0 [1, 2, 3] = .rejected (.malformed cause) ∧
      ∀ size most, cause ≠ .oversized size most) ∧
    (∃ p ∈ trace Controller.Server.act start events, Controller.Server.isAnswered p ∧
      ∃ arrival knock, Controller.Server.arrival? p = some arrival ∧
        arrival.fate = .accepted knock) ∧
    c.received = 3 ∧ c.oversized = 1 ∧ c.accepted + c.dropped = 3 := by
  intro device validator issuer id long genuine start events c
  obtain ⟨hlong, hmalformed, -, hcontroller, -⟩ :=
    datagrams_counted_once validator 1 (.startingAt 1700000000)
  have hstart : start = ⟨.startingAt 1700000000, .new validator 1, .new issuer⟩ := rfl
  obtain ⟨hledger, -, -, hanswers, -⟩ := hcontroller issuer events
  rw [← hstart] at hledger hanswers
  have hfate : start.state.port.fate start.clock 0 [1, 2, 3] =
      .rejected (.malformed (.insufficientData Knock.minLength 3)) := rfl
  have hcounters : c = .tally _ _ := hledger.counters_eq
  have hreceived : c.received = 3 := by
    rw [hcounters]
    rfl
  have hoversized : c.oversized = 1 := hledger.oversized_eq.trans (by decide +kernel)
  refine ⟨?_, ⟨_, hfate, (hmalformed _ _ _ _ hfate).2.2⟩, ?_, hreceived, hoversized, ?_⟩
  · have hlength : Knock.maxLength < long.length := by
      rw [List.length_replicate]
      exact Nat.lt_succ_self _
    exact congrArg Prod.snd (hlong start.state.port 0 long hlength)
  · let third := (start.next Controller.Server.act (.act (.knock id long))).next
      Controller.Server.act (.act (.knock id [1, 2, 3]))
    have hmem : (third, .act (.knock id genuine)) ∈ trace Controller.Server.act start events :=
      List.mem_of_getElem? (i := 2) rfl
    have hreceive : (third.state.port.receive third.clock 0 genuine).2 =
        some ⟨device, ⟨List.replicate 16 1, rfl⟩, 1700000000, none⟩ := by decide +kernel
    have hfits : third.clock.unixSeconds.toInt + third.state.desk.issuer.ttl < 2 ^ 63 := by
      decide +kernel
    have hshort : third.state.desk.issuer.claimsLength device third.clock.unixSeconds ≤
        TokenIssuer.maxClaimsLength := by decide +kernel
    have hanswered : Controller.Server.isAnswered (third, .act (.knock id genuine)) := by
      obtain ⟨reply, hreply⟩ :=
        (Controller.Server.answers_iff hreceive).mpr ⟨by decide, hfits, hshort⟩
      show (third.state.knock third.clock id genuine).2.isSome
      rw [hreply]
      rfl
    exact ⟨_, hmem, hanswered, hanswers _ hmem hanswered⟩
  · have hnone : PortCounters.breakdowns (((trace Controller.Server.act start events).filterMap
        Controller.Server.arrival?).map KnockPort.Arrival.fate) = 0 := by decide +kernel
    have hall := hledger.received_eq
    rw [hnone, Nat.add_zero] at hall
    exact hall.symm.trans hreceived

/-- Eleven seconds before the end of the machine's time a device knocks at a gateway with a token
that it was granted in the same second for ten seconds. The port accepts the knock, and the
doorkeeper breaks down over the token: nobody is admitted, and nobody is refused. -/
theorem uncounted_of_last_minute :
    let device : Device := ⟨⟨"dev-1", by decide, by decide⟩, ⟨List.replicate 16 0x11, by decide⟩,
      .commonName "dev-1", ["ssh"]⟩
    let issuer : TokenIssuer := ⟨List.replicate 32 0x42, by decide, "sdp-controller", 10⟩
    let now : Int64 := 9223372036854775797
    let token := issuer.tokenFor device now ⟨Octets.zero 16⟩
    let start : Timed Gateway.Server := ⟨.startingAt now,
      ⟨.new (.ofNanoseconds (Registry.empty.upsert device) 30000000000 10) 1,
        .new (.new 30000 10) "ssh" (some (.new issuer 10)), none, {}, 1, 0, 0⟩⟩
    ∃ datagram, Knock.encode device.secret
        ⟨device.id, now, ⟨List.replicate 16 1, rfl⟩, some token⟩ = .ok datagram ∧
      let s := (start.after Gateway.Server.act
        [.act (.knock (.v4 ⟨[192, 0, 2, 1], rfl⟩) datagram)]).state
      s.port.counters.accepted = 1 ∧ s.doorkeeper.admitted + s.doorkeeper.refused = 0 := by
  intro device issuer now token start
  let validator := start.state.port.validator
  have hlookup : validator.registry.lookup device.id = some device :=
    Registry.empty.lookup_upsert_self device
  have hexpects : validator.Expects start.clock ⟨device.id, device.secret⟩ device now
      ⟨List.replicate 16 1, rfl⟩ :=
    Validator.expects_ofNanoseconds hlookup rfl (by decide) (by decide)
  have hreached : validator.Reached start.clock := ⟨_, _, _, _, _, [], rfl⟩
  have hshort : token.length ≤ Wire.maxTokenLength := by
    rw [TokenIssuer.length_tokenFor]
    decide +kernel
  obtain ⟨datagram, hencode, hvalidate⟩ := hreached.validate_of_expects hexpects fun text htext =>
    Option.some.inj htext ▸ TokenIssuer.checkToken_tokenFor hshort
  refine ⟨datagram, hencode, ?_⟩
  have hlength : ¬ Knock.maxLength < datagram.length :=
    Nat.not_lt.mpr (Knock.length_of_encode hencode).2
  have hfate : start.state.port.fate start.clock 0 datagram =
      .accepted ⟨device, ⟨List.replicate 16 1, rfl⟩, now, some token⟩ := by
    rw [KnockPort.fate, if_neg hlength, if_neg (by decide), hvalidate]
  -- The books after the knock: the port has counted it, and the doorkeeper broke down over it.
  let e : Event Gateway.Server.Action := .act (.knock (.v4 ⟨[192, 0, 2, 1], rfl⟩) datagram)
  have hexpiry : 0 ≤ (issuer.claimsFor device now ⟨Octets.zero 16⟩).expiresAt := by decide
  have hverify : issuer.verify token start.clock.unixSeconds = .error .outOfRange :=
    (TokenIssuer.verify_tokenFor_of_window rfl rfl hexpiry (by decide) (by decide)
      (by decide)).trans (if_neg (by decide))
  have hbreaks : start.state.doorkeeper.breaksDown start.clock
      ⟨device, ⟨List.replicate 16 1, rfl⟩, now, some token⟩ (.v4 ⟨[192, 0, 2, 1], rfl⟩) := by
    have hpolicy : start.state.doorkeeper.tokens = some (.new issuer 10) := rfl
    exact Doorkeeper.breaksDown_of_verify hpolicy rfl (by decide) hverify _
  have hbroke : Gateway.Server.brokeDown (start, e) :=
    Gateway.Server.brokeDown_of_fate hfate hbreaks
  have hnew : Gateway.Server.Books [] start := ⟨KnockPort.books_new validator 1, rfl⟩
  have hbooks : Gateway.Server.Books [(start, e)] (start.next Gateway.Server.act e) := hnew.next e
  have hcounters := hbooks.port.ledger.counters_eq
  have hconsidered := hbooks.considered_eq
  have haccepted : (start.next Gateway.Server.act e).state.port.counters.accepted = 1 := by
    rw [hcounters]
    show (PortCounters.tally [start.state.port.fate start.clock 0 datagram] 0).accepted = 1
    rw [hfate]
    rfl
  rw [List.countP_singleton, hbroke, if_pos rfl, haccepted] at hconsidered
  exact ⟨haccepted, Nat.succ.inj hconsidered⟩

end Perimeter
