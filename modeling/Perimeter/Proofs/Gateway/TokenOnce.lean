import Perimeter.Proofs.Gateway.Admission

/-!
# `Perimeter.Proofs.Gateway.TokenOnce`: a token is good for one admission

The number of a token is remembered for whole seconds of the Unix time, but the record ends at
an instant in milliseconds. `TokenPolicy.expired_of_outlived` shows that the second which is
added to the record is enough: when the record has expired, so has the token.

While the record lasts, it survives all that happens to the doorkeeper
(`Doorkeeper.Remembers.next`), a list of used tokens that is full included. So of two
admissions for tokens of the same number, the second comes after the first token's expiry
(`Doorkeeper.never_admits_token_twice`).
-/

set_option autoImplicit false

namespace Perimeter

/-- What stays of a policy on tokens: its verifier, and that no used token is evicted. -/
structure TokenPolicy.Strict (p : TokenPolicy) (verifier : TokenIssuer) (capacity : Nat) :
    Prop where
  verifier_eq : p.verifier = verifier
  within : p.used.Within capacity .refuseNew

/-- When the record of a token has expired, the token has expired as well. -/
theorem TokenPolicy.expired_of_outlived {clock clock' : Clock} {claims : Token.Claims}
    {ms ms' : Nat} (hbefore : clock.Precedes clock') (hfits : clock.Fits ms)
    (hfits' : clock'.Fits ms') (hvalid : clock.unixSeconds ≤ claims.expiresAt)
    (houtlived : clock.instant + retention claims clock.unixSeconds ≤ clock'.instant) :
    claims.expiresAt < clock'.unixSeconds := by
  rw [Int64.lt_iff_toInt_lt]
  rw [Int64.le_iff_toInt_le] at hvalid
  simp only [retention, secondMs] at houtlived
  -- The record lasts one second longer than the token has left.
  have hseconds := hbefore.toInt_unixSeconds_ge hfits hfits' houtlived
  omega

namespace Doorkeeper

/-- A knock is admitted at a moment of a run. -/
def Admits (p : Timed Doorkeeper × Event Action) (knock : ValidatedKnock) (source : IpAddress) :
    Prop :=
  p.2 = .act (.letIn knock source) ∧ (p.1.state.consider p.1.clock knock source).2 = .ok ()

/-- The doorkeeper asks for tokens, and its policy is strict. -/
def Watches (d : Doorkeeper) (verifier : TokenIssuer) (capacity : Nat) : Prop :=
  ∃ policy, d.tokens = some policy ∧ policy.Strict verifier capacity

/-- The number of a token is remembered until an instant. -/
def Remembers (d : Doorkeeper) (now : Nat) (id : Uuid) (expiry : Nat) : Prop :=
  ∃ policy, d.tokens = some policy ∧ policy.used.Remembers now id expiry

variable {d : Doorkeeper} {clock : Clock} {knock : ValidatedKnock} {source : IpAddress}
  {verifier : TokenIssuer} {capacity : Nat}

/-- A doorkeeper watches on, whatever happens to it. -/
theorem Watches.act (h : d.Watches verifier capacity) (clock : Clock) (action : Action) :
    (act clock d action).Watches verifier capacity := by
  obtain ⟨policy, hpolicy, hstrict⟩ := h
  obtain ⟨policy', hpolicy', hverifier, hused⟩ := tokens_act hpolicy clock action
  exact ⟨policy', hpolicy', hverifier.trans hstrict.verifier_eq, hused.within hstrict.within⟩

/-- What is remembered stays remembered, whatever happens to the doorkeeper. -/
theorem Remembers.act {id : Uuid} {expiry : Nat} (h : d.Remembers clock.instant id expiry)
    (hd : d.Watches verifier capacity) (action : Action) :
    (Doorkeeper.act clock d action).Remembers clock.instant id expiry := by
  obtain ⟨policy, hpolicy, hid⟩ := h
  obtain ⟨_, hsome, hstrict⟩ := hd
  cases hpolicy.symm.trans hsome
  obtain ⟨policy', hpolicy', -, hused⟩ := tokens_act hpolicy clock action
  exact ⟨policy', hpolicy', hused.remembers hstrict.within hid⟩

/-- An admitted knock carries a token that verifies and whose number is recorded now. -/
theorem Watches.stored_of_admitted (h : d.Watches verifier capacity)
    (hok : (d.consider clock knock source).2 = .ok ()) :
    ∃ policy token claims, d.tokens = some policy ∧ knock.token = some token ∧
      verifier.verify token clock.unixSeconds = .ok claims ∧
      (d.consider clock knock source).1.tokens = some { policy with
        used := (policy.used.insertIfAbsent clock.instant claims.id ()
          (TokenPolicy.retention claims clock.unixSeconds)).1 } ∧
      (policy.used.insertIfAbsent clock.instant claims.id ()
        (TokenPolicy.retention claims clock.unixSeconds)).2 = .stored := by
  obtain ⟨policy, hpolicy, hstrict⟩ := h
  obtain ⟨-, -, hchecks⟩ := consider_ok_iff.mp hok
  obtain ⟨token, htoken, hcheck⟩ := hchecks policy hpolicy
  obtain ⟨claims, hexamine, hstored⟩ := TokenPolicy.check_ok_iff.mp hcheck
  have hverify := (TokenPolicy.examine_ok_iff.mp hexamine).1
  rw [hstrict.verifier_eq] at hverify
  refine ⟨policy, token, claims, hpolicy, htoken, hverify, ?_, hstored⟩
  rw [consider_fst_of_ok hok, checkToken_of_token hpolicy htoken,
    (TokenPolicy.check_of_examine hexamine).1]

/-- What an event leaves behind: the record of the token of a knock that it admits. -/
def Recorded (verifier : TokenIssuer) (p : Timed Doorkeeper × Event Action)
    (t : Timed Doorkeeper) : Prop :=
  ∀ knock source, Admits p knock source → ∃ token claims, knock.token = some token ∧
    verifier.verify token p.1.clock.unixSeconds = .ok claims ∧
    t.state.Remembers t.clock.instant claims.id
      (p.1.clock.instant + TokenPolicy.retention claims p.1.clock.unixSeconds)

/-- An event that admits a knock records its token. -/
theorem Watches.recorded {t : Timed Doorkeeper} (h : t.state.Watches verifier capacity)
    (e : Event Action) : Recorded verifier (t, e) (t.next Doorkeeper.act e) := by
  rintro knock source ⟨rfl, hok⟩
  obtain ⟨policy, token, claims, hpolicy, htoken, hverify, hafter, hstored⟩ :=
    h.stored_of_admitted hok
  refine ⟨token, claims, htoken, hverify, _, hafter, ?_⟩
  obtain ⟨_, hsome, hstrict⟩ := h
  cases hpolicy.symm.trans hsome
  exact Store.remembers_of_stored hstrict.within (TokenPolicy.retention_pos _ _) hstored

/-- Every event keeps the record of a token until it expires. -/
theorem Recorded.next {p : Timed Doorkeeper × Event Action} {t : Timed Doorkeeper}
    {e : Event Action} (h : Recorded verifier p t) (ht : t.state.Watches verifier capacity)
    (hfits : t.clock.Fits e.duration) : Recorded verifier p (t.next Doorkeeper.act e) := by
  intro knock source hp
  obtain ⟨token, claims, htoken, hverify, hid⟩ := h knock source hp
  refine ⟨token, claims, htoken, hverify, ?_⟩
  cases e with
  | act action => exact hid.act ht action
  | advance ms =>
    obtain ⟨policy, hpolicy, hid⟩ := hid
    exact ⟨policy, hpolicy, hid.later (instant_le_next hfits)⟩

/-- A token is good for one admission. Every admission is for a token that verifies, and of
two admissions for tokens of the same number, the second comes when the first token has
expired. So no token is admitted twice. -/
theorem never_admits_token_twice (gate : AdmissionGate) (service : String)
    (verifier : TokenIssuer) (capacity admitted refused : Nat) (clock : Clock)
    (events : List (Event Action)) (hclock : NeverWraps clock events) :
    (trace act ⟨clock, gate, service, some (TokenPolicy.new verifier capacity), admitted,
      refused⟩ events).Pairwise fun first second =>
        ∀ k₁ s₁ k₂ s₂, Admits first k₁ s₁ → Admits second k₂ s₂ →
          ∃ token₁ claims₁ token₂ claims₂, k₁.token = some token₁ ∧ k₂.token = some token₂ ∧
            verifier.verify token₁ first.1.clock.unixSeconds = .ok claims₁ ∧
            verifier.verify token₂ second.1.clock.unixSeconds = .ok claims₂ ∧
            (claims₁.id = claims₂.id → claims₁.expiresAt < second.1.clock.unixSeconds) ∧
            token₁ ≠ token₂ := by
  refine pairwise_trace (fun t => t.state.Watches verifier (max 1 capacity))
    (Recorded verifier) ?_ ?_ ?_ ?_ events _ hclock
    ⟨_, rfl, rfl, Store.within_empty _ _ _⟩
  · intro t e _ ht
    cases e with
    | act action => exact ht.act t.clock action
    | advance ms => exact ht
  · intro t e _ ht
    exact ht.recorded e
  · intro p t e _ hfits ht hleft
    exact hleft.next ht hfits
  · rintro p t e hbefore hpfits hfits - ht hleft k₁ s₁ k₂ s₂ hfirst ⟨rfl, hok⟩
    obtain ⟨token₁, claims₁, htoken₁, hverify₁, _, hsome, hid⟩ := hleft k₁ s₁ hfirst
    obtain ⟨policy, token₂, claims₂, hpolicy, htoken₂, hverify₂, -, hstored⟩ :=
      ht.stored_of_admitted hok
    cases hpolicy.symm.trans hsome
    have hexpired : claims₁.id = claims₂.id → claims₁.expiresAt < t.clock.unixSeconds := by
      intro heq
      rw [heq] at hid
      exact TokenPolicy.expired_of_outlived hbefore hpfits hfits
        (TokenIssuer.le_expiresAt_of_verify hverify₁) (hid.le_of_stored hstored)
    refine ⟨token₁, claims₁, token₂, claims₂, htoken₁, htoken₂, hverify₁, hverify₂, hexpired, ?_⟩
    -- The same token has the same claims, and they would have to be expired and valid.
    rintro rfl
    obtain rfl := TokenIssuer.claims_eq_of_verify hverify₁ hverify₂
    exact absurd (hexpired rfl)
      (Int64.not_lt.mpr (TokenIssuer.le_expiresAt_of_verify hverify₂))

/-- A token that is presented when it is valid and again when it has expired, to a policy
that has room for one number. -/
theorem never_admits_token_twice_of_late_copy :
    let device : Device :=
      ⟨⟨"tablet", by decide, by decide⟩, ⟨List.replicate 16 7, by decide⟩, .commonName "tablet",
        ["ssh"]⟩
    let verifier : TokenIssuer := ⟨List.replicate 32 9, by decide, "controller", 60⟩
    let token := verifier.tokenFor device 0 ⟨List.replicate 16 0, rfl⟩
    let knock : ValidatedKnock := ⟨device, ⟨List.replicate 16 0, rfl⟩, 0, some token⟩
    let source : IpAddress := .v4 ⟨[192, 0, 2, 1], rfl⟩
    let events : List (Event Action) :=
      [.act (.letIn knock source), .advance 61000, .act (.letIn knock source)]
    let run := trace act ⟨.startingAt 0, .new 30000 10, "ssh", some (.new verifier 1), 0, 0⟩ events
    NeverWraps (.startingAt 0) events ∧
    (∃ p ∈ run, Admits p knock source) ∧
    run.Pairwise fun first second => ∀ k₁ s₁ k₂ s₂, Admits first k₁ s₁ → Admits second k₂ s₂ →
      ∃ token₁ claims₁ token₂ claims₂, k₁.token = some token₁ ∧ k₂.token = some token₂ ∧
        verifier.verify token₁ first.1.clock.unixSeconds = .ok claims₁ ∧
        verifier.verify token₂ second.1.clock.unixSeconds = .ok claims₂ ∧
        (claims₁.id = claims₂.id → claims₁.expiresAt < second.1.clock.unixSeconds) ∧
        token₁ ≠ token₂ := by
  intro device verifier token knock source events run
  refine ⟨by decide, ⟨_, .head _, rfl, by decide +kernel⟩, ?_⟩
  exact never_admits_token_twice _ _ _ _ _ _ _ events (by decide)

end Doorkeeper

end Perimeter
