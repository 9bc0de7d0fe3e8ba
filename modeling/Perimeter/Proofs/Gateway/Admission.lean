import Perimeter.Gateway.Doorkeeper
import Perimeter.Proofs.Run
import Perimeter.Proofs.Store.Memory
import Perimeter.Proofs.Token.Verify

/-!
# `Perimeter.Proofs.Gateway.Admission`: what it takes to be admitted

`Doorkeeper.consider_ok_iff` lists what the doorkeeper asks of a validated knock, the token
included where there is a policy on tokens. A refused knock may still have gone as far as the
list of used tokens, where a number that is present or for which there is no room changes
nothing that counts.

Behind the token nothing is refused. If the machine has no number for the end of an admission, the
knock breaks down there, and nobody is let in (`AdmissionGate.letIn_eq`).

`Doorkeeper.Action` is what may happen to a doorkeeper, and `Doorkeeper.tokens_act` says what
any of it makes of the list of used tokens.
-/

set_option autoImplicit false

namespace Perimeter

namespace TokenPolicy

variable {p : TokenPolicy} {clock : Clock} {token : String} {device : DeviceId}
  {service : String} {claims : Token.Claims}

/-- A used token is remembered for a while, however soon it expires. -/
theorem retention_pos (claims : Token.Claims) (now : Int64) : 0 < retention claims now := by
  simp only [retention, secondMs]
  omega

/-- What a token must say: it verifies, is the device's, and names the service. -/
theorem examine_ok_iff {now : Int64} :
    p.examine token device service now = .ok claims ↔
      p.verifier.verify token now = .ok claims ∧ claims.subject = device.text ∧
        claims.allows service := by
  simp only [examine, Checks.bind_eq_ok, Checks.mapError_eq_ok, Checks.throw_bind,
    Checks.error_if_eq_ok, Checks.pure_eq_ok, not_not, Bool.not_eq_true', Bool.not_eq_false]
  constructor
  · rintro ⟨read, hverify, hsubject, hscope, rfl⟩
    exact ⟨hverify, hsubject, hscope⟩
  · rintro ⟨hverify, hsubject, hscope⟩
    exact ⟨claims, hverify, hsubject, hscope, rfl⟩

/-- A token that does not verify is refused for that. -/
theorem examine_of_verify_error {now : Int64} {cause : Token.Error}
    (h : p.verifier.verify token now = .error cause) :
    p.examine token device service now = .error (.token cause) := by
  rw [examine, h]
  rfl

/-- If it breaks down to see what a token says, that is because its verification does. -/
theorem verify_of_breakdown {now : Int64} {reason : AdmitError}
    (h : p.examine token device service now = .error reason) (hbreaks : reason.isBreakdown) :
    p.verifier.verify token now = .error .outOfRange := by
  simp only [examine, Checks.bind_eq_error, Checks.mapError_eq_error, Checks.throw_bind,
    Checks.error_if_eq_error] at h
  obtain ⟨cause, hverify, rfl⟩ | ⟨claims, -, ⟨-, rfl⟩ | ⟨-, ⟨-, rfl⟩ | ⟨-, hpassed⟩⟩⟩ := h
  · cases cause with
    | outOfRange => exact hverify
    | _ => cases hbreaks
  -- What is held against the claims of a token is no breakdown.
  · cases hbreaks
  · cases hbreaks
  · cases hpassed

/-- What a check makes of the policy, and when it is good, for a token that says what it must. -/
theorem check_of_examine (h : p.examine token device service clock.unixSeconds = .ok claims) :
    (p.check clock token device service).1 =
      { p with used := (p.used.insertIfAbsent clock.instant claims.id ()
        (retention claims clock.unixSeconds)).1 } ∧
    ((p.check clock token device service).2 = .ok () ↔
      (p.used.insertIfAbsent clock.instant claims.id ()
        (retention claims clock.unixSeconds)).2 = .stored) := by
  simp only [check, h]
  split <;> simp_all

/-- A check refuses a token that does not say what it must, and records nothing. -/
theorem check_of_examine_error {reason : AdmitError}
    (h : p.examine token device service clock.unixSeconds = .error reason) :
    p.check clock token device service = (p, .error reason) := by
  simp only [check, h]

/-- A token passes if it says what it must and its number is recorded. -/
theorem check_ok_iff :
    (p.check clock token device service).2 = .ok () ↔
      ∃ claims, p.examine token device service clock.unixSeconds = .ok claims ∧
        (p.used.insertIfAbsent clock.instant claims.id ()
          (retention claims clock.unixSeconds)).2 = .stored := by
  cases hexamine : p.examine token device service clock.unixSeconds with
  | error reason => simp [check_of_examine_error hexamine]
  | ok claims => simp [(check_of_examine hexamine).2]

/-- A check only uses the list of used tokens. -/
theorem check_used (p : TokenPolicy) (clock : Clock) (token : String) (device : DeviceId)
    (service : String) :
    (p.check clock token device service).1.verifier = p.verifier ∧
      p.used.Used clock.instant (p.check clock token device service).1.used := by
  cases hexamine : p.examine token device service clock.unixSeconds with
  | error reason =>
    rw [check_of_examine_error hexamine]
    exact ⟨rfl, .untouched⟩
  | ok claims =>
    rw [(check_of_examine hexamine).1]
    exact ⟨rfl, .inserted _ _ _ (retention_pos claims clock.unixSeconds)⟩

end TokenPolicy

namespace AdmissionGate

/-- The gate with an admission, whether or not the machine has a number for the end of it. -/
def withAdmission (g : AdmissionGate) (clock : Clock) (ip : IpAddress) (device : Device) :
    AdmissionGate :=
  { g with entries := (g.entries.write clock.instant ip
      ⟨⟨device, clock.unixSeconds⟩, clock.instant + g.ttl⟩).1 }

/-- The machine has a number for the end of an admission. -/
def InRange (g : AdmissionGate) (clock : Clock) : Prop := clock.instant + g.ttl < Clock.limit

instance (g : AdmissionGate) (clock : Clock) : Decidable (g.InRange clock) :=
  inferInstanceAs (Decidable (_ < _))

/-- An address is let in as long as the machine has a number for the end of the admission. -/
theorem letIn_eq (g : AdmissionGate) (clock : Clock) (ip : IpAddress) (device : Device) :
    g.letIn clock ip device =
      if g.InRange clock then some (g.withAdmission clock ip device) else none := by
  by_cases hrange : g.InRange clock
  · rw [if_pos hrange, letIn, Store.upsert_of_inRange hrange]
    rfl
  · rw [if_neg hrange, letIn, Store.upsert, if_pos (Nat.not_lt.mp hrange)]

end AdmissionGate

namespace Doorkeeper

variable {d : Doorkeeper} {clock : Clock} {knock : ValidatedKnock} {source : IpAddress}

/-- Without a policy on tokens, no token is asked for. -/
theorem checkToken_of_none (h : d.tokens = none) : d.checkToken clock knock = (none, .ok ()) := by
  simp only [checkToken, h]

/-- A policy on tokens refuses a knock without one. -/
theorem checkToken_of_missing {policy : TokenPolicy} (h : d.tokens = some policy)
    (hmissing : knock.token = none) :
    d.checkToken clock knock = (some policy, .error .missingToken) := by
  simp only [checkToken, h, hmissing]

/-- A policy on tokens checks the token of a knock. -/
theorem checkToken_of_token {policy : TokenPolicy} {token : String} (h : d.tokens = some policy)
    (htoken : knock.token = some token) :
    d.checkToken clock knock =
      (some (policy.check clock token knock.device.id d.service).1,
        (policy.check clock token knock.device.id d.service).2) := by
  simp only [checkToken, h, htoken]

/-- The token of a knock is good, where one is asked for. -/
theorem checkToken_ok_iff :
    (d.checkToken clock knock).2 = .ok () ↔ ∀ policy, d.tokens = some policy →
      ∃ token, knock.token = some token ∧
        (policy.check clock token knock.device.id d.service).2 = .ok () := by
  cases htokens : d.tokens with
  | none => simp [checkToken_of_none htokens]
  | some policy =>
    cases htoken : knock.token with
    | none => simp [checkToken_of_missing htokens htoken]
    | some token =>
      rw [checkToken_of_token htokens htoken]
      simp

/-- What becomes of a knock that may reach the service: its token decides, and then whether the
machine has a number for the end of the admission. -/
theorem consider_of_permits (hpermits : knock.device.permits d.service) (clock : Clock)
    (source : IpAddress) :
    d.consider clock knock source =
      match (d.checkToken clock knock).2 with
      | .error reason => ({ d with tokens := (d.checkToken clock knock).1 }, .error reason)
      | .ok () =>
        if d.gate.InRange clock then
          ({ d with
              tokens := (d.checkToken clock knock).1
              gate := d.gate.withAdmission clock source knock.device }, .ok ())
        else ({ d with tokens := (d.checkToken clock knock).1 }, .error .outOfRange) := by
  unfold consider
  rw [hpermits]
  cases hcheck : d.checkToken clock knock with
  | mk tokens verdict =>
    cases verdict with
    | error reason => rfl
    | ok u =>
      rw [AdmissionGate.letIn_eq]
      by_cases hrange : d.gate.InRange clock
      · simp only [if_pos hrange]
        rfl
      · simp only [if_neg hrange]
        rfl

/-- A knock of a device that may not reach the service is refused. -/
theorem consider_of_not_permits (hpermits : ¬ knock.device.permits d.service) (clock : Clock)
    (source : IpAddress) :
    d.consider clock knock source =
      (d, .error (.serviceNotPermitted knock.device.id d.service)) := by
  simp [consider, hpermits]

/-- A knock is admitted if its device may reach the service, the token, where one is asked for,
passes, and the machine has a number for the end of the admission. -/
theorem consider_ok_iff :
    (d.consider clock knock source).2 = .ok () ↔
      knock.device.permits d.service ∧ d.gate.InRange clock ∧
        ∀ policy, d.tokens = some policy → ∃ token, knock.token = some token ∧
          (policy.check clock token knock.device.id d.service).2 = .ok () := by
  by_cases hpermits : knock.device.permits d.service
  · rw [← checkToken_ok_iff, consider_of_permits hpermits]
    cases (d.checkToken clock knock).2 with
    | error reason => simp
    | ok u => by_cases hrange : d.gate.InRange clock <;> simp [hrange, hpermits]
  · simp [consider_of_not_permits hpermits, hpermits]

/-- What becomes of the doorkeeper when a knock is admitted. -/
theorem consider_fst_of_ok (h : (d.consider clock knock source).2 = .ok ()) :
    (d.consider clock knock source).1 =
      { d with
        tokens := (d.checkToken clock knock).1
        gate := d.gate.withAdmission clock source knock.device } := by
  obtain ⟨hpermits, hrange, htokens⟩ := consider_ok_iff.mp h
  simp only [consider_of_permits hpermits, checkToken_ok_iff.mpr htokens, if_pos hrange]

/-- A knock leaves the policy on tokens alone or has it check a token. -/
theorem tokens_consider_cases (d : Doorkeeper) (clock : Clock) (knock : ValidatedKnock)
    (source : IpAddress) :
    (d.consider clock knock source).1.tokens = d.tokens ∨
      ∃ policy token, d.tokens = some policy ∧
        (d.consider clock knock source).1.tokens =
          some (policy.check clock token knock.device.id d.service).1 := by
  have hconsider : (d.consider clock knock source).1.tokens = d.tokens ∨
      (d.consider clock knock source).1.tokens = (d.checkToken clock knock).1 := by
    by_cases hpermits : knock.device.permits d.service
    · rw [consider_of_permits hpermits]
      refine .inr ?_
      split
      · rfl
      · split <;> rfl
    · rw [consider_of_not_permits hpermits]
      exact .inl rfl
  rcases hconsider with hsame | hchecked
  · exact .inl hsame
  · rw [hchecked]
    cases htokens : d.tokens with
    | none => exact .inl (by rw [checkToken_of_none htokens])
    | some policy =>
      cases htoken : knock.token with
      | none => exact .inl (by rw [checkToken_of_missing htokens htoken])
      | some token => exact .inr ⟨policy, token, rfl, by rw [checkToken_of_token htokens htoken]⟩

/-! ### A doorkeeper at work -/

/-- What may happen to a doorkeeper while it is at work. -/
inductive Action where
  | letIn (knock : ValidatedKnock) (source : IpAddress)
  | take (source : IpAddress)
  | sweepTokens
  | sweepGate

/-- What an action makes of a doorkeeper. -/
def act (clock : Clock) (d : Doorkeeper) : Action → Doorkeeper
  | .letIn knock source => (d.consider clock knock source).1
  | .take source => { d with gate := (d.gate.take clock source).1 }
  | .sweepTokens => { d with tokens := d.tokens.map (·.sweep clock) }
  | .sweepGate => { d with gate := d.gate.sweep clock }

/-- Whatever happens to a doorkeeper, its policy on tokens stays, with the same verifier, and
the list of used tokens is only used. -/
theorem tokens_act {policy : TokenPolicy} (h : d.tokens = some policy) (clock : Clock)
    (action : Action) :
    ∃ policy', (act clock d action).tokens = some policy' ∧
      policy'.verifier = policy.verifier ∧ policy.used.Used clock.instant policy'.used := by
  cases action with
  | letIn knock source =>
    rcases tokens_consider_cases d clock knock source with hsame | ⟨found, token, hfound, hcheck⟩
    · exact ⟨policy, hsame.trans h, rfl, .untouched⟩
    · cases h.symm.trans hfound
      exact ⟨_, hcheck, policy.check_used clock token knock.device.id d.service⟩
  | sweepTokens =>
    refine ⟨policy.sweep clock, ?_, rfl, .swept⟩
    show d.tokens.map (·.sweep clock) = _
    rw [h]
    rfl
  -- The gate is another part of the doorkeeper.
  | take source => exact ⟨policy, h, rfl, .untouched⟩
  | sweepGate => exact ⟨policy, h, rfl, .untouched⟩

end Doorkeeper

end Perimeter
