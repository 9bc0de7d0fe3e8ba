import Perimeter.Proofs.Gateway.Entry
import Perimeter.Proofs.Store.Entries

/-!
# `Perimeter.Proofs.Gateway.AllOrNothing`: an admission is all or nothing

An admission is written in two places: the number of the token goes into the list of used tokens,
and the address into the gate. The list is written first, and what is written there is not taken
back. So a token would be lost if the gate could refuse the address. It cannot, for it makes room
by dropping an admission. And the list of used tokens is written last among all that can refuse a
knock, so that a refused token can be presented again.

The gate can break down, though, if admissions count so long that the machine has no number for the
end of one (`AdmissionGate.InRange`). Then the token is lost.

* `TokenPolicy.entries_check_of_error`: a refused token leaves the list of used tokens as it was.
* `TokenPolicy.spends_of_check`: a token that passes is used up, and no other.
* `AdmissionGate.opens_withAdmission`: whoever is let in is let in, at the cost of one other address
  at most.
* `Doorkeeper.AtWork.all_or_nothing`: both together, for every state of a doorkeeper.
* `Doorkeeper.AtWork.spent_for_nothing_of_longest_ttl`: a token that is lost.
-/

set_option autoImplicit false

namespace Perimeter

namespace TokenPolicy

variable {p : TokenPolicy} {clock : Clock} {token : String} {device : DeviceId}
  {service : String} {capacity : Nat}

/-- A refused token leaves the list of used tokens as it was, the expired ones included. -/
theorem entries_check_of_error {reason : AdmitError} (h : p.used.Within capacity .refuseNew)
    (hrefused : (p.check clock token device service).2 = .error reason) :
    (p.check clock token device service).1.used.entries = p.used.entries := by
  cases hexamine : p.examine token device service clock.unixSeconds with
  | error reason => rw [check_of_examine_error hexamine]
  | ok claims =>
    obtain ⟨hafter, hverdict⟩ := check_of_examine hexamine
    rw [hafter]
    refine h.entries_insertIfAbsent fun hstored => ?_
    cases hrefused.symm.trans (hverdict.mpr hstored)

/-- A token was not used up before, it is from now on for as long as it could verify, and the
other used tokens stay on record. -/
structure Spends (p p' : TokenPolicy) (clock : Clock) (claims : Token.Claims) : Prop where
  new : claims.id ∉ p.onRecord clock
  recorded : Assoc.get? p'.used.entries claims.id =
    some ⟨(), clock.instant + retention claims clock.unixSeconds⟩
  kept : ∀ id ≠ claims.id, p.used.KeepsLive p'.used clock.instant id

theorem Spends.mem_onRecord {p' : TokenPolicy} {claims : Token.Claims}
    (h : p.Spends p' clock claims) : claims.id ∈ p'.onRecord clock := by
  have hlive : (⟨(), clock.instant + retention claims clock.unixSeconds⟩ : Expiring Unit).isLive
      clock.instant := Store.isLive_of_lasts (retention_pos claims clock.unixSeconds)
  rw [onRecord, Finmap.mem_keys, ← Finmap.lookup_isSome, Store.lookup_live, h.recorded,
    Option.filter_some, if_pos hlive]
  rfl

/-- A token that passes is used up. -/
theorem spends_of_check (h : p.used.Within capacity .refuseNew)
    (hok : (p.check clock token device service).2 = .ok ()) :
    ∃ claims, p.examine token device service clock.unixSeconds = .ok claims ∧
      p.Spends (p.check clock token device service).1 clock claims := by
  obtain ⟨claims, hexamine, hstored⟩ := check_ok_iff.mp hok
  have hafter := (check_of_examine hexamine).1
  refine ⟨claims, hexamine, ?_, ?_, fun id hid => ?_⟩
  · rw [onRecord, Finmap.mem_keys]
    exact Finmap.lookup_eq_none.mp (Store.lookup_of_stored hstored)
  · rw [hafter]
    exact Store.get?_of_stored h (retention_pos claims clock.unixSeconds) hstored
  · rw [hafter]
    exact Store.keepsLive_insertIfAbsent h hid

end TokenPolicy

namespace AdmissionGate

/-- An address is let in. The other live admissions stay as long as there is room for another,
and if there is none, one of those that expire first is gone. -/
structure Opens (g g' : AdmissionGate) (clock : Clock) (source : IpAddress)
    (admission : Admission) : Prop where
  admitted : (g'.isAdmitted clock source).2 = true
  found : (g'.take clock source).2 = some admission
  roomy : ((g.entries.live clock.instant).erase source).keys.card < g.entries.capacity →
    g'.entries.live clock.instant = ((g.entries.live clock.instant).erase source).insert source
      ⟨admission, clock.instant + g.ttl⟩
  crowded : g.entries.capacity ≤ ((g.entries.live clock.instant).erase source).keys.card →
    ∃ victim, LiveMap.IsEarliest ((g.entries.live clock.instant).erase source) victim ∧
      g'.entries.live clock.instant =
        (((g.entries.live clock.instant).erase source).erase victim).insert source
          ⟨admission, clock.instant + g.ttl⟩

variable {g : AdmissionGate}

/-- Whoever is let in is let in, however full the gate. -/
theorem opens_withAdmission (h : g.entries.Within g.entries.capacity .evictEarliest)
    (httl : 0 < g.ttl) (clock : Clock) (source : IpAddress) (device : Device) :
    g.Opens (g.withAdmission clock source device) clock source ⟨device, clock.unixSeconds⟩ := by
  have hfound : ((g.withAdmission clock source device).take clock source).2 =
      some ⟨device, clock.unixSeconds⟩ :=
    take_withAdmission h source device (Nat.le_refl _) (by omega)
  have hadmitted : ((g.withAdmission clock source device).isAdmitted clock source).2 = true := by
    rw [take_snd] at hfound
    show ((g.withAdmission clock source device).entries.lookup clock.instant source).2.isSome = true
    rw [Store.lookup_snd, hfound]
    rfl
  have hsize := (g.entries.card_live_le clock.instant).trans h.size_le
  obtain ⟨hroomy, hcrowded⟩ :=
    (Store.written_write h (Store.isLive_of_lasts httl)).eq_of_evictEarliest hsize
  exact ⟨hadmitted, hfound, hroomy, hcrowded⟩

end AdmissionGate

namespace Doorkeeper

variable {d : Doorkeeper} {clock : Clock} {knock : ValidatedKnock} {source : IpAddress}

/-! ### What a doorkeeper at work can be -/

/-- Everything that may happen to a doorkeeper: besides what changes the gate and the list of
used tokens for good, a knock may be counted, and somebody may ask whether an address is
admitted. -/
inductive Use where
  | act (action : Action)
  | count (knock : ValidatedKnock) (source : IpAddress)
  | ask (source : IpAddress)

/-- What comes of it. -/
def use (clock : Clock) (d : Doorkeeper) : Use → Doorkeeper
  | .act action => act clock d action
  | .count knock source => d.onKnock clock knock source
  | .ask source => { d with gate := (d.gate.isAdmitted clock source).1 }

/-- Admissions last for a while, the gate evicts, and where tokens are asked for, the list of
used tokens never does. -/
structure Sound (d : Doorkeeper) : Prop where
  ttl_pos : 0 < d.gate.ttl
  gate_within : d.gate.entries.Within d.gate.entries.capacity .evictEarliest
  used_within : ∀ policy, d.tokens = some policy →
    policy.used.Within policy.used.capacity .refuseNew

theorem ttl_act (d : Doorkeeper) (clock : Clock) (action : Action) :
    (act clock d action).gate.ttl = d.gate.ttl := by
  cases action with
  | letIn knock source =>
    show (d.consider clock knock source).1.gate.ttl = d.gate.ttl
    cases hverdict : (d.consider clock knock source).2 with
    | ok u =>
      rw [consider_fst_of_ok hverdict]
      rfl
    | error reason => rw [gate_consider_of_error hverdict]
  | take source => rfl
  | sweepTokens => rfl
  | sweepGate => rfl

/-- The count of a knock is apart from the gate and the tokens. -/
theorem onKnock_parts (d : Doorkeeper) (clock : Clock) (knock : ValidatedKnock)
    (source : IpAddress) :
    (d.onKnock clock knock source).gate = (act clock d (.letIn knock source)).gate ∧
      (d.onKnock clock knock source).tokens = (act clock d (.letIn knock source)).tokens := by
  simp only [onKnock, act]
  split
  · simp_all
  · split <;> simp_all

theorem sound_new {ttl : Nat} (httl : 0 < ttl) (gateCapacity : Nat) (service : String)
    (verifier : Option (TokenIssuer × Nat)) :
    (new (.new ttl gateCapacity) service (verifier.map fun v => .new v.1 v.2)).Sound where
  ttl_pos := httl
  gate_within := ⟨rfl, rfl, Nat.zero_le _⟩
  used_within policy hpolicy := by
    obtain ⟨v, -, rfl⟩ := Option.map_eq_some_iff.mp hpolicy
    exact ⟨rfl, rfl, Nat.zero_le _⟩

/-- A doorkeeper stays sound, whatever happens to it. -/
theorem Sound.act (h : d.Sound) (clock : Clock) (action : Action) : (act clock d action).Sound where
  ttl_pos := (ttl_act d clock action).symm ▸ h.ttl_pos
  gate_within := (within_act h.gate_within clock action).own
  used_within policy' hpolicy' := by
    cases hpolicy : d.tokens with
    | some policy =>
      obtain ⟨found, hfound, -, hused⟩ := tokens_act hpolicy clock action
      cases hfound.symm.trans hpolicy'
      exact (hused.within (h.used_within policy hpolicy)).own
    -- Where no token is asked for, none ever will be.
    | none =>
      have hnone : (Doorkeeper.act clock d action).tokens = none := by
        cases action with
        | letIn knock source =>
          rcases tokens_consider_cases d clock knock source with hsame | ⟨_, _, hsome, -⟩
          · exact hsame.trans hpolicy
          · cases hpolicy.symm.trans hsome
        | take source => exact hpolicy
        | sweepTokens =>
          show d.tokens.map _ = none
          rw [hpolicy]
          rfl
        | sweepGate => exact hpolicy
      cases hnone.symm.trans hpolicy'

theorem Sound.use (h : d.Sound) (clock : Clock) (u : Use) : (use clock d u).Sound := by
  cases u with
  | act action => exact h.act clock action
  | count knock source =>
    have hlet := h.act clock (.letIn knock source)
    obtain ⟨hgate, htokens⟩ := onKnock_parts d clock knock source
    exact ⟨hgate ▸ hlet.ttl_pos, hgate ▸ hlet.gate_within,
      fun policy hpolicy => hlet.used_within policy (htokens ▸ hpolicy)⟩
  | ask source =>
    exact ⟨h.ttl_pos, (h.gate_within.lookup clock.instant source).own, h.used_within⟩

/-- What a doorkeeper can be at a reading of its clock: it began with nobody admitted, and where
it asks for tokens, with none used, and anything may have happened since. -/
def AtWork (d : Doorkeeper) (clock : Clock) : Prop :=
  ∃ ttl gateCapacity service verifier start events, 0 < ttl ∧
    Timed.after use ⟨start, new (.new ttl gateCapacity) service
      ((verifier : Option (TokenIssuer × Nat)).map fun v => .new v.1 v.2)⟩ events = ⟨clock, d⟩

theorem atWork_new {ttl : Nat} (httl : 0 < ttl) (gateCapacity : Nat) (service : String)
    (verifier : Option (TokenIssuer × Nat)) (clock : Clock) :
    (new (.new ttl gateCapacity) service (verifier.map fun v => .new v.1 v.2)).AtWork clock :=
  ⟨ttl, gateCapacity, service, verifier, clock, [], httl, rfl⟩

/-- A doorkeeper goes on working when it has considered a knock. -/
theorem AtWork.consider (h : d.AtWork clock) (knock : ValidatedKnock) (source : IpAddress) :
    (d.consider clock knock source).1.AtWork clock := by
  obtain ⟨ttl, gateCapacity, service, verifier, start, events, httl, hafter⟩ := h
  refine ⟨ttl, gateCapacity, service, verifier, start,
    events ++ [.act (.act (.letIn knock source))], httl, ?_⟩
  rw [Timed.after, List.foldl_concat]
  show Timed.next use (Timed.after use _ events) _ = _
  rw [hafter]
  rfl

theorem AtWork.sound (h : d.AtWork clock) : d.Sound := by
  obtain ⟨ttl, gateCapacity, service, verifier, start, events, httl, hafter⟩ := h
  let began := new (.new ttl gateCapacity) service (verifier.map fun v => .new v.1 v.2)
  have hsound : (Timed.after Doorkeeper.use ⟨start, began⟩ events).state.Sound := by
    refine invariant_after (fun t => t.state.Sound) (fun t e ht => ?_) events ⟨start, began⟩
      (sound_new httl gateCapacity service verifier)
    cases e with
    | act u => exact ht.use t.clock u
    | advance ms => exact ht
  rwa [hafter] at hsound

/-! ### One knock -/

/-- If the token of a knock is refused, or missing, the list of used tokens is as it was. -/
theorem Sound.entries_checkToken {reason : AdmitError} (h : d.Sound)
    (hrefused : (d.checkToken clock knock).2 = .error reason) :
    (d.checkToken clock knock).1.map (·.used.entries) = d.tokens.map (·.used.entries) := by
  cases hpolicy : d.tokens with
  | none => rw [checkToken_of_none hpolicy]
  | some policy =>
    cases htoken : knock.token with
    | none => rw [checkToken_of_missing hpolicy htoken]
    | some token =>
      rw [checkToken_of_token hpolicy htoken] at hrefused ⊢
      exact congrArg some
        (TokenPolicy.entries_check_of_error (h.used_within policy hpolicy) hrefused)

/-- Whatever a knock is refused for, the list of used tokens is as it was, unless it was the gate
that broke down. -/
theorem Sound.entries_of_error {reason : AdmitError} (h : d.Sound)
    (hrefused : (d.consider clock knock source).2 = .error reason) :
    (d.consider clock knock source).1.tokens.map (·.used.entries) =
        d.tokens.map (·.used.entries) ∨
      reason = .outOfRange ∧ ¬ d.gate.InRange clock := by
  by_cases hpermits : knock.device.permits d.service
  · rw [consider_of_permits hpermits] at hrefused ⊢
    cases hverdict : (d.checkToken clock knock).2 with
    | error found => exact .inl (h.entries_checkToken hverdict)
    | ok u =>
      rw [hverdict] at hrefused
      dsimp only at hrefused
      split at hrefused
      · cases hrefused
      · rename_i hrange
        cases hrefused
        exact .inr ⟨rfl, hrange⟩
  · rw [consider_of_not_permits hpermits]
    exact .inl rfl

/-- Where tokens are asked for, an admitted knock uses its token up. -/
theorem Sound.spends_of_ok {policy : TokenPolicy} (h : d.Sound)
    (hok : (d.consider clock knock source).2 = .ok ()) (hpolicy : d.tokens = some policy) :
    ∃ token claims policy', knock.token = some token ∧
      policy.examine token knock.device.id d.service clock.unixSeconds = .ok claims ∧
      (d.consider clock knock source).1.tokens = some policy' ∧
      policy.Spends policy' clock claims := by
  obtain ⟨token, htoken, hcheck⟩ := (consider_ok_iff.mp hok).2.2 policy hpolicy
  obtain ⟨claims, hexamine, hspends⟩ :=
    TokenPolicy.spends_of_check (h.used_within policy hpolicy) hcheck
  refine ⟨token, claims, _, htoken, hexamine, ?_, hspends⟩
  rw [consider_fst_of_ok hok, checkToken_of_token hpolicy htoken]

/-- Where the gate breaks down, a token that passes is used up nevertheless, and the gate stays as
it was. -/
theorem Sound.spends_of_not_inRange {policy : TokenPolicy} {token : String} (h : d.Sound)
    (hpolicy : d.tokens = some policy) (htoken : knock.token = some token)
    (hpermits : knock.device.permits d.service)
    (hpassed : (policy.check clock token knock.device.id d.service).2 = .ok ())
    (hrange : ¬ d.gate.InRange clock) (source : IpAddress) :
    (d.consider clock knock source).2 = .error .outOfRange ∧
    (d.consider clock knock source).1.gate = d.gate ∧
    ∃ claims policy',
      policy.examine token knock.device.id d.service clock.unixSeconds = .ok claims ∧
      (d.consider clock knock source).1.tokens = some policy' ∧
      policy.Spends policy' clock claims := by
  obtain ⟨claims, hexamine, hspends⟩ :=
    TokenPolicy.spends_of_check (h.used_within policy hpolicy) hpassed
  have hconsider : d.consider clock knock source =
      ({ d with tokens := some (policy.check clock token knock.device.id d.service).1 },
        .error .outOfRange) := by
    rw [consider_of_permits hpermits, checkToken_of_token hpolicy htoken, hpassed]
    exact if_neg hrange
  rw [hconsider]
  exact ⟨rfl, rfl, claims, _, hexamine, rfl, hspends⟩

/-- Admission is all or nothing. Take any state that a doorkeeper can be in, whether it asks for
tokens or not, and any knock from any address.

If the knock is refused, the gate and every used token stay as they were, unless the gate broke
down. If it is admitted, the address is let in at once, with the device of the knock and the present
time, and where tokens are asked for, the token of the knock is used up. And whenever a token is
used up that was not before, the address is let in as long as the machine has a number for the end
of its admission. Otherwise the gate breaks down behind the token, and nobody is let in. -/
theorem AtWork.all_or_nothing (h : d.AtWork clock) (knock : ValidatedKnock) (source : IpAddress) :
    (∀ reason, (d.consider clock knock source).2 = .error reason →
      (d.consider clock knock source).1.gate = d.gate ∧
      ((d.consider clock knock source).1.tokens.map (·.used.entries) =
          d.tokens.map (·.used.entries) ∨
        reason = .outOfRange ∧ ¬ d.gate.InRange clock)) ∧
    ((d.consider clock knock source).2 = .ok () →
      d.gate.Opens (d.consider clock knock source).1.gate clock source
        ⟨knock.device, clock.unixSeconds⟩ ∧
      ∀ policy, d.tokens = some policy → ∃ token claims policy', knock.token = some token ∧
        policy.examine token knock.device.id d.service clock.unixSeconds = .ok claims ∧
        (d.consider clock knock source).1.tokens = some policy' ∧
        policy.Spends policy' clock claims) ∧
    ∀ policy policy' id, d.tokens = some policy →
      (d.consider clock knock source).1.tokens = some policy' →
      id ∈ policy'.onRecord clock → id ∉ policy.onRecord clock →
      if d.gate.InRange clock then
        ((d.consider clock knock source).1.gate.take clock source).2 =
          some ⟨knock.device, clock.unixSeconds⟩
      else (d.consider clock knock source).2 = .error .outOfRange := by
  have hsound := h.sound
  have hopens : (d.consider clock knock source).2 = .ok () →
      d.gate.Opens (d.consider clock knock source).1.gate clock source
        ⟨knock.device, clock.unixSeconds⟩ := by
    intro hok
    rw [consider_fst_of_ok hok]
    exact AdmissionGate.opens_withAdmission hsound.gate_within hsound.ttl_pos clock source
      knock.device
  refine ⟨fun reason hrefused => ?_, fun hok => ?_, ?_⟩
  · exact ⟨gate_consider_of_error hrefused, hsound.entries_of_error hrefused⟩
  · exact ⟨hopens hok, fun policy hpolicy => hsound.spends_of_ok hok hpolicy⟩
  · intro policy policy' id hpolicy hpolicy' hafter hbefore
    cases hverdict : (d.consider clock knock source).2 with
    | ok u =>
      rw [if_pos (consider_ok_iff.mp hverdict).2.1]
      exact (hopens hverdict).found
    | error reason =>
      rcases hsound.entries_of_error hverdict with hentries | ⟨rfl, hrange⟩
      -- A refusal leaves the list as it was, so that no token is used up by it.
      · rw [hpolicy, hpolicy', Option.map_some, Option.map_some, Option.some.injEq] at hentries
        rw [TokenPolicy.onRecord, Store.live_congr hentries] at hafter
        exact absurd hafter hbefore
      · rw [if_neg hrange]

/-- A gate that has room for one address and holds one. A token that was used before is refused
and changes nothing. With a new one, the address is let in, in place of the other. -/
theorem AtWork.all_or_nothing_of_full_gate :
    let device : Device :=
      ⟨⟨"tablet", by decide, by decide⟩, ⟨List.replicate 16 7, by decide⟩, .commonName "tablet",
        ["ssh"]⟩
    let verifier : TokenIssuer := ⟨List.replicate 32 9, by decide, "controller", 60⟩
    let id (octet : UInt8) : Uuid := ⟨List.replicate 16 octet, rfl⟩
    let knock (octet : UInt8) : ValidatedKnock :=
      ⟨device, ⟨List.replicate 16 octet, rfl⟩, 0, some (verifier.tokenFor device 0 (id octet))⟩
    let home : IpAddress := .v4 ⟨[192, 0, 2, 1], rfl⟩
    let away : IpAddress := .v4 ⟨[192, 0, 2, 2], rfl⟩
    let now : Clock := .startingAt 0
    let d := ((new (.new 30000 1) "ssh" ((some (verifier, 2)).map fun v => .new v.1 v.2)).consider
      now (knock 0) home).1
    d.AtWork now ∧
    ((d.consider now (knock 0) away).2 = .error (.tokenReused (id 0)) ∧
      (d.consider now (knock 0) away).1.gate = d.gate ∧
      (d.consider now (knock 0) away).1.tokens.map (·.used.entries) =
        d.tokens.map (·.used.entries)) ∧
    (d.consider now (knock 1) away).2 = .ok () ∧
      d.gate.Opens (d.consider now (knock 1) away).1.gate now away ⟨device, now.unixSeconds⟩ ∧
      ∀ policy, d.tokens = some policy → ∃ token claims policy', (knock 1).token = some token ∧
        policy.examine token device.id d.service now.unixSeconds = .ok claims ∧
        (d.consider now (knock 1) away).1.tokens = some policy' ∧
        policy.Spends policy' now claims := by
  intro device verifier id knock home away now d
  have hwork : d.AtWork now :=
    (atWork_new (by decide) 1 "ssh" (some (verifier, 2)) now).consider (knock 0) home
  -- That an issued token says what it must is known without computing its signature.
  have hexamine (p : TokenPolicy) (octet : UInt8) (hp : p.verifier = verifier) :
      p.examine (verifier.tokenFor device 0 (id octet)) device.id "ssh" now.unixSeconds =
        .ok (verifier.claimsFor device 0 (id octet)) := by
    have hexpiry : 0 ≤ (verifier.claimsFor device 0 (id octet)).expiresAt :=
      show (0 : Int64) ≤ 60 by decide
    have hscope : ["ssh"].contains "ssh" := by decide
    refine TokenPolicy.examine_ok_iff.mpr ⟨?_, rfl, hscope⟩
    rw [hp]
    exact (TokenIssuer.verify_tokenFor_of_window rfl rfl hexpiry (by decide) (by decide)
      (by decide)).trans (if_pos (by decide))
  have hpermits : device.permits "ssh" := by decide
  let policy : TokenPolicy := .new verifier 2
  let used := (policy.used.insertIfAbsent now.instant (id 0) ()
    (TokenPolicy.retention (verifier.claimsFor device 0 (id 0)) now.unixSeconds)).1
  let began : Doorkeeper := new (.new 30000 1) "ssh" (some policy)
  have hfirst : (began.consider now (knock 0) home).2 = .ok () := by
    refine (consider_snd_of_token (d := began) rfl rfl hpermits (by decide)).trans ?_
    exact (TokenPolicy.check_of_examine (hexamine policy 0 rfl)).2.mpr (by decide +kernel)
  let later : Doorkeeper := { began with
    tokens := some { policy with used }
    gate := began.gate.withAdmission now home device }
  have hd : d = later := by
    refine (consider_fst_of_ok hfirst).trans ?_
    rw [checkToken_of_token rfl rfl]
    exact congrArg (fun p => { began with
      tokens := some p
      gate := began.gate.withAdmission now home device })
      (TokenPolicy.check_of_examine (hexamine policy 0 rfl)).1
  have hrange : later.gate.InRange now := by decide
  have hreused : (d.consider now (knock 0) away).2 = .error (.tokenReused (id 0)) := by
    rw [hd]
    refine (consider_snd_of_token (d := later) rfl rfl hpermits hrange).trans ?_
    show (({ policy with used } : TokenPolicy).check now _ device.id "ssh").2 = _
    rw [TokenPolicy.check, hexamine _ 0 rfl]
    decide +kernel
  have hok : (d.consider now (knock 1) away).2 = .ok () := by
    rw [hd]
    refine (consider_snd_of_token (d := later) rfl rfl hpermits hrange).trans ?_
    exact (TokenPolicy.check_of_examine (hexamine { policy with used } 1 rfl)).2.mpr
      (by decide +kernel)
  obtain ⟨hgate, hentries⟩ := (hwork.all_or_nothing (knock 0) away).1 _ hreused
  have hkept := hentries.resolve_right fun h => by cases h.1
  refine ⟨hwork, ⟨hreused, hgate, hkept⟩, hok, ?_⟩
  exact (hwork.all_or_nothing (knock 1) away).2.1 hok

/-- Admissions last for as long as a configuration can say, and the machine has been up for a
second. A good token is used up, and nobody is let in. -/
theorem AtWork.spent_for_nothing_of_longest_ttl :
    let device : Device :=
      ⟨⟨"tablet", by decide, by decide⟩, ⟨List.replicate 16 7, by decide⟩, .commonName "tablet",
        ["ssh"]⟩
    let verifier : TokenIssuer := ⟨List.replicate 32 9, by decide, "controller", 60⟩
    let id : Uuid := ⟨List.replicate 16 0, rfl⟩
    let knock : ValidatedKnock :=
      ⟨device, ⟨List.replicate 16 0, rfl⟩, 0, some (verifier.tokenFor device 0 id)⟩
    let source : IpAddress := .v4 ⟨[192, 0, 2, 1], rfl⟩
    let now : Clock := ⟨0, 1000, 0⟩
    let d := new (.new (9223372036854775807 * 1000) 10) "ssh"
      ((some (verifier, 10)).map fun v => .new v.1 v.2)
    d.AtWork now ∧
    (d.consider now knock source).2 = .error .outOfRange ∧
    (∀ policy, d.tokens = some policy → id ∉ policy.onRecord now) ∧
    (∃ policy, (d.consider now knock source).1.tokens = some policy ∧
      id ∈ policy.onRecord now) ∧
    ((d.consider now knock source).1.gate.take now source).2 = none := by
  intro device verifier id knock source now d
  have hexamine : (TokenPolicy.new verifier 10).examine (verifier.tokenFor device 0 id) device.id
      "ssh" now.unixSeconds = .ok (verifier.claimsFor device 0 id) := by
    have hexpiry : 0 ≤ (verifier.claimsFor device 0 id).expiresAt := show (0 : Int64) ≤ 60 by decide
    have hscope : ["ssh"].contains "ssh" := by decide
    exact TokenPolicy.examine_ok_iff.mpr ⟨(TokenIssuer.verify_tokenFor_of_window rfl rfl hexpiry
      (by decide) (by decide) (by decide)).trans (if_pos (by decide)), rfl, hscope⟩
  have hpassed : ((TokenPolicy.new verifier 10).check now (verifier.tokenFor device 0 id)
      knock.device.id d.service).2 = .ok () :=
    (TokenPolicy.check_of_examine hexamine).2.mpr (by decide +kernel)
  have hpolicy : d.tokens = some (.new verifier 10) := rfl
  have htoken : knock.token = some (verifier.tokenFor device 0 id) := rfl
  have hpermits : knock.device.permits d.service := by decide
  have hrange : ¬ d.gate.InRange now := by decide
  have hwork : d.AtWork now := atWork_new (by decide) 10 "ssh" (some (verifier, 10)) now
  obtain ⟨hbroke, hgate, claims, policy, hclaims, htokens, hspends⟩ :=
    hwork.sound.spends_of_not_inRange hpolicy htoken hpermits hpassed hrange source
  obtain rfl : verifier.claimsFor device 0 id = claims :=
    Except.ok.inj (hexamine.symm.trans hclaims)
  refine ⟨hwork, hbroke, ?_, ⟨policy, htokens, hspends.mem_onRecord⟩, ?_⟩
  · rintro _ ⟨⟩
    exact hspends.new
  · rw [hgate]
    rfl

end Doorkeeper

end Perimeter
