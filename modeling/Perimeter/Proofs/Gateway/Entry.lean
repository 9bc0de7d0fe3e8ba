import Perimeter.Proofs.Gateway.TokenOnce
import Perimeter.Proofs.Token.Issued

/-!
# `Perimeter.Proofs.Gateway.Entry`: a knock that is let in

What a doorkeeper asks of a knock is enough to be let in: a token that says what it must passes
if its number is new and there is room for it (`TokenPolicy.check_ok_of_new`), an issued token
says that in its window (`TokenPolicy.check_snd_of_issued`), and the address that is let in finds
its admission until that expires (`AdmissionGate.take_withAdmission`). The machine must have numbers
for the ends of the two records. None of this depends on what the gate and the list of used tokens
hold besides, as long as they are what a doorkeeper at work makes of them (`Doorkeeper.Reached`).
-/

set_option autoImplicit false

namespace Perimeter

namespace TokenPolicy

/-- The numbers of the tokens that cannot be presented again yet. -/
def onRecord (p : TokenPolicy) (clock : Clock) : Finset Uuid :=
  (p.used.live clock.instant).keys

variable {p : TokenPolicy} {clock : Clock} {service : String} {capacity : Nat}

/-- A policy begins without used tokens. -/
theorem onRecord_new (verifier : TokenIssuer) (capacity : Nat) (clock : Clock) :
    (new verifier capacity).onRecord clock = ∅ :=
  congrArg Finmap.keys (Store.live_empty _ _ _ _)

/-- A token that says what it must passes if its number is new, there is room for it, and the
machine has a number for the end of its record. -/
theorem check_ok_of_new {token : String} {device : DeviceId} {claims : Token.Claims}
    {verifier : TokenIssuer} (h : p.Strict verifier capacity)
    (hexamine : p.examine token device service clock.unixSeconds = .ok claims)
    (hrange : clock.instant + retention claims clock.unixSeconds < Clock.limit)
    (hnew : claims.id ∉ p.onRecord clock) (hroom : (p.onRecord clock).card < capacity) :
    (p.check clock token device service).2 = .ok () := by
  refine check_ok_iff.mpr ⟨claims, hexamine, ?_⟩
  rw [onRecord, Finmap.mem_keys] at hnew
  rw [Store.insertIfAbsent_snd h.within (retention_pos claims clock.unixSeconds),
    if_neg (Nat.not_le.mpr hrange), if_neg hnew]
  exact if_pos hroom

/-- A token that was issued with the verifier's secret and name passes in its window, if its
number is new, there is room for it, and the machine has a number for the end of its record. In the
last minute of the machine's time the check breaks down. -/
theorem check_snd_of_issued {signer : TokenIssuer} {device : Device} {issuedAt : Int64} {id : Uuid}
    (h : p.Strict p.verifier capacity) (hsecret : signer.secret = p.verifier.secret)
    (hissuer : signer.issuer = p.verifier.issuer) (httl : signer.ttl ≤ TokenIssuer.maxTtl)
    (hexpiry : 0 ≤ (signer.claimsFor device issuedAt id).expiresAt)
    (hearly : issuedAt.toInt - 60 ≤ clock.unixSeconds.toInt)
    (hlate : clock.unixSeconds.toInt ≤ issuedAt.toInt + signer.ttl)
    (hservice : service ∈ device.services)
    (hrange : clock.instant +
      retention (signer.claimsFor device issuedAt id) clock.unixSeconds < Clock.limit)
    (hnew : id ∉ p.onRecord clock) (hroom : (p.onRecord clock).card < capacity) :
    (p.check clock (signer.tokenFor device issuedAt id) device.id service).2 =
      if clock.unixSeconds.toInt + 60 < 2 ^ 63 then .ok () else .error (.token .outOfRange) := by
  have hverify := TokenIssuer.verify_tokenFor_of_window hsecret hissuer hexpiry httl hearly hlate
  by_cases hfits : clock.unixSeconds.toInt + 60 < 2 ^ 63
  · rw [if_pos hfits] at hverify ⊢
    have hscope : (signer.claimsFor device issuedAt id).allows service :=
      List.contains_iff_mem.mpr hservice
    exact check_ok_of_new h (examine_ok_iff.mpr ⟨hverify, rfl, hscope⟩) hrange hnew hroom
  · rw [if_neg hfits] at hverify ⊢
    rw [check_of_examine_error (examine_of_verify_error hverify)]

end TokenPolicy

namespace AdmissionGate

variable {g : AdmissionGate} {clock later : Clock} {capacity : Nat}

/-- An address that was let in finds its admission until that expires, however full the gate. -/
theorem take_withAdmission (h : g.entries.Within capacity .evictEarliest) (ip : IpAddress)
    (device : Device) (hle : clock.instant ≤ later.instant)
    (hlt : later.instant < clock.instant + g.ttl) :
    ((g.withAdmission clock ip device).take later ip).2 = some ⟨device, clock.unixSeconds⟩ := by
  have hlookup : ((g.withAdmission clock ip device).entries.live clock.instant).lookup ip =
      some ⟨⟨device, clock.unixSeconds⟩, clock.instant + g.ttl⟩ :=
    (Store.written_write h (Store.isLive_of_lasts (by omega))).lookup_self_of_evictEarliest
  rw [take_snd, Store.get?_eq_live, Store.live_later _ hle, LiveMap.lookup_liveAt, hlookup,
    Option.filter_some, if_pos]
  · rfl
  · simpa [Expiring.isLive] using hlt

end AdmissionGate

namespace Doorkeeper

variable {d : Doorkeeper} {clock : Clock} {verifier : TokenIssuer} {capacity : Nat}

/-- Where the service is allowed and the machine has a number for the end of an admission, the
policy on tokens decides. -/
theorem consider_snd_of_token {policy : TokenPolicy} {token : String} {k : ValidatedKnock}
    {source : IpAddress} (hpolicy : d.tokens = some policy) (htoken : k.token = some token)
    (hpermits : k.device.permits d.service) (hrange : d.gate.InRange clock) :
    (d.consider clock k source).2 = (policy.check clock token k.device.id d.service).2 := by
  rw [consider_of_permits hpermits, checkToken_of_token hpolicy htoken]
  dsimp only
  split
  · exact Eq.symm ‹_›
  · rw [if_pos hrange]
    exact Eq.symm ‹_›

/-- Whatever happens to a doorkeeper, its gate stays within its capacity. -/
theorem within_act (h : d.gate.entries.Within capacity .evictEarliest) (clock : Clock)
    (action : Action) : (act clock d action).gate.entries.Within capacity .evictEarliest := by
  cases action with
  | letIn knock source =>
    show (d.consider clock knock source).1.gate.entries.Within capacity .evictEarliest
    cases hverdict : (d.consider clock knock source).2 with
    | ok u =>
      rw [consider_fst_of_ok hverdict]
      exact h.write _ _ _
    | error reason => rwa [gate_consider_of_error hverdict]
  | take source => exact h.erase source
  | sweepTokens => exact h
  | sweepGate => exact h.sweep clock.instant

/-- What a doorkeeper that asks for tokens can be at a reading of its clock: it began with
nobody admitted and no token used, and anything may have happened since. -/
def Reached (d : Doorkeeper) (clock : Clock) : Prop :=
  ∃ ttl gateCapacity service verifier capacity start events,
    Timed.after act ⟨start, new (.new ttl gateCapacity) service
      (some (TokenPolicy.new verifier capacity))⟩ events = ⟨clock, d⟩

/-- A doorkeeper at work has a gate that evicts and a strict policy on tokens. -/
theorem Reached.spec (h : d.Reached clock) :
    d.gate.entries.Within d.gate.entries.capacity .evictEarliest ∧
      ∃ policy, d.tokens = some policy ∧ policy.Strict policy.verifier policy.used.capacity := by
  obtain ⟨ttl, gateCapacity, service, verifier, capacity, start, events, hafter⟩ := h
  let began := new (.new ttl gateCapacity) service (some (TokenPolicy.new verifier capacity))
  have hbegan : began.gate.entries.Within (max 1 gateCapacity) .evictEarliest ∧
      began.Watches verifier (max 1 capacity) :=
    ⟨Store.within_empty _ _ _, _, rfl, rfl, Store.within_empty _ _ _⟩
  have hafterwards : let after := (Timed.after act ⟨start, began⟩ events).state
      after.gate.entries.Within (max 1 gateCapacity) .evictEarliest ∧
        after.Watches verifier (max 1 capacity) := by
    refine invariant_after (fun t => t.state.gate.entries.Within (max 1 gateCapacity)
      .evictEarliest ∧ t.state.Watches verifier (max 1 capacity)) (fun t e ht => ?_) events
      ⟨start, began⟩ hbegan
    cases e with
    | act action => exact ⟨within_act ht.1 t.clock action, ht.2.act t.clock action⟩
    | advance ms => exact ht
  rw [hafter] at hafterwards
  obtain ⟨hgate, policy, hpolicy, hstrict⟩ := hafterwards
  exact ⟨hgate.capacity_eq ▸ hgate, policy, hpolicy, rfl,
    hstrict.within.capacity_eq ▸ hstrict.within⟩

end Doorkeeper

end Perimeter
