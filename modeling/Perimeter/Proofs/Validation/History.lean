import Perimeter.Proofs.Validation.AcceptedOnce
import Perimeter.Proofs.Validation.Judgement

/-!
# `Perimeter.Proofs.Validation.History`: a verdict is a matter of the past

A record against reuse stands for a knock that was accepted. `Mirrors` says so of all records,
both ways: every knock accepted has been recorded, and every record is of a knock accepted. It
holds of a validator without records, and every event of a run keeps it (`Mirrors.next`).

The records that are live are then the knocks accepted not long ago (`Mirrors.keys_eq`), and
the verdict on a datagram can be told from the registry, the clock and these
(`verdict_of_history`). There is none where the machine has no number for the end of a record
(`no_verdict_of_great_skew`).
-/

set_option autoImplicit false

namespace Perimeter.Validator

variable {v : Validator} {clock : Clock} {skew retention capacity : Nat}
  {past : List (Timed Validator × Event Action)} {t : Timed Validator}
  {p : Timed Validator × Event Action} {k : ValidatedKnock}

/-- What an event of a run accepts. -/
def accepted? (p : Timed Validator × Event Action) : Option ValidatedKnock :=
  match p.2 with
  | .act (.validate datagram) => (p.1.state.validate p.1.clock datagram).2.toOption
  | _ => none

theorem accepted?_eq_some_iff : accepted? p = some k ↔ ∃ datagram, Accepts p datagram k := by
  obtain ⟨t, e⟩ := p
  unfold accepted?
  split
  · rename_i datagram he
    cases he
    rw [Checks.toOption_eq_some]
    constructor
    · intro h
      exact ⟨datagram, rfl, h⟩
    · rintro ⟨_, heq, hok⟩
      cases heq
      exact hok
  · rename_i hother
    simp only [reduceCtorEq, false_iff, not_exists]
    rintro datagram ⟨he, -⟩
    exact hother datagram he

/-- The device and the nonce of every knock accepted less than so many nanoseconds before an
instant. -/
def recentKeys (past : List (Timed Validator × Event Action)) (now window : Nat) :
    Finset (DeviceId × Nonce) :=
  ((past.filter fun p => (now - p.1.clock.instant) * millisecondNs < window).filterMap
    accepted?).map (fun k => (k.device.id, k.nonce)) |>.toFinset

theorem mem_recentKeys {now window : Nat} {key : DeviceId × Nonce} :
    key ∈ recentKeys past now window ↔ ∃ p ∈ past, ∃ datagram k, Accepts p datagram k ∧
      (k.device.id, k.nonce) = key ∧ (now - p.1.clock.instant) * millisecondNs < window := by
  simp only [recentKeys, List.mem_toFinset, List.mem_map, List.mem_filterMap, List.mem_filter,
    accepted?_eq_some_iff, decide_eq_true_eq]
  constructor
  · rintro ⟨k, ⟨p, ⟨hp, hrecent⟩, datagram, haccepts⟩, hkey⟩
    exact ⟨p, hp, datagram, k, haccepts, hkey, hrecent⟩
  · rintro ⟨p, hp, datagram, k, haccepts, hkey, hrecent⟩
    exact ⟨k, ⟨p, ⟨hp, hrecent⟩, datagram, haccepts⟩, hkey⟩

/-- The records are those of the knocks that were accepted. -/
structure Mirrors (skew retention capacity : Nat) (past : List (Timed Validator × Event Action))
    (t : Timed Validator) : Prop where
  guarded : t.state.Guarded skew retention capacity
  /-- What has happened is not later than the present. -/
  instant_le : ∀ p ∈ past, p.1.clock.instant ≤ t.clock.instant
  /-- Every knock accepted has been recorded. -/
  recorded : ∀ p ∈ past, Recorded retention p t
  /-- Every record is of a knock accepted. -/
  accepted : ∀ key e, (t.state.replay.records.live t.clock.instant).lookup key = some e →
    ∃ p ∈ past, ∃ datagram k, Accepts p datagram k ∧ (k.device.id, k.nonce) = key ∧
      e.expiresAt = p.1.clock.instant + retention

/-- What is live after an action was live before, or is the record of a knock that the action
accepts. -/
theorem Guarded.lookup_act (h : v.Guarded skew retention capacity) (action : Action)
    {key : DeviceId × Nonce} {e : Expiring Unit}
    (he : ((Validator.act clock v action).replay.records.live clock.instant).lookup key = some e) :
    (v.replay.records.live clock.instant).lookup key = some e ∨
      ∃ datagram k, Accepts (⟨clock, v⟩, .act action) datagram k ∧
        (k.device.id, k.nonce) = key ∧ e.expiresAt = clock.instant + retention := by
  cases action with
  | validate datagram =>
    simp only [Validator.act] at he
    cases hexamine : v.examine clock.unixSeconds datagram with
    | error reason =>
      rw [validate_fst_of_error hexamine] at he
      exact .inl he
    | ok examined =>
      obtain ⟨device, knock⟩ := examined
      rw [validate_fst_of_ok hexamine, ReplayGuard.records_record] at he
      have hretention : 0 < v.replay.retention := h.retention_eq ▸ h.retention_pos
      -- A record is made only of a knock that is accepted.
      rcases Store.lookup_insertIfAbsent h.within hretention he with hbefore | ⟨hstored, rfl, rfl⟩
      · exact .inl hbefore
      · obtain ⟨_, _, rfl, hlookup, -, -⟩ := examine_ok_iff.mp hexamine
        have hok := validate_ok_iff_examine.mpr ⟨device, _, hexamine, hstored, rfl⟩
        refine .inr ⟨datagram, _, ⟨rfl, hok⟩, ?_, ?_⟩
        · rw [Registry.id_of_lookup hlookup]
        · rw [← h.retention_eq]
  -- A question and a sweep are not seen, and the registry is another part of the validator.
  | check id nonce =>
    refine .inl ?_
    rwa [← Store.live_lookup v.replay.records clock.instant (id, nonce)]
  | sweep =>
    refine .inl ?_
    rwa [← Store.live_sweep v.replay.records clock.instant]
  | upsert device | remove id | replaceAll devices => exact .inl he

/-- Every event keeps the records those of the knocks that were accepted. -/
theorem Mirrors.next (h : Mirrors skew retention capacity past t) {e : Event Action}
    (hfits : t.clock.Fits e.duration) :
    Mirrors skew retention capacity (past ++ [(t, e)]) (t.next Validator.act e) := by
  have hlater : t.clock.instant ≤ (t.next Validator.act e).clock.instant := instant_le_next hfits
  refine ⟨?_, ?_, ?_, ?_⟩
  · cases e with
    | act action => exact h.guarded.act t.clock action
    | advance ms => exact h.guarded
  · intro p hp
    rcases List.mem_append.mp hp with hp | hp
    · exact (h.instant_le p hp).trans hlater
    · obtain rfl := List.mem_singleton.mp hp
      exact hlater
  · -- Records outlast the event, and what the event accepts is recorded by it.
    intro p hp
    rcases List.mem_append.mp hp with hp | hp
    · exact (h.recorded p hp).next h.guarded hfits
    · obtain rfl := List.mem_singleton.mp hp
      rintro datagram k ⟨rfl, hok⟩
      exact h.guarded.remembers_of_accepted hok
  · intro key entry hentry
    cases e with
    | act action =>
      rcases h.guarded.lookup_act action hentry with hbefore | ⟨datagram, k, haccepts, hrest⟩
      · obtain ⟨p, hp, hrest⟩ := h.accepted key entry hbefore
        exact ⟨p, List.mem_append_left _ hp, hrest⟩
      · exact ⟨_, List.mem_append_right _ List.mem_cons_self, datagram, k, haccepts, hrest⟩
    | advance ms =>
      -- What is live later was live before.
      have hbefore : (t.state.replay.records.live t.clock.instant).lookup key = some entry := by
        change t.clock.instant ≤ (t.clock.advance ms).instant at hlater
        change (t.state.replay.records.live (t.clock.advance ms).instant).lookup key = _ at hentry
        rw [Store.live_later _ hlater, LiveMap.lookup_liveAt, Option.filter_eq_some_iff] at hentry
        exact hentry.1
      obtain ⟨p, hp, hrest⟩ := h.accepted key entry hbefore
      exact ⟨p, List.mem_append_left _ hp, hrest⟩

/-- A validator that has accepted nothing yet has no records. -/
theorem mirrors_ofNanoseconds (registry : Registry) (skew capacity : Nat) (clock : Clock) :
    Mirrors (skew / millisecondNs) (ReplayGuard.ofNanoseconds skew capacity).retention
      (max 1 capacity) [] ⟨clock, ofNanoseconds registry skew capacity⟩ where
  guarded := guarded_ofNanoseconds registry skew capacity
  instant_le := nofun
  recorded := nofun
  accepted key e he := by
    change ((Store.empty _ _ _ : Store (DeviceId × Nonce) Unit).live _).lookup key = some e at he
    rw [Store.live_empty, Finmap.lookup_empty] at he
    cases he

/-- A record is there for as long as the window in nanoseconds lasts. -/
theorem lt_retention_iff {then_ now : Nat} (skew capacity : Nat) (h : then_ ≤ now) :
    now < then_ + (ReplayGuard.ofNanoseconds skew capacity).retention ↔
      (now - then_) * millisecondNs < 2 * skew + 5 * 10 ^ 9 := by
  simp only [ReplayGuard.ofNanoseconds, ReplayGuard.margin, secondMs, millisecondNs]
  omega

/-- The pairs on record are those of the knocks accepted not long ago. -/
theorem Mirrors.keys_eq {skew nanoseconds capacity room : Nat}
    (h : Mirrors skew (ReplayGuard.ofNanoseconds nanoseconds room).retention capacity past t) :
    (t.state.replay.records.live t.clock.instant).keys =
      recentKeys past t.clock.instant (2 * nanoseconds + 5 * 10 ^ 9) := by
  ext key
  rw [Finmap.mem_keys, mem_recentKeys]
  constructor
  · intro hlive
    obtain ⟨e, he⟩ := Finmap.mem_iff.mp hlive
    obtain ⟨p, hp, datagram, k, haccepts, hkey, hexpiry⟩ := h.accepted key e he
    have hlt := Store.lt_expiresAt_of_lookup_live he
    rw [hexpiry, lt_retention_iff nanoseconds room (h.instant_le p hp)] at hlt
    exact ⟨p, hp, datagram, k, haccepts, hkey, hlt⟩
  · rintro ⟨p, hp, datagram, k, haccepts, rfl, hrecent⟩
    rw [← lt_retention_iff nanoseconds room (h.instant_le p hp)] at hrecent
    obtain ⟨e, he, -⟩ := h.recorded p hp datagram k haccepts hrecent
    exact Finmap.mem_of_lookup_eq_some he

/-- The evidence before a validator at a moment of a run. -/
def evidence (skew capacity : Nat) (past : List (Timed Validator × Event Action))
    (t : Timed Validator) : Evidence where
  registry := t.state.registry
  now := t.clock.unixSeconds
  tolerance := skew / 10 ^ 9
  deadline := t.clock.instant + (ReplayGuard.ofNanoseconds skew capacity).retention
  recent := recentKeys past t.clock.instant (2 * skew + 5 * 10 ^ 9)
  capacity := max 1 capacity

/-- A validator whose records are those of the knocks accepted judges by the evidence. -/
theorem Mirrors.validate_eq_judge {nanoseconds room : Nat}
    (h : Mirrors (nanoseconds / millisecondNs)
      (ReplayGuard.ofNanoseconds nanoseconds room).retention (max 1 room) past t)
    (datagram : Bytes) :
    (t.state.validate t.clock datagram).2 = (evidence nanoseconds room past t).judge datagram := by
  refine Validator.validate_eq_judge rfl rfl (fun timestamp => ?_) (fun id nonce => ?_) datagram
  · rw [isFresh, h.guarded.skew_eq, decide_eq_true_eq, millisecondNs, secondMs,
      Nat.div_div_eq_div_mul]
    rfl
  · rw [h.guarded.recording.record_snd, h.guarded.retention_eq, h.keys_eq]
    rfl

/-- The verdict on a datagram is determined by the registry, the clock and the past. After any
run of a validator that has accepted nothing before, a datagram is accepted if and only if a
registered device's secret makes it of a knock, the knock is fresh, it can be remembered for as
long as it has to be, no knock with its device and nonce was accepted not long ago, and not too
many knocks were. If it is rejected, it is for the first of all objections. The check of a knock
that cannot be remembered for so long breaks down where it comes to the records, whatever they
hold. The allowed difference of the clocks is in nanoseconds. -/
theorem verdict_of_history (registry : Registry) (skew capacity : Nat) (clock : Clock)
    (events : List (Event Action)) (hclock : NeverWraps clock events) (datagram : Bytes) :
    let start : Timed Validator := ⟨clock, ofNanoseconds registry skew capacity⟩
    let t := start.after act events
    let ev := evidence skew capacity (trace act start events) t
    (∀ k, (t.state.validate t.clock datagram).2 = .ok k ↔
      ∃ device knock, ev.registry.lookup knock.device = some device ∧
        Knock.encode device.secret knock = .ok datagram ∧
        (ev.now.toInt - knock.timestamp.toInt).natAbs ≤ ev.tolerance ∧
        ev.deadline < Clock.limit ∧ (knock.device, knock.nonce) ∉ ev.recent ∧
        ev.recent.card < ev.capacity ∧
        k = ⟨device, knock.nonce, knock.timestamp, knock.asRead.token⟩) ∧
    ∀ reason, (t.state.validate t.clock datagram).2 = .error reason ↔
      ev.Objects datagram reason ∧
        ∀ other, ev.Objects datagram other → reason.stage ≤ other.stage := by
  intro start t ev
  have hmirrors := history_after
    (Mirrors (skew / millisecondNs) (ReplayGuard.ofNanoseconds skew capacity).retention
      (max 1 capacity))
    (fun past t e hfits h => h.next hfits) events [] start hclock
    (mirrors_ofNanoseconds registry skew capacity clock)
  have hjudge : (t.state.validate t.clock datagram).2 = ev.judge datagram :=
    hmirrors.validate_eq_judge datagram
  rw [hjudge]
  exact ⟨fun k => Evidence.judge_eq_ok_iff, fun reason => Evidence.judge_eq_error_iff⟩

/-- A guard that has room for one record, and the copy of the knock in it a minute later. The
knock is still fresh, and it is rejected as a copy before the guard is found full. -/
theorem verdict_of_history_of_copy :
    let device : Device :=
      ⟨⟨"tablet", by decide, by decide⟩, ⟨List.replicate 16 7, by decide⟩, .commonName "tablet", []⟩
    let nonce : Nonce := ⟨List.replicate 16 0, rfl⟩
    let datagram := (Knock.encode device.secret ⟨device.id, 30, nonce, none⟩).toOption.getD []
    let events : List (Event Action) := [.act (.validate datagram), .advance 60000]
    let start : Timed Validator :=
      ⟨.startingAt 0, ofNanoseconds (Registry.empty.upsert device) 30000000000 1⟩
    let t := start.after act events
    let ev := evidence 30000000000 1 (trace act start events) t
    NeverWraps (.startingAt 0) events ∧
    (t.state.validate t.clock datagram).2 = .error (.replayed device.id) ∧
    ev.Objects datagram (.replayed device.id) ∧
    ∀ other, ev.Objects datagram other → 5 ≤ other.stage := by
  intro device nonce datagram events start t ev
  have hcopy : (t.state.validate t.clock datagram).2 = .error (.replayed device.id) := by
    decide +kernel
  exact ⟨by decide, hcopy,
    ((verdict_of_history _ _ _ _ events (by decide) datagram).2 _).mp hcopy⟩

/-- The clocks may differ by nine quintillion seconds, of which twice as much and five seconds fit
a machine word. Then no knock can be remembered for as long as it has to be, and the check of the
first fresh one breaks down, although nothing speaks against it and nothing is on record. -/
theorem no_verdict_of_great_skew :
    let device : Device :=
      ⟨⟨"tablet", by decide, by decide⟩, ⟨List.replicate 16 7, by decide⟩, .commonName "tablet", []⟩
    let knock : Knock := ⟨device.id, 0, ⟨List.replicate 16 0, rfl⟩, none⟩
    let datagram := (Knock.encode device.secret knock).toOption.getD []
    let seconds := 9 * 10 ^ 18
    let v := ofNanoseconds (Registry.empty.upsert device) (seconds * 10 ^ 9) 1
    let ev := evidence (seconds * 10 ^ 9) 1 [] ⟨.startingAt 0, v⟩
    2 * seconds + 5 < 2 ^ 64 ∧
    ev.registry.lookup knock.device = some device ∧
    Knock.encode device.secret knock = .ok datagram ∧
    (ev.now.toInt - knock.timestamp.toInt).natAbs ≤ ev.tolerance ∧
    (knock.device, knock.nonce) ∉ ev.recent ∧ ev.recent.card < ev.capacity ∧
    (v.validate (.startingAt 0) datagram).2 = .error .outOfRange ∧
    Rejection.outOfRange.message? = none := by
  intro device knock datagram seconds v ev
  exact ⟨by decide, by decide +kernel, by decide +kernel, by decide, by decide, by decide,
    by decide +kernel, rfl⟩

end Perimeter.Validator
