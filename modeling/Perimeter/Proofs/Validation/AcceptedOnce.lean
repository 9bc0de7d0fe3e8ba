import Perimeter.Proofs.Validation.Verdict

/-!
# `Perimeter.Proofs.Validation.AcceptedOnce`: a knock counts at most once

A record against reuse ends at an instant of one clock, and a knock goes stale by the whole
Unix seconds of another reading. `stale_of_outlived` compares the two: when the record of a
knock has expired, its timestamp is stale and will not be fresh again.

While the record lasts, the guard refuses the knock: it remembers what it has recorded
through everything that may happen to a validator (`Guarded.remembers_act`). Together no run
accepts a knock twice (`never_accepted_twice`). Registry changes in between do not matter,
because a record names no secret.
-/

set_option autoImplicit false

namespace Perimeter.Validator

/-- A datagram is accepted as a knock at a moment of a run. -/
def Accepts (p : Timed Validator × Event Action) (datagram : Bytes) (k : ValidatedKnock) : Prop :=
  p.2 = .act (.validate datagram) ∧ (p.1.state.validate p.1.clock datagram).2 = .ok k

/-- What stays of a validator while it is at work. The records are kept for so long that
they cover the allowed difference of the clocks in both directions, and are never evicted. -/
structure Guarded (v : Validator) (skew retention capacity : Nat) : Prop where
  skew_eq : v.skew = skew
  retention_eq : v.replay.retention = retention
  covers : 2 * skew + ReplayGuard.margin ≤ retention
  within : v.replay.records.Within capacity .refuseNew

variable {v : Validator} {clock : Clock} {skew retention capacity : Nat}

/-- A validator that has accepted nothing yet is guarded, whatever the allowed difference. -/
theorem guarded_ofNanoseconds (registry : Registry) (skew capacity : Nat) :
    (ofNanoseconds registry skew capacity).Guarded (skew / millisecondNs)
      (ReplayGuard.ofNanoseconds skew capacity).retention (max 1 capacity) where
  skew_eq := rfl
  retention_eq := rfl
  covers := by
    simp only [ReplayGuard.ofNanoseconds, ReplayGuard.margin, secondMs, millisecondNs]
    omega
  within := Store.within_empty _ _ _

theorem Guarded.retention_pos (h : v.Guarded skew retention capacity) : 0 < retention := by
  have hcovers := h.covers
  simp only [ReplayGuard.margin, secondMs] at hcovers
  omega

theorem Guarded.recording (h : v.Guarded skew retention capacity) : v.Recording capacity :=
  ⟨h.retention_eq ▸ h.retention_pos, h.within⟩

/-- A validator stays guarded, whatever happens to it. -/
theorem Guarded.act (h : v.Guarded skew retention capacity) (clock : Clock) (action : Action) :
    (act clock v action).Guarded skew retention capacity := by
  obtain ⟨hskew, hretention, hused⟩ := act_spec (h.retention_eq ▸ h.retention_pos) clock action
  exact ⟨hskew.trans h.skew_eq, hretention.trans h.retention_eq, h.covers, hused.within h.within⟩

/-- What is recorded stays recorded, whatever happens to the validator. -/
theorem Guarded.remembers_act (h : v.Guarded skew retention capacity) (action : Action)
    {key : DeviceId × Nonce} {expiry : Nat}
    (hkey : v.replay.records.Remembers clock.instant key expiry) :
    (Validator.act clock v action).replay.records.Remembers clock.instant key expiry := by
  obtain ⟨-, -, hused⟩ := act_spec (h.retention_eq ▸ h.retention_pos) clock action
  exact hused.remembers h.within hkey

/-- A knock is recorded from the moment on at which it is accepted. -/
theorem Guarded.remembers_of_accepted (h : v.Guarded skew retention capacity)
    {datagram : Bytes} {k : ValidatedKnock} (hok : (v.validate clock datagram).2 = .ok k) :
    (v.validate clock datagram).1.replay.records.Remembers clock.instant
      (k.device.id, k.nonce) (clock.instant + retention) := by
  obtain ⟨device, knock, hexamine, hstored, rfl⟩ := validate_ok_iff_examine.mp hok
  obtain ⟨received, -, rfl, hlookup, -, -⟩ := examine_ok_iff.mp hexamine
  rw [ReplayGuard.record_snd, h.retention_eq] at hstored
  rw [validate_fst_of_ok hexamine, ReplayGuard.records_record, h.retention_eq,
    Registry.id_of_lookup hlookup]
  exact Store.remembers_of_stored h.within h.retention_pos hstored

/-- A knock that is accepted is not recorded any more. -/
theorem expired_of_accepted {datagram : Bytes} {k : ValidatedKnock} {expiry : Nat}
    (hkey : v.replay.records.Remembers clock.instant (k.device.id, k.nonce) expiry)
    (hok : (v.validate clock datagram).2 = .ok k) : expiry ≤ clock.instant := by
  obtain ⟨received, -, -, -, -, -, hstored⟩ := validate_ok_iff.mp hok
  rw [ReplayGuard.record_snd] at hstored
  exact hkey.le_of_stored hstored

/-- A timestamp that was fresh when a knock was recorded is stale when the record has
expired. The margin of the record makes up for the parts of a second that neither Unix
reading shows. -/
theorem stale_of_outlived {v' : Validator} {clock' : Clock} {timestamp : Int64} {ms ms' : Nat}
    (h : v.Guarded skew retention capacity) (h' : v'.Guarded skew retention capacity)
    (hbefore : clock.Precedes clock') (hfits : clock.Fits ms) (hfits' : clock'.Fits ms')
    (hfresh : v.isFresh clock.unixSeconds timestamp)
    (hexpired : clock.instant + retention ≤ clock'.instant) :
    ¬ v'.isFresh clock'.unixSeconds timestamp := by
  intro hfresh'
  simp only [isFresh, h.skew_eq, h'.skew_eq, secondMs, decide_eq_true_eq] at hfresh hfresh'
  have hcovers := h.covers
  simp only [ReplayGuard.margin, secondMs] at hcovers
  -- So many whole seconds have passed, whatever parts of a second the readings leave out.
  have hpassed : clock.instant + (2 * (skew / 1000) + 5) * 1000 ≤ clock'.instant := by omega
  have hseconds := hbefore.toInt_unixSeconds_ge hfits hfits' hpassed
  omega

/-- What an event leaves behind: the record of a knock that it accepts. -/
def Recorded (retention : Nat) (p : Timed Validator × Event Action) (t : Timed Validator) :
    Prop :=
  ∀ datagram k, Accepts p datagram k → t.state.replay.records.Remembers t.clock.instant
    (k.device.id, k.nonce) (p.1.clock.instant + retention)

/-- Every event keeps the record of an accepted knock until it expires. -/
theorem Recorded.next {p : Timed Validator × Event Action} {t : Timed Validator}
    {e : Event Action} (h : Recorded retention p t)
    (ht : t.state.Guarded skew retention capacity) (hfits : t.clock.Fits e.duration) :
    Recorded retention p (t.next act e) := by
  intro datagram k hp
  have hkey := h datagram k hp
  cases e with
  | act action => exact ht.remembers_act action hkey
  | advance ms => exact hkey.later (instant_le_next hfits)

/-- A knock that is accepted after another differs from it in the device, the nonce or the
time. -/
theorem Recorded.ne_of_accepts {p q : Timed Validator × Event Action} {d₁ d₂ : Bytes}
    {k₁ k₂ : ValidatedKnock} (h : Recorded retention p q.1)
    (hp : p.1.state.Guarded skew retention capacity)
    (hq : q.1.state.Guarded skew retention capacity)
    (hbefore : p.1.clock.Precedes q.1.clock) (hpfits : p.1.clock.Fits p.2.duration)
    (hqfits : q.1.clock.Fits q.2.duration) (hfirst : Accepts p d₁ k₁)
    (hsecond : Accepts q d₂ k₂) :
    (k₁.device.id, k₁.nonce, k₁.timestamp) ≠ (k₂.device.id, k₂.nonce, k₂.timestamp) := by
  intro heq
  obtain ⟨hid, hnonce, htime⟩ : k₁.device.id = k₂.device.id ∧ k₁.nonce = k₂.nonce ∧
    k₁.timestamp = k₂.timestamp := by simpa using heq
  have hkey := h d₁ k₁ hfirst
  rw [hid, hnonce] at hkey
  have hexpired := expired_of_accepted hkey hsecond.2
  obtain ⟨-, -, -, -, -, hfresh₁, -⟩ := validate_ok_iff.mp hfirst.2
  obtain ⟨-, -, -, -, -, hfresh₂, -⟩ := validate_ok_iff.mp hsecond.2
  exact stale_of_outlived hp hq hbefore hpfits hqfits (htime ▸ hfresh₁) hexpired hfresh₂

/-- Whoever accepts a datagram reads the same knock in it. -/
theorem knock_eq_of_accepted {v' : Validator} {clock' : Clock} {datagram : Bytes}
    {k k' : ValidatedKnock} (h : (v.validate clock datagram).2 = .ok k)
    (h' : (v'.validate clock' datagram).2 = .ok k') : k.knock = k'.knock := by
  obtain ⟨received, hdecode, hknock, -⟩ := validate_ok_iff.mp h
  obtain ⟨received', hdecode', hknock', -⟩ := validate_ok_iff.mp h'
  rw [hdecode] at hdecode'
  cases hdecode'
  exact hknock.symm.trans hknock'

/-- A knock is accepted at most once. Whatever else happens in a run, no two datagrams are
accepted with the same device, nonce and timestamp, and so no datagram is accepted twice.
The allowed difference of the clocks is in nanoseconds. -/
theorem never_accepted_twice (registry : Registry) (skew capacity : Nat) (clock : Clock)
    (events : List (Event Action)) (hclock : NeverWraps clock events) :
    (trace act ⟨clock, ofNanoseconds registry skew capacity⟩ events).Pairwise fun first second =>
      ∀ d₁ k₁ d₂ k₂, Accepts first d₁ k₁ → Accepts second d₂ k₂ →
        (k₁.device.id, k₁.nonce, k₁.timestamp) ≠ (k₂.device.id, k₂.nonce, k₂.timestamp) ∧
          d₁ ≠ d₂ := by
  let retention := (ReplayGuard.ofNanoseconds skew capacity).retention
  refine pairwise_trace
    (fun t => t.state.Guarded (skew / millisecondNs) retention (max 1 capacity))
    (Recorded retention) ?_ ?_ ?_ ?_ events _ hclock
    (guarded_ofNanoseconds registry skew capacity)
  · intro t e _ ht
    cases e with
    | act action => exact ht.act t.clock action
    | advance ms => exact ht
  · rintro t e _ ht datagram k ⟨rfl, hok⟩
    exact Guarded.remembers_of_accepted ht hok
  · intro p t e _ hfits ht hleft
    exact hleft.next ht hfits
  · intro p t e hbefore hpfits hfits hp ht hleft d₁ k₁ d₂ k₂ hfirst hsecond
    have hne := hleft.ne_of_accepts hp ht hbefore hpfits hfits hfirst hsecond
    refine ⟨hne, ?_⟩
    rintro rfl
    have hknock := knock_eq_of_accepted hfirst.2 hsecond.2
    obtain ⟨hid, htime, hnonce, -⟩ : k₁.device.id = k₂.device.id ∧ k₁.timestamp = k₂.timestamp ∧
      k₁.nonce = k₂.nonce ∧ k₁.token = k₂.token := by simpa [ValidatedKnock.knock] using hknock
    exact hne (by rw [hid, htime, hnonce])

/-- The knock of one device, accepted by a guard that has room for one record, and its copy
after the record has expired. -/
theorem never_accepted_twice_of_late_copy :
    let device : Device :=
      ⟨⟨"tablet", by decide, by decide⟩, ⟨List.replicate 16 7, by decide⟩, .commonName "tablet", []⟩
    let nonce : Nonce := ⟨List.replicate 16 0, rfl⟩
    let datagram := (Knock.encode device.secret ⟨device.id, 0, nonce, none⟩).toOption.getD []
    let events : List (Event Action) :=
      [.act (.validate datagram), .advance 65000, .act (.validate datagram)]
    let run := trace act
      ⟨.startingAt 0, ofNanoseconds (Registry.empty.upsert device) 30000000000 1⟩ events
    NeverWraps (.startingAt 0) events ∧
    (∃ p ∈ run, Accepts p datagram ⟨device, nonce, 0, none⟩) ∧
    run.Pairwise fun first second => ∀ d₁ k₁ d₂ k₂, Accepts first d₁ k₁ → Accepts second d₂ k₂ →
      (k₁.device.id, k₁.nonce, k₁.timestamp) ≠ (k₂.device.id, k₂.nonce, k₂.timestamp) ∧
        d₁ ≠ d₂ := by
  intro device nonce datagram events run
  refine ⟨by decide, ⟨_, .head _, rfl, by decide +kernel⟩, ?_⟩
  exact never_accepted_twice _ _ _ _ events (by decide)

end Perimeter.Validator
