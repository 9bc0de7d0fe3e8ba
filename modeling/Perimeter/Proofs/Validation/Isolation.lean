import Perimeter.Proofs.Validation.OnRecord

/-!
# `Perimeter.Proofs.Validation.Isolation`: devices do not see each other

All devices share one registry and one guard against reuse. What others do changes what lies in
the guard, how many writes it counts and so when it is swept. None of that reaches a device, as
long as the guard has room: its verdicts are those of a run in which the others do nothing
(`isolated_from_others`).

The proof follows two validators, one that meets everything and one that meets only what
concerns the device. They stay `Alike` to the device: the live records of the second are those
of the first without some of other devices (`Reduced`), so that it is never full before it.

* `Recording.live_act`: what an action does to the live records.
* `Alike.verdict?_eq`: validators that are alike give the same verdict on the device's datagrams.
* `Alike.act`, `Alike.act_of_others`: what concerns the device happens to both, and what does not
  happens to the first alone.
* `Alike.later`: time that passes for both keeps them alike.
-/

set_option autoImplicit false

namespace Perimeter.Validator

/-! ### What is done to a validator in turn -/

/-- Something that is done to a validator, with the reading of the clock at which it is done. -/
structure Deed where
  clock : Clock
  action : Action

/-- What is done to a validator in turn. Between one thing and the next the clock may stand still
or move on, but its instants never go back. -/
structure Schedule where
  deeds : List Deed
  forward : deeds.Pairwise fun d d' => d.clock.instant ≤ d'.clock.instant

/-- The deeds of a run of a clock and a validator. -/
def deedsOf (clock : Clock) : List (Event Action) → List Deed
  | [] => []
  | .act action :: rest => ⟨clock, action⟩ :: deedsOf clock rest
  | .advance ms :: rest => deedsOf (clock.advance ms) rest

theorem instant_le_of_mem_deedsOf {deed : Deed} {events : List (Event Action)} :
    ∀ {clock : Clock}, NeverWraps clock events → deed ∈ deedsOf clock events →
      clock.instant ≤ deed.clock.instant := by
  induction events with
  | nil => nofun
  | cons e rest ih =>
    intro clock hclock hdeed
    have htail : NeverWraps ((⟨clock, ()⟩ : Timed Unit).next (fun _ u _ => u) e).clock rest :=
      hclock.tail
    cases e with
    | act action =>
      rcases List.mem_cons.mp hdeed with rfl | hdeed
      · exact Nat.le_refl _
      · exact ih htail hdeed
    | advance ms =>
      have hlater : clock.instant ≤ (clock.advance ms).instant :=
        ((Clock.Precedes.refl clock).advance hclock.head).instant_le
      exact hlater.trans (ih htail hdeed)

/-- A run in which the clock never wraps is a schedule. -/
def Schedule.ofEvents (clock : Clock) (events : List (Event Action))
    (hclock : NeverWraps clock events) : Schedule where
  deeds := deedsOf clock events
  forward := by
    induction events generalizing clock with
    | nil => exact .nil
    | cons e rest ih =>
      have htail : NeverWraps ((⟨clock, ()⟩ : Timed Unit).next (fun _ u _ => u) e).clock rest :=
        hclock.tail
      cases e with
      | act action =>
        exact .cons (fun _ hdeed => instant_le_of_mem_deedsOf htail hdeed) (ih _ htail)
      | advance ms => exact ih _ htail

/-- Whether an action concerns a device. A datagram concerns the device that it reads as a knock
of, and a change of the registry the device that it registers or removes. -/
def Action.concerns (id : DeviceId) : Action → Bool
  | .validate datagram => match Knock.decode datagram with
    | .ok received => received.knock.device = id
    | .error _ => false
  | .upsert device => device.id = id
  | .remove other => other = id
  -- These are not about one device.
  | .check _ _ | .sweep | .replaceAll _ => true

/-- What is left of a schedule for a device when everybody else does nothing. -/
def Schedule.only (s : Schedule) (id : DeviceId) : Schedule where
  deeds := s.deeds.filter fun d => d.action.concerns id
  forward := s.forward.filter _

/-- The verdict that is given in a deed, if a datagram is validated in it. -/
def verdict? (v : Validator) (deed : Deed) : Option (Except Rejection ValidatedKnock) :=
  match deed.action with
  | .validate datagram => some (v.validate deed.clock datagram).2
  | _ => none

/-- The deeds in turn, each with the verdict that is given in it. -/
def answers (v : Validator) : List Deed → List (Deed × Option (Except Rejection ValidatedKnock))
  | [] => []
  | deed :: rest => (deed, v.verdict? deed) :: (v.act deed.clock deed.action).answers rest

/-- They are the verdicts of the run that the deeds are of. -/
theorem answers_deedsOf (v : Validator) (clock : Clock) (events : List (Event Action)) :
    v.answers (deedsOf clock events) =
      (trace act ⟨clock, v⟩ events).filterMap fun p => match p.2 with
        | .act action => some (⟨p.1.clock, action⟩, p.1.state.verdict? ⟨p.1.clock, action⟩)
        | .advance _ => none := by
  induction events generalizing v clock with
  | nil => rfl
  | cons e rest ih =>
    cases e with
    | act action => exact congrArg (List.cons _) (ih _ _)
    | advance ms => exact ih _ _

variable {v w : Validator} {id : DeviceId} {capacity now : Nat} {clock : Clock} {datagram : Bytes}

/-! ### What a verdict needs of the records -/

/-- Evidence with fewer knocks in it, but the same of the device of a datagram, leads to the same
verdict unless there are too many. -/
theorem Evidence.judge_eq_of_fewer {ev : Evidence} {registry : Registry}
    {recent : Finset (DeviceId × Nonce)} {received : Knock.Received}
    (hdecode : Knock.decode datagram = .ok received)
    (hlookup : registry.lookup received.knock.device = ev.registry.lookup received.knock.device)
    (hown : ∀ nonce, (received.knock.device, nonce) ∈ recent ↔
      (received.knock.device, nonce) ∈ ev.recent)
    (hfewer : recent ⊆ ev.recent)
    (hroom : ev.judge datagram ≠ .error (.guardFull received.knock.device)) :
    ({ ev with registry, recent } : Evidence).judge datagram = ev.judge datagram := by
  obtain ⟨knock, tag, authenticated⟩ := received
  have hown := hown knock.nonce
  have hcard := Finset.card_le_card hfewer
  simp only [judge, hdecode, hlookup] at hroom ⊢
  cases hdevice : ev.registry.lookup knock.device with
  | none => rfl
  | some device =>
    simp only [hdevice, hown] at hroom ⊢
    -- The checks before the last are the same. If there were too many knocks in the one
    -- evidence, there would be too many in the other.
    split
    · rfl
    · split
      · rfl
      · split
        · rfl
        · split
          · rfl
          · rename_i htag hnear hrange hnew
            simp only [htag, hnear, hrange, hnew, if_false] at hroom
            have hfits : ¬ ev.capacity ≤ ev.recent.card := fun hfull => hroom (if_pos hfull)
            rw [if_neg hfits, if_neg (by omega)]

/-- An action makes a record of the knock that it accepts, and of nothing else. -/
theorem Recording.live_act (h : v.Recording capacity) (clock : Clock) (action : Action) :
    (v.act clock action).replay.records.live clock.instant =
      match v.verdict? ⟨clock, action⟩ with
      | some (.ok k) => (v.replay.records.live clock.instant).insert (k.device.id, k.nonce)
          ⟨(), clock.instant + v.replay.retention⟩
      | _ => v.replay.records.live clock.instant := by
  cases action with
  | validate datagram =>
    simp only [Validator.act, verdict?]
    cases hexamine : v.examine clock.unixSeconds datagram with
    | error reason => simp only [validate, hexamine]
    | ok examined =>
      obtain ⟨device, knock⟩ := examined
      obtain ⟨received, -, rfl, hlookup, -, -⟩ := examine_ok_iff.mp hexamine
      rw [validate_fst_of_ok hexamine, ReplayGuard.records_record,
        Store.live_insertIfAbsent h.within h.retention_pos, ← ReplayGuard.record_snd]
      simp only [validate, hexamine]
      cases (v.replay.record clock.instant received.knock.device received.knock.nonce).2 with
      | stored => simp only [if_true, Registry.id_of_lookup hlookup]
      | present | full | outOfRange => rfl
  -- A question and a sweep are not seen, and the registry is another part of the validator.
  | check other nonce => exact Store.live_lookup v.replay.records clock.instant (other, nonce)
  | sweep => exact Store.live_sweep v.replay.records clock.instant
  | upsert device | remove other | replaceAll devices => rfl

/-- A knock that is accepted was not live on record, and it concerns its device. -/
theorem accepted_of_verdict? {action : Action} {k : ValidatedKnock}
    (hok : v.verdict? ⟨clock, action⟩ = some (.ok k)) :
    (v.replay.records.live clock.instant).lookup (k.device.id, k.nonce) = none ∧
      action.concerns k.device.id := by
  cases action with
  | validate datagram =>
    obtain ⟨received, hdecode, hknock, -, -, -, hstored⟩ := validate_ok_iff.mp (Option.some.inj hok)
    refine ⟨Store.lookup_of_stored hstored, ?_⟩
    simp only [Action.concerns, hdecode, hknock]
    exact decide_eq_true rfl
  | check _ _ | sweep | upsert _ | remove _ | replaceAll _ => cases hok

/-! ### What an action does to the registry -/

/-- Where two registries agree, they agree after the same action. -/
theorem lookup_act (hlookup : w.registry.lookup id = v.registry.lookup id) (clock : Clock)
    (action : Action) :
    (w.act clock action).registry.lookup id = (v.act clock action).registry.lookup id := by
  cases action with
  | validate datagram =>
    simp only [act, registry_validate]
    exact hlookup
  | check other nonce | sweep => exact hlookup
  | upsert device => simp only [act, Registry.lookup_upsert, hlookup]
  | remove other => simp only [act, Registry.lookup_erase, hlookup]
  | replaceAll devices =>
    simp only [act, Registry.replaceAll]
    cases Registry.ofDevices devices with
    | ok fresh => rfl
    | error reason => exact hlookup

/-- What does not concern a device leaves it registered as it is. -/
theorem lookup_act_of_others {action : Action} (hothers : ¬ action.concerns id) (clock : Clock) :
    (v.act clock action).registry.lookup id = v.registry.lookup id := by
  cases action with
  | validate datagram => simp only [act, registry_validate]
  | upsert device =>
    rw [act, Registry.lookup_upsert, if_neg (by simpa [Action.concerns] using hothers)]
  | remove other =>
    rw [act, Registry.lookup_erase, if_neg (by simpa [Action.concerns] using hothers)]
  | check _ _ | sweep | replaceAll _ => exact absurd rfl hothers

/-! ### Records without some of other devices -/

/-- The second records are the first ones without some that are not of a device. -/
structure Reduced (id : DeviceId) (m m' : LiveMap (DeviceId × Nonce) Unit) : Prop where
  own : ∀ nonce, m'.lookup (id, nonce) = m.lookup (id, nonce)
  fewer : ∀ {key e}, m'.lookup key = some e → m.lookup key = some e

variable {m m' : LiveMap (DeviceId × Nonce) Unit} {key : DeviceId × Nonce}

theorem Reduced.refl (id : DeviceId) (m : LiveMap (DeviceId × Nonce) Unit) : Reduced id m m :=
  ⟨fun _ => rfl, fun he => he⟩

theorem Reduced.liveAt (h : Reduced id m m') (later : Nat) :
    Reduced id (m.liveAt later) (m'.liveAt later) := by
  refine ⟨fun nonce => ?_, fun he => ?_⟩
  · rw [LiveMap.lookup_liveAt, LiveMap.lookup_liveAt, h.own]
  · rw [LiveMap.lookup_liveAt, Option.filter_eq_some_iff] at he ⊢
    exact ⟨h.fewer he.1, he.2⟩

/-- The same record may be made in both. -/
theorem Reduced.insert (h : Reduced id m m') (key : DeviceId × Nonce) (e : Expiring Unit) :
    Reduced id (m.insert key e) (m'.insert key e) := by
  refine ⟨fun nonce => ?_, fun {key'} _ he => ?_⟩
  · rw [LiveMap.lookup_insert', LiveMap.lookup_insert', h.own]
  · rw [LiveMap.lookup_insert'] at he ⊢
    by_cases hkey : key = key'
    · rwa [if_pos hkey] at he ⊢
    · rw [if_neg hkey] at he ⊢
      exact h.fewer he

/-- A new record of another device may be made in the first alone. -/
theorem Reduced.insert_of_others (h : Reduced id m m') (hnew : m.lookup key = none)
    (hothers : key.1 ≠ id) (e : Expiring Unit) : Reduced id (m.insert key e) m' := by
  refine ⟨fun nonce => ?_, fun {key' e'} he => ?_⟩
  · rw [LiveMap.lookup_insert', if_neg fun hkey => hothers (congrArg Prod.fst hkey), h.own]
  · have hfound : m.lookup key' = some e' := h.fewer he
    have hne : key ≠ key' := by
      rintro rfl
      cases hnew.symm.trans hfound
    rw [LiveMap.lookup_insert', if_neg hne, hfound]

/-- There is no key but those of the first records. -/
theorem Reduced.keys_subset (h : Reduced id m m') : m'.keys ⊆ m.keys := by
  intro key hkey
  obtain ⟨e, he⟩ := Finmap.mem_iff.mp (Finmap.mem_keys.mp hkey)
  exact Finmap.mem_keys.mpr (Finmap.mem_of_lookup_eq_some (h.fewer he))

/-! ### Two validators that are alike to a device -/

/-- The second validator is to a device what the first one is, but for the records of others. -/
structure Alike (id : DeviceId) (capacity : Nat) (v w : Validator) (now : Nat) : Prop where
  recording : v.Recording capacity
  recording' : w.Recording capacity
  skew_eq : w.skew = v.skew
  retention_eq : w.replay.retention = v.replay.retention
  lookup_eq : w.registry.lookup id = v.registry.lookup id
  reduced : Reduced id (v.replay.records.live now) (w.replay.records.live now)

/-- A validator is alike to itself. -/
theorem Alike.refl (h : v.Recording capacity) (id : DeviceId) (now : Nat) :
    Alike id capacity v v now :=
  ⟨h, h, rfl, rfl, rfl, .refl id _⟩

/-- Records run out at the same instants, so that time keeps validators alike. -/
theorem Alike.later {later : Nat} (h : Alike id capacity v w now) (hle : now ≤ later) :
    Alike id capacity v w later := by
  refine ⟨h.recording, h.recording', h.skew_eq, h.retention_eq, h.lookup_eq, ?_⟩
  rw [Store.live_later _ hle, Store.live_later _ hle]
  exact h.reduced.liveAt later

/-- Validators that are alike to a device give the same verdict on its datagrams, unless the
first one is full. -/
theorem Alike.verdict?_eq {action : Action} (h : Alike id capacity v w clock.instant)
    (hconcerns : action.concerns id)
    (hroom : v.verdict? ⟨clock, action⟩ ≠ some (.error (.guardFull id))) :
    w.verdict? ⟨clock, action⟩ = v.verdict? ⟨clock, action⟩ := by
  cases action with
  | validate datagram =>
    simp only [verdict?, ne_eq, Option.some.injEq] at hroom ⊢
    rw [Action.concerns] at hconcerns
    split at hconcerns
    · rename_i received hdecode
      obtain rfl : received.knock.device = id := by simpa using hconcerns
      rw [h.recording.validate_eq_judge] at hroom ⊢
      rw [h.recording'.validate_eq_judge, h.skew_eq, h.retention_eq]
      refine Evidence.judge_eq_of_fewer hdecode h.lookup_eq (fun nonce => ?_)
        h.reduced.keys_subset hroom
      simp only [onRecord, Finmap.mem_keys, ← Finmap.lookup_isSome, h.reduced.own]
    · cases hconcerns
  | check _ _ | sweep | upsert _ | remove _ | replaceAll _ => rfl

/-- What concerns the device keeps validators alike to it when it happens to both. -/
theorem Alike.act {action : Action} (h : Alike id capacity v w clock.instant)
    (hconcerns : action.concerns id)
    (hroom : v.verdict? ⟨clock, action⟩ ≠ some (.error (.guardFull id))) :
    Alike id capacity (v.act clock action) (w.act clock action) clock.instant := by
  obtain ⟨hskew, hretention, -⟩ := act_spec h.recording.retention_pos clock action
  obtain ⟨hskew', hretention', -⟩ := act_spec h.recording'.retention_pos clock action
  refine ⟨h.recording.act clock action, h.recording'.act clock action,
    by rw [hskew, hskew', h.skew_eq], by rw [hretention, hretention', h.retention_eq],
    lookup_act h.lookup_eq clock action, ?_⟩
  rw [h.recording.live_act, h.recording'.live_act, h.verdict?_eq hconcerns hroom, h.retention_eq]
  split
  · exact h.reduced.insert _ _
  · exact h.reduced

/-- What does not concern the device may happen to the first validator alone. -/
theorem Alike.act_of_others {action : Action} (h : Alike id capacity v w clock.instant)
    (hothers : ¬ action.concerns id) : Alike id capacity (v.act clock action) w clock.instant := by
  obtain ⟨hskew, hretention, -⟩ := act_spec h.recording.retention_pos clock action
  refine ⟨h.recording.act clock action, h.recording', by rw [hskew, h.skew_eq],
    by rw [hretention, h.retention_eq], by rw [lookup_act_of_others hothers, h.lookup_eq], ?_⟩
  rw [h.recording.live_act]
  -- The record that is made is of the device that the action concerns, which is another one.
  split
  · rename_i k hok
    obtain ⟨hnew, hconcerns⟩ := accepted_of_verdict? hok
    exact h.reduced.insert_of_others hnew (fun hid => hothers (hid ▸ hconcerns)) _
  · exact h.reduced

/-! ### A device among others -/

/-- No knock meets a guard that is full. -/
def HasRoom (v : Validator) (deeds : List Deed) : Prop :=
  ∀ entry ∈ v.answers deeds, ∀ other, entry.2 ≠ some (.error (.guardFull other))

instance (v : Validator) (deeds : List Deed) : Decidable (v.HasRoom deeds) :=
  decidable_of_iff
    (∀ entry ∈ v.answers deeds, ¬ entry.2 matches some (.error (.guardFull _))) <| by
    refine forall₂_congr fun entry _ => ?_
    split <;> simp_all

/-- The verdicts on a device's knocks do not change when what does not concern it is left out. -/
theorem Alike.answers_filter {deeds : List Deed}
    (forward : deeds.Pairwise fun d d' => d.clock.instant ≤ d'.clock.instant)
    (h : Alike id capacity v w now) (hlater : ∀ d ∈ deeds, now ≤ d.clock.instant)
    (hroom : v.HasRoom deeds) :
    w.answers (deeds.filter fun d => d.action.concerns id) =
      (v.answers deeds).filter fun entry => entry.1.action.concerns id := by
  -- By induction on the deeds: both validators go on, or the first one does, and they stay alike.
  induction deeds generalizing v w now with
  | nil => rfl
  | cons d rest ih =>
    obtain ⟨hnext, hrest⟩ := List.pairwise_cons.mp forward
    have hnow := h.later (hlater d List.mem_cons_self)
    have hroom' : (v.act d.clock d.action).HasRoom rest :=
      fun entry hentry => hroom entry (List.mem_cons_of_mem _ hentry)
    by_cases hconcerns : d.action.concerns id
    · have hfits := hroom _ List.mem_cons_self id
      have hsame := ih hrest (hnow.act hconcerns hfits) hnext hroom'
      simp only [List.filter_cons, answers, hconcerns, if_true, hsame,
        hnow.verdict?_eq hconcerns hfits]
    · have hsame := ih hrest (hnow.act_of_others hconcerns) hnext hroom'
      simp only [List.filter_cons, answers, hconcerns, Bool.false_eq_true, if_false, hsame]

/-- Devices are isolated from each other. In every run of a validator in which no knock meets a
full guard, and for every device, the verdicts on the device's knocks are what they are when
everybody else does nothing: when the datagrams that do not read as its knocks, and the changes
of the registry that are not of it, are left out. -/
theorem isolated_from_others (registry : Registry) (nanoseconds room skew : Nat) (s : Schedule)
    (id : DeviceId) :
    let v : Validator := ⟨registry, ReplayGuard.ofNanoseconds nanoseconds room, skew⟩
    v.HasRoom s.deeds →
      v.answers (s.only id).deeds =
        (v.answers s.deeds).filter fun entry => entry.1.action.concerns id := by
  intro v hroom
  exact (Alike.refl (recording_ofNanoseconds ..) id 0).answers_filter s.forward
    (fun _ _ => Nat.zero_le _) hroom

/-- A guard with room for two records. A tablet knocks, and a copy of its knock comes later,
while the knocks of a laptop fill the guard and run out of it, and the laptop is removed. -/
theorem isolated_from_others_of_two :
    let tablet : Device :=
      ⟨⟨"tablet", by decide, by decide⟩, ⟨List.replicate 16 7, by decide⟩, .commonName "tablet", []⟩
    let laptop : Device :=
      ⟨⟨"laptop", by decide, by decide⟩, ⟨List.replicate 16 8, by decide⟩, .commonName "laptop", []⟩
    let knock (device : Device) (timestamp : Int64) (letter : UInt8) : Event Action :=
      .act (.validate ((Knock.encode device.secret
        ⟨device.id, timestamp, ⟨List.replicate 16 letter, rfl⟩, none⟩).toOption.getD []))
    let v : Validator :=
      ⟨(Registry.empty.upsert tablet).upsert laptop, ReplayGuard.ofNanoseconds 30000000000 2, 30000⟩
    let s := Schedule.ofEvents (.startingAt 100)
      [knock laptop 100 1, .advance 50000, knock tablet 150 1, .advance 16000, knock laptop 160 2,
        .act (.remove laptop.id), .act (.validate [1]), knock tablet 150 1] (by decide +kernel)
    v.HasRoom s.deeds ∧
      (v.answers s.deeds).length = 6 ∧
      v.answers (s.only tablet.id).deeds =
        (v.answers s.deeds).filter fun entry => entry.1.action.concerns tablet.id := by
  intro tablet laptop knock v s
  have hroom : v.HasRoom s.deeds := by decide +kernel
  exact ⟨hroom, by decide +kernel, isolated_from_others _ _ _ _ s tablet.id hroom⟩

end Perimeter.Validator
