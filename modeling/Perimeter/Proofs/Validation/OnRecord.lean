import Perimeter.Proofs.Validation.History

/-!
# `Perimeter.Proofs.Validation.OnRecord`: a verdict rests on the records

What a validator knows of the past are its live records, so that it judges by the evidence
which has these in place of the past (`Recording.validate_eq_judge`). A knock that a guarded
validator accepts is one more on record (`Guarded.keys_of_accepted`).

`Reached` is what a validator at work can be. Such a validator accepts every knock that it
`Expects` (`Reached.validate_of_expects`).
-/

set_option autoImplicit false

namespace Perimeter.Validator

variable {v : Validator} {clock : Clock} {skew retention capacity : Nat} {datagram : Bytes}
  {k : ValidatedKnock}

/-- The device and the nonce of every live record. -/
def onRecord (v : Validator) (clock : Clock) : Finset (DeviceId × Nonce) :=
  (v.replay.records.live clock.instant).keys

/-- A validator begins without records. -/
theorem onRecord_ofNanoseconds (registry : Registry) (skew capacity : Nat) (clock : Clock) :
    (ofNanoseconds registry skew capacity).onRecord clock = ∅ :=
  congrArg Finmap.keys (Store.live_empty _ _ _ _)

/-- A validator judges by its records. -/
theorem Recording.validate_eq_judge (h : v.Recording capacity) (clock : Clock)
    (datagram : Bytes) :
    (v.validate clock datagram).2 =
      (⟨v.registry, clock.unixSeconds, v.skew / secondMs, clock.instant + v.replay.retention,
        v.onRecord clock, capacity⟩ : Evidence).judge datagram := by
  refine Validator.validate_eq_judge rfl rfl (fun timestamp => ?_) (fun id nonce => ?_) datagram
  · rw [isFresh, decide_eq_true_eq]
  · rw [h.record_snd]
    rfl

/-- A validator looks at the records only after everything else, so that a fresh knock of a
registered device is in their hands. -/
theorem Recording.validate_of_encode (h : v.Recording capacity) {knock : Knock} {device : Device}
    (hlookup : v.registry.lookup knock.device = some device)
    (hencode : Knock.encode device.secret knock = .ok datagram)
    (hfresh : (clock.unixSeconds.toInt - knock.timestamp.toInt).natAbs ≤ v.skew / secondMs) :
    (v.validate clock datagram).2 =
      if Clock.limit ≤ clock.instant + v.replay.retention then .error .outOfRange
      else if (knock.device, knock.nonce) ∈ v.onRecord clock then .error (.replayed knock.device)
      else if (v.onRecord clock).card < capacity then
        .ok ⟨device, knock.nonce, knock.timestamp, knock.asRead.token⟩
      else .error (.guardFull knock.device) := by
  have hholds : Wire.tagHolds device.secret knock.body (Wire.tagOf device.secret knock.body) := by
    simp [Wire.tagHolds]
  have hfound : v.registry.lookup knock.asRead.device = some device := hlookup
  have hnear : ¬ v.skew / secondMs <
      (clock.unixSeconds.toInt - knock.asRead.timestamp.toInt).natAbs := Nat.not_lt.mpr hfresh
  rw [h.validate_eq_judge, Evidence.judge, Knock.decode_of_encode hencode]
  simp only [hfound, hholds, hnear, not_true_eq_false, if_false]
  by_cases hroom : (v.onRecord clock).card < capacity
  · simp only [hroom, Nat.not_le.mpr hroom, if_true, if_false]
    rfl
  · simp only [hroom, Nat.not_lt.mp hroom, if_true, if_false]
    rfl

theorem registry_validate (v : Validator) (clock : Clock) (datagram : Bytes) :
    (v.validate clock datagram).1.registry = v.registry := by
  cases hexamine : v.examine clock.unixSeconds datagram with
  | error reason => rw [validate_fst_of_error hexamine]
  | ok examined => rw [validate_fst_of_ok hexamine]

/-- A knock that is accepted is one more on record. -/
theorem Guarded.keys_of_accepted (h : v.Guarded skew retention capacity)
    (hok : (v.validate clock datagram).2 = .ok k) :
    (v.validate clock datagram).1.onRecord clock =
      insert (k.device.id, k.nonce) (v.onRecord clock) := by
  have hretention := h.retention_pos
  ext key
  simp only [onRecord, Finset.mem_insert, Finmap.mem_keys]
  constructor
  · intro hlive
    obtain ⟨e, he⟩ := Finmap.mem_iff.mp hlive
    rcases h.lookup_act (.validate datagram) he with hbefore | ⟨_, k', ⟨hact, hok'⟩, hkey, -⟩
    · exact .inr (Finmap.mem_of_lookup_eq_some hbefore)
    · cases hact
      cases hok.symm.trans hok'
      exact .inl hkey.symm
  · rintro (rfl | hlive)
    · obtain ⟨e, he, -⟩ := h.remembers_of_accepted hok (by omega)
      exact Finmap.mem_of_lookup_eq_some he
    · -- A record that was live stays until it expires.
      obtain ⟨e, he⟩ := Finmap.mem_iff.mp hlive
      have hkept := h.remembers_act (.validate datagram) (fun _ => ⟨e, he, rfl⟩)
      obtain ⟨e', he', -⟩ := hkept (Store.lt_expiresAt_of_lookup_live he)
      exact Finmap.mem_of_lookup_eq_some he'

/-- A validator without records will record what it accepts. -/
theorem recording_ofNanoseconds (registry : Registry) (nanoseconds room skew : Nat) :
    Recording ⟨registry, ReplayGuard.ofNanoseconds nanoseconds room, skew⟩ (max 1 room) := by
  refine ⟨?_, Store.within_empty _ _ _⟩
  simp only [ReplayGuard.ofNanoseconds, ReplayGuard.margin, secondMs, millisecondNs]
  omega

/-- What a validator can be at a reading of its clock: it began without records, for whatever
allowed difference of the clocks, and anything may have happened since. -/
def Reached (v : Validator) (clock : Clock) : Prop :=
  ∃ registry nanoseconds room skew start events,
    Timed.after act ⟨start, registry, ReplayGuard.ofNanoseconds nanoseconds room, skew⟩ events =
      ⟨clock, v⟩

/-- A validator that has just been started. -/
theorem reached_ofNanoseconds (registry : Registry) (skew capacity : Nat) (clock : Clock) :
    (ofNanoseconds registry skew capacity).Reached clock :=
  ⟨registry, skew, capacity, skew / millisecondNs, clock, [], rfl⟩

/-- A validator stays one at work, whatever happens next. -/
theorem Reached.next (h : v.Reached clock) (e : Event Action) :
    (Timed.next act ⟨clock, v⟩ e).state.Reached (Timed.next act ⟨clock, v⟩ e).clock := by
  obtain ⟨registry, nanoseconds, room, skew, start, events, hafter⟩ := h
  refine ⟨registry, nanoseconds, room, skew, start, events ++ [e], ?_⟩
  rw [← hafter, Timed.after, List.foldl_concat]
  rfl

theorem Reached.validate (h : v.Reached clock) (datagram : Bytes) :
    (v.validate clock datagram).1.Reached clock :=
  h.next (.act (.validate datagram))

theorem Reached.advance (h : v.Reached clock) (ms : Nat) : v.Reached (clock.advance ms) :=
  h.next (.advance ms)

theorem Reached.recording (h : v.Reached clock) : v.Recording v.replay.records.capacity := by
  obtain ⟨registry, nanoseconds, room, skew, start, events, hafter⟩ := h
  let began : Validator := ⟨registry, ReplayGuard.ofNanoseconds nanoseconds room, skew⟩
  have hafterwards : (Timed.after Validator.act ⟨start, began⟩ events).state.Recording
      (max 1 room) := by
    refine invariant_after (fun t => t.state.Recording (max 1 room)) (fun t e ht => ?_) events
      ⟨start, began⟩ (recording_ofNanoseconds registry nanoseconds room skew)
    cases e with
    | act action => exact ht.act t.clock action
    | advance ms => exact ht
  rw [hafter] at hafterwards
  exact hafterwards.within.capacity_eq ▸ hafterwards

/-! ### A knock that is expected -/

/-- A validator that knows a device has room for its knock, and the knock is new and in time. The
machine has a number for the end of its record. -/
structure Expects (v : Validator) (clock : Clock) (who : Credentials) (device : Device)
    (timestamp : Int64) (nonce : Nonce) : Prop where
  registered : v.registry.lookup who.id = some device
  secret_eq : device.secret = who.secret
  inTime : (clock.unixSeconds.toInt - timestamp.toInt).natAbs ≤ v.skew / secondMs
  inRange : clock.instant + v.replay.retention < Clock.limit
  new : (who.id, nonce) ∉ v.onRecord clock
  room : (v.onRecord clock).card < v.replay.records.capacity

/-- A validator that has just been started expects every device that it knows, in its time, if the
clocks may differ by no more than a machine can count. -/
theorem expects_ofNanoseconds {registry : Registry} {who : Credentials} {device : Device}
    {timestamp : Int64} {nonce : Nonce} (hlookup : registry.lookup who.id = some device)
    (hsecret : device.secret = who.secret)
    (hnear : (clock.unixSeconds.toInt - timestamp.toInt).natAbs ≤
      skew / millisecondNs / secondMs)
    (hrange : clock.instant + (ReplayGuard.ofNanoseconds skew capacity).retention < Clock.limit) :
    (ofNanoseconds registry skew capacity).Expects clock who device timestamp nonce where
  registered := hlookup
  secret_eq := hsecret
  inTime := hnear
  inRange := hrange
  new := by simp [onRecord_ofNanoseconds]
  room := by
    rw [onRecord_ofNanoseconds, Finset.card_empty]
    exact Store.capacity_pos _

/-- A knock that is expected can be made, and is accepted as what it is. A token in it that is
not empty arrives. -/
theorem Reached.validate_of_expects {who : Credentials} {device : Device} {timestamp : Int64}
    {nonce : Nonce} {token : Option String} (h : v.Reached clock)
    (hexpects : v.Expects clock who device timestamp nonce)
    (htoken : ∀ text, token = some text → Wire.checkToken text 1 = .ok ()) :
    ∃ datagram, who.knock timestamp nonce token = .ok datagram ∧
      (v.validate clock datagram).2 = .ok ⟨device, nonce, timestamp, token⟩ := by
  let knock : Knock := ⟨who.id, timestamp, nonce, token⟩
  have hwritten : Text.isAscii knock.tokenBytes ∧
      knock.tokenBytes.length ≤ Wire.maxTokenLength := by
    cases token with
    | none => exact ⟨rfl, Nat.zero_le _⟩
    | some text =>
      obtain ⟨-, hfits, hascii⟩ := Wire.checkToken_ok_iff.mp (htoken text rfl)
      exact ⟨hascii, hfits⟩
  have hread : knock.asRead.token = token := by
    rw [Knock.token_asRead]
    cases token with
    | none => exact ite_self none
    | some text =>
      obtain ⟨hsome, -, -⟩ := Wire.checkToken_ok_iff.mp (htoken text rfl)
      exact if_neg (Nat.one_le_iff_ne_zero.mp hsome)
  obtain ⟨datagram, hencode⟩ : ∃ datagram, Knock.encode who.secret knock = .ok datagram :=
    Knock.exists_encode_iff.mpr hwritten
  refine ⟨datagram, hencode, ?_⟩
  rw [← hexpects.secret_eq] at hencode
  rw [h.recording.validate_of_encode hexpects.registered hencode hexpects.inTime,
    if_neg (Nat.not_le.mpr hexpects.inRange), if_neg hexpects.new, if_pos hexpects.room, hread]

end Perimeter.Validator
