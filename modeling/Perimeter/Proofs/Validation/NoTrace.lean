import Perimeter.Proofs.Store.Entries
import Perimeter.Proofs.Validation.OnRecord

/-!
# `Perimeter.Proofs.Validation.NoTrace`: a rejected knock leaves no trace

Anybody can send datagrams to a validator. Its records have room for so many knocks, and a nonce
that is on record is used up, so a datagram must not touch the records unless it counts. There
are two kinds of rejection. Most datagrams are turned away before the records are looked at. A
knock whose nonce is known, or for which there is no room, is turned away by the records, which
keep all their entries in their places (`Store.Within.entries_insertIfAbsent`).

A datagram is `Sealed` if a registered device's secret makes it of a knock of that device and
the knock is fresh. Whoever has no such secret can send what he likes: in a run in which also
the registry and the time change, the datagrams that are not sealed at their moment might as
well not have been sent.

* `sealed_iff`: the checks before the records let exactly the sealed datagrams through.
* `Recording.entries_of_error`: whatever is rejected leaves the records as they were.
* `Recording.record_of_ok`: what is accepted is recorded, and nothing live is lost.
* `Reached.no_trace`: all of it, for every state that a validator can be in.
-/

set_option autoImplicit false

namespace Perimeter.Validator

variable {v : Validator} {clock : Clock} {now : Int64} {capacity : Nat} {datagram : Bytes}
  {k : ValidatedKnock} {reason : Rejection}

/-- A registered device's secret makes the datagram of a knock of that device, and the knock is
fresh. -/
def Sealed (v : Validator) (now : Int64) (datagram : Bytes) : Prop :=
  ∃ device knock, v.registry.lookup knock.device = some device ∧
    Knock.encode device.secret knock = .ok datagram ∧ v.isFresh now knock.timestamp

/-- The checks that come before the records let exactly the sealed datagrams through. -/
theorem sealed_iff : v.Sealed now datagram ↔ ∃ examined, v.examine now datagram = .ok examined := by
  constructor
  · rintro ⟨device, knock, hlookup, hencode, hfresh⟩
    obtain ⟨received, hdecode, hknock, htag⟩ := Knock.encode_eq_ok_iff.mp hencode
    -- The knock is read without an empty token, and otherwise as it was written.
    have hread : v.registry.lookup knock.asRead.device = some device := hlookup
    exact ⟨(device, knock.asRead),
      examine_ok_iff.mpr ⟨received, hdecode, hknock, hread, htag, hfresh⟩⟩
  · rintro ⟨⟨device, knock⟩, hexamine⟩
    obtain ⟨received, hdecode, rfl, hlookup, htag, hfresh⟩ := examine_ok_iff.mp hexamine
    exact ⟨device, received.knock, hlookup, Knock.encode_of_decode hdecode htag, hfresh⟩

instance (v : Validator) (now : Int64) (datagram : Bytes) : Decidable (v.Sealed now datagram) :=
  decidable_of_iff ((v.examine now datagram).isOk) <| by
    rw [sealed_iff]
    cases v.examine now datagram <;> simp [Except.isOk, Except.toBool]

/-! ### One datagram -/

/-- A datagram that is not sealed leaves everything as it was. -/
theorem validate_of_not_sealed (h : ¬ v.Sealed clock.unixSeconds datagram) :
    (v.validate clock datagram).1 = v := by
  cases hexamine : v.examine clock.unixSeconds datagram with
  | error reason => exact validate_fst_of_error hexamine
  | ok examined => exact absurd (sealed_iff.mpr ⟨examined, hexamine⟩) h

/-- Whatever is rejected leaves the records as they were, the expired ones included. -/
theorem Recording.entries_of_error (h : v.Recording capacity)
    (hrejected : (v.validate clock datagram).2 = .error reason) :
    (v.validate clock datagram).1.replay.records.entries = v.replay.records.entries := by
  cases hexamine : v.examine clock.unixSeconds datagram with
  | error reason => rw [validate_fst_of_error hexamine]
  | ok examined =>
    obtain ⟨device, knock⟩ := examined
    have hnot : (v.replay.record clock.instant knock.device knock.nonce).2 ≠ .stored := by
      intro hstored
      have hok := validate_ok_iff_examine.mpr ⟨device, knock, hexamine, hstored, rfl⟩
      cases hrejected.symm.trans hok
    rw [validate_fst_of_ok hexamine]
    exact h.within.entries_insertIfAbsent hnot

/-- What is accepted is recorded until its retention is over. Every other record is as it was,
or it had expired and is gone. -/
theorem Recording.record_of_ok (h : v.Recording capacity)
    (hok : (v.validate clock datagram).2 = .ok k) :
    let after := (v.validate clock datagram).1
    Assoc.get? after.replay.records.entries (k.device.id, k.nonce) =
        some ⟨(), clock.instant + v.replay.retention⟩ ∧
      ∀ key ≠ (k.device.id, k.nonce),
        v.replay.records.KeepsLive after.replay.records clock.instant key := by
  intro after
  obtain ⟨device, knock, hexamine, hstored, rfl⟩ := validate_ok_iff_examine.mp hok
  obtain ⟨-, -, -, hlookup, -, -⟩ := examine_ok_iff.mp hexamine
  have hafter : after.replay.records =
      (v.replay.record clock.instant knock.device knock.nonce).1.records := by
    show (v.validate clock datagram).1.replay.records = _
    rw [validate_fst_of_ok hexamine]
  rw [hafter, ReplayGuard.records_record]
  rw [ReplayGuard.record_snd] at hstored
  -- The device is registered under the identifier in the knock.
  simp only [Registry.id_of_lookup hlookup]
  exact ⟨Store.get?_of_stored h.within h.retention_pos hstored,
    fun key hkey => Store.keepsLive_insertIfAbsent h.within hkey⟩

/-! ### Runs -/

/-- Whether an event is more than the arrival of a datagram that is not sealed at its moment. -/
def matters (p : Timed Validator × Event Action) : Bool :=
  match p.2 with
  | .act (.validate datagram) => decide (p.1.state.Sealed p.1.clock.unixSeconds datagram)
  | _ => true

/-- The arrival of a datagram that is not sealed leaves the moment as it was. -/
theorem next_of_not_matters {t : Timed Validator} {e : Event Action}
    (h : matters (t, e) = false) : t.next act e = t := by
  cases e with
  | advance ms => cases h
  | act action =>
    cases action with
    | validate datagram =>
      have hnot : ¬ t.state.Sealed t.clock.unixSeconds datagram := of_decide_eq_false h
      show ({ t with state := (t.state.validate t.clock datagram).1 } : Timed Validator) = t
      rw [validate_of_not_sealed hnot]
    | check id nonce => cases h
    | sweep => cases h
    | upsert device => cases h
    | remove id => cases h
    | replaceAll devices => cases h

/-- A rejected knock changes nothing. Take any state that a validator can be in.

A datagram that is rejected, for whatever reason, leaves the registry and every record as they
were. A knock that is accepted is on record until its retention is over, and every other record
is as it was, or it had expired and is gone. And whatever happens from here on, it makes no
difference if the datagrams that are not sealed at their moment are left out. -/
theorem Reached.no_trace (h : v.Reached clock) :
    (∀ datagram reason, (v.validate clock datagram).2 = .error reason →
      (v.validate clock datagram).1.registry = v.registry ∧
      (v.validate clock datagram).1.replay.records.entries = v.replay.records.entries) ∧
    (∀ datagram k, (v.validate clock datagram).2 = .ok k →
      (v.validate clock datagram).1.registry = v.registry ∧
      Assoc.get? (v.validate clock datagram).1.replay.records.entries (k.device.id, k.nonce) =
        some ⟨(), clock.instant + v.replay.retention⟩ ∧
      ∀ key ≠ (k.device.id, k.nonce), v.replay.records.KeepsLive
        (v.validate clock datagram).1.replay.records clock.instant key) ∧
    ∀ events, Timed.after act ⟨clock, v⟩
        (((trace act ⟨clock, v⟩ events).filter matters).map Prod.snd) =
      Timed.after act ⟨clock, v⟩ events := by
  refine ⟨fun datagram reason hrejected => ?_, fun datagram k hok => ?_, fun events => ?_⟩
  · exact ⟨registry_validate v clock datagram, h.recording.entries_of_error hrejected⟩
  · exact ⟨registry_validate v clock datagram, h.recording.record_of_ok hok⟩
  · exact after_filter_trace (fun _ _ => next_of_not_matters) events ⟨clock, v⟩

/-- A guard that has room for one record and holds one refuses a second knock, and a datagram
under no secret might as well not have come. When the record has expired, the second knock is
recorded. -/
theorem Reached.no_trace_of_full_guard :
    let device : Device :=
      ⟨⟨"tablet", by decide, by decide⟩, ⟨List.replicate 16 7, by decide⟩, .commonName "tablet", []⟩
    let knock (timestamp : Int64) (octet : UInt8) : Bytes := (Knock.encode device.secret
      ⟨device.id, timestamp, ⟨List.replicate 16 octet, rfl⟩, none⟩).toOption.getD []
    let first : Nonce := ⟨List.replicate 16 1, rfl⟩
    let second : Nonce := ⟨List.replicate 16 2, rfl⟩
    let v := ((ofNanoseconds (Registry.empty.upsert device) 30000000000 1).validate
      (.startingAt 0) (knock 0 1)).1
    let now : Timed Validator := ⟨.startingAt 0, v⟩
    let events : List (Event Action) := [.act (.validate [0]), .advance 1]
    let sealedOnes := ((trace act now events).filter matters).map Prod.snd
    let late := (Clock.startingAt 0).advance 65000
    (v.Reached (.startingAt 0) ∧
      (v.validate (.startingAt 0) (knock 0 2)).2 = .error (.guardFull device.id) ∧
      (v.validate (.startingAt 0) (knock 0 2)).1.replay.records.entries =
        [((device.id, first), ⟨(), 65000⟩)] ∧
      sealedOnes.length = 1 ∧ now.after act sealedOnes = now.after act events) ∧
    v.Reached late ∧
      (v.validate late (knock 65 2)).2 = .ok ⟨device, second, 65, none⟩ ∧
      Assoc.get? (v.validate late (knock 65 2)).1.replay.records.entries (device.id, second) =
        some ⟨(), 130000⟩ := by
  intro device knock first second v now events sealedOnes late
  have hreached : v.Reached (.startingAt 0) :=
    (reached_ofNanoseconds (Registry.empty.upsert device) 30000000000 1 _).validate (knock 0 1)
  have hreached' : v.Reached late := hreached.advance 65000
  have hfull : (v.validate (.startingAt 0) (knock 0 2)).2 = .error (.guardFull device.id) := by
    decide +kernel
  have hlater : (v.validate late (knock 65 2)).2 = .ok ⟨device, second, 65, none⟩ := by
    decide +kernel
  have hheld : v.replay.records.entries = [((device.id, first), ⟨(), 65000⟩)] := by
    decide +kernel
  have hexpiry : late.instant + v.replay.retention = 130000 := by decide +kernel
  have hleft : sealedOnes.length = 1 := by decide +kernel
  refine ⟨⟨hreached, hfull, ?_, hleft, ?_⟩, hreached', hlater, ?_⟩
  · exact (hreached.no_trace.1 _ _ hfull).2.trans hheld
  · exact hreached.no_trace.2.2 events
  · have hrecord := (hreached'.no_trace.2.1 _ _ hlater).2.1
    rwa [hexpiry] at hrecord

end Perimeter.Validator
