import Perimeter.Proofs.Checks
import Perimeter.Proofs.Validation.Port

/-!
# `Perimeter.Proofs.Validation.Counted`: what becomes of a datagram is counted

A datagram that arrives at a port is counted for its fate: it is too long, it comes while too many
others are looked at, it is rejected for a reason, or it is accepted. The counters of a port are
the tally of all fates so far (`KnockPort.Books`). Only a breakdown of the check belongs to no
counter (`KnockPort.Fate.breaksDown_iff`), and only a record that would end too late can break it
down (`KnockPort.fate_outOfRange_iff`).

The buffer of the port and the reader of knocks look at the length of a datagram apart. What the
buffer lets through, the reader never finds too long (`Knock.decode_lengthless`), so that nothing
is counted as malformed for its length.
-/

set_option autoImplicit false

namespace Perimeter

/-! ### Readers that do not mind the length -/

namespace Wire

variable {α β : Type}

/-- A reader does not object that a datagram is too long. -/
def Lengthless (result : Except Error α) : Prop :=
  ∀ size most, result ≠ .error (.oversized size most)

variable {result : Except Error α} {next : α → Except Error β} {cause : Error}

theorem lengthless_ok (a : α) : Lengthless (.ok a) := nofun

theorem lengthless_error (h : ∀ size most, cause ≠ .oversized size most) :
    Lengthless (.error cause : Except Error α) := by
  intro size most heq
  exact h size most (Except.error.inj heq)

theorem Lengthless.guard {p : Prop} [Decidable p] (h : ∀ size most, cause ≠ .oversized size most)
    (hrest : Lengthless result) : Lengthless (if p then .error cause else result) := by
  split
  · exact lengthless_error h
  · exact hrest

theorem Lengthless.bind (hresult : Lengthless result) (hnext : ∀ a, Lengthless (next a)) :
    Lengthless (result >>= next) := by
  cases result with
  | error cause =>
    intro size most heq
    exact hresult size most (congrArg _ (Except.error.inj heq))
  | ok a => exact hnext a

theorem lengthless_mapError {ε : Type} {result : Except ε α} {cause : ε → Error}
    (h : ∀ e size most, cause e ≠ .oversized size most) : Lengthless (result.mapError cause) := by
  cases result with
  | error e => exact lengthless_error (h e)
  | ok a => exact lengthless_ok a

theorem lengthless_checkHeader {datagram : Bytes} {kind : Kind} :
    Lengthless (checkHeader datagram kind) := by
  refine .guard nofun ?_
  cases Kind.ofCode? (octetAt datagram 1) with
  | none => exact lengthless_error nofun
  | some found =>
    dsimp only
    split
    · exact lengthless_ok ()
    · exact lengthless_error nofun

theorem lengthless_checkLength {datagram : Bytes} {declared : Nat} :
    Lengthless (checkLength datagram declared) :=
  .guard nofun (.guard nofun (lengthless_ok ()))

theorem lengthless_field {datagram : Bytes} {offset n : Nat} :
    Lengthless (field datagram offset n) := by
  unfold field
  split
  · exact lengthless_ok _
  · exact lengthless_error nofun

theorem lengthless_number16 {datagram : Bytes} {offset : Nat} :
    Lengthless (number16 datagram offset) :=
  lengthless_field.bind fun _ => lengthless_ok _

theorem lengthless_int64 {datagram : Bytes} {offset : Nat} : Lengthless (int64 datagram offset) :=
  lengthless_field.bind fun _ => lengthless_ok _

theorem lengthless_tokenText {bs : Bytes} : Lengthless (tokenText bs) := by
  unfold tokenText
  split
  · exact lengthless_ok _
  · exact lengthless_error nofun

end Wire

open Wire in
/-- A datagram that the buffer of a port holds whole is not too long for the reader of knocks. -/
theorem Knock.decode_lengthless {datagram : Bytes} (h : datagram.length ≤ Knock.maxLength) :
    Lengthless (Knock.decode datagram) := by
  simp only [Knock.decode, Checks.throw_bind, Nat.not_lt.mpr h, if_false]
  refine .guard nofun (.bind lengthless_checkHeader fun _ => .guard nofun (.guard nofun ?_))
  split
  · refine .bind (lengthless_ok _) fun text => .bind (lengthless_mapError nofun) fun device => ?_
    refine .bind lengthless_int64 fun timestamp => .bind lengthless_field fun nonce => ?_
    refine .bind lengthless_number16 fun tokenLength => .guard nofun ?_
    refine .bind lengthless_checkLength fun _ => ?_
    -- A token is read in the same way whether or not there is one.
    split
    · exact .bind (lengthless_ok _) fun token => .bind lengthless_field fun tag =>
        lengthless_ok _
    · refine .bind ?_ fun token => .bind lengthless_field fun tag => lengthless_ok _
      rw [← bind_pure_comp]
      exact .bind lengthless_tokenText fun _ => lengthless_ok _
  · exact lengthless_error nofun

/-- What a validator calls malformed is what does not read as a knock. -/
theorem Validator.decode_of_malformed {v : Validator} {clock : Clock} {datagram : Bytes}
    {cause : Wire.Error} (h : (v.validate clock datagram).2 = .error (.malformed cause)) :
    Knock.decode datagram = .error cause := by
  unfold validate at h
  split at h
  · rename_i reason hexamine
    cases h
    obtain ⟨cause', hdecode, hcause⟩ | ⟨received, -, hreason⟩ := examine_error_cases hexamine
    · cases hcause
      exact hdecode
    -- A knock that reads is rejected for something else.
    · obtain hreason | hreason | hreason := hreason <;> cases hreason
  · dsimp only at h
    split at h <;> cases h

/-! ### What the fate of a datagram counts for -/

namespace KnockPort

variable {p : KnockPort} {clock : Clock} {inflight : Nat} {datagram : Bytes}

namespace Fate

/-- The counter that a fate belongs to. A breakdown belongs to none. -/
def label? : Fate → Option String
  | oversized => some "oversized"
  | saturated => some "saturated"
  | rejected reason => reason.label?
  | accepted _ => some "accepted"

/-- The check of the datagram has broken down. -/
def breaksDown (fate : Fate) : Bool := fate.label?.isNone

theorem breaksDown_iff {fate : Fate} : fate.breaksDown ↔ fate = .rejected .outOfRange := by
  cases fate with
  | rejected reason => cases reason <;> simp [breaksDown, label?, Rejection.label?]
  | oversized | saturated | accepted => simp [breaksDown, label?]

end Fate

/-- Only what is too long is counted as oversized. -/
theorem label?_eq_oversized_iff :
    (p.fate clock inflight datagram).label? = some "oversized" ↔
      Knock.maxLength < datagram.length := by
  unfold fate
  split
  · simp [Fate.label?, *]
  · split
    · simp [Fate.label?, *]
    · split
      · rename_i reason _
        cases reason <;> simp [Fate.label?, Rejection.label?, *]
      · simp [Fate.label?, *]

/-- Nothing is counted as saturated where there is room. -/
theorem label?_ne_saturated (h : inflight < p.maxInflight) :
    (p.fate clock inflight datagram).label? ≠ some "saturated" := by
  unfold fate
  split
  · simp [Fate.label?]
  · rw [if_neg (Nat.not_le.mpr h)]
    split
    · rename_i reason _
      cases reason <;> simp [Fate.label?, Rejection.label?]
    · simp [Fate.label?]

/-- When a port breaks down over a datagram: it is looked at and would be accepted, but the end of
its record is out of range. -/
theorem fate_outOfRange_iff :
    p.fate clock inflight datagram = .rejected .outOfRange ↔
      datagram.length ≤ Knock.maxLength ∧ inflight < p.maxInflight ∧
        (∃ examined, p.validator.examine clock.unixSeconds datagram = .ok examined) ∧
        Clock.limit ≤ clock.instant + p.validator.replay.retention := by
  rw [← Validator.validate_outOfRange_iff]
  unfold fate
  by_cases hlong : Knock.maxLength < datagram.length
  · simp [hlong, Nat.not_le.mpr hlong]
  · rw [if_neg hlong]
    by_cases hfull : p.maxInflight ≤ inflight
    · simp [hfull, Nat.not_lt.mpr hfull]
    · rw [if_neg hfull]
      cases (p.validator.validate clock datagram).2 <;>
        simp [Nat.not_lt.mp hlong, Nat.not_le.mp hfull]

/-- What gives a knock is counted as accepted. -/
theorem accepted_receive (p : KnockPort) (clock : Clock) (inflight : Nat) (datagram : Bytes) :
    (p.receive clock inflight datagram).1.counters.accepted =
      p.counters.accepted + if (p.fate clock inflight datagram).knock?.isSome then 1 else 0 := by
  rw [receive_eq]
  cases p.fate clock inflight datagram with
  | rejected reason => cases reason <;> rfl
  | oversized | saturated | accepted => rfl

/-- A knock that is malformed is not so for its length. -/
theorem decode_of_malformed {cause : Wire.Error}
    (h : p.fate clock inflight datagram = .rejected (.malformed cause)) :
    datagram.length ≤ Knock.maxLength ∧ Knock.decode datagram = .error cause ∧
      ∀ size most, cause ≠ .oversized size most := by
  have hfits : datagram.length ≤ Knock.maxLength := by
    by_contra hlong
    rw [fate, if_pos (Nat.not_le.mp hlong)] at h
    cases h
  have hverdict : (p.validator.validate clock datagram).2 = .error (.malformed cause) := by
    unfold fate at h
    rw [if_neg (Nat.not_lt.mpr hfits)] at h
    split at h
    · cases h
    · split at h <;> cases h
      assumption
  have hdecode := Validator.decode_of_malformed hverdict
  refine ⟨hfits, hdecode, ?_⟩
  intro size most heq
  exact Knock.decode_lengthless hfits size most (heq ▸ hdecode)

end KnockPort

/-! ### The tally of all fates -/

namespace PortCounters

/-- How many of some datagrams belong to a counter. -/
def times (fates : List KnockPort.Fate) (label : String) : Nat :=
  fates.countP fun fate => fate.label? == some label

/-- How many of some datagrams belong to no counter, because their check broke down. -/
def breakdowns (fates : List KnockPort.Fate) : Nat := fates.countP KnockPort.Fate.breaksDown

/-- The counters after some datagrams, with so many replies. -/
def tally (fates : List KnockPort.Fate) (replies : Nat) : PortCounters where
  received := fates.length
  oversized := times fates "oversized"
  saturated := times fates "saturated"
  malformed := times fates "malformed"
  unknownDevice := times fates "unknown_device"
  badTag := times fates "bad_tag"
  stale := times fates "stale"
  replayed := times fates "replayed"
  guardFull := times fates "guard_full"
  accepted := times fates "accepted"
  replies := replies

theorem times_concat (fates : List KnockPort.Fate) (fate : KnockPort.Fate) (label : String) :
    times (fates ++ [fate]) label =
      times fates label + if fate.label? == some label then 1 else 0 := by
  simp [times, List.countP_append, List.countP_cons]

/-- Each datagram belongs to one counter, unless its check breaks down: it is accepted or
dropped. -/
theorem received_tally (fates : List KnockPort.Fate) (replies : Nat) :
    (tally fates replies).received =
      (tally fates replies).accepted + (tally fates replies).dropped + breakdowns fates := by
  induction fates using List.reverseRecOn with
  | nil => rfl
  | append_singleton fates fate ih =>
    simp only [tally, dropped, breakdowns, times_concat, List.length_append, List.countP_append,
      List.countP_singleton, KnockPort.Fate.breaksDown] at ih ⊢
    cases fate with
    | rejected reason => cases reason <;> simp [KnockPort.Fate.label?, Rejection.label?] <;> omega
    | oversized | saturated | accepted =>
      simp [KnockPort.Fate.label?]
      omega

end PortCounters

namespace KnockPort

/-- What a port counts under the fate of a datagram. -/
theorem counters_receive {fates : List Fate} {replies : Nat} (p : KnockPort) (clock : Clock)
    (inflight : Nat) (datagram : Bytes) (h : p.counters = .tally fates replies) :
    (p.receive clock inflight datagram).1.counters =
      .tally (fates ++ [p.fate clock inflight datagram]) replies := by
  rw [receive_eq]
  simp only [h, PortCounters.tally, PortCounters.times_concat, List.length_append]
  cases p.fate clock inflight datagram with
  | rejected reason => cases reason <;> simp [PortCounters.reject, Fate.label?, Rejection.label?]
  | oversized | saturated | accepted => simp [Fate.label?]

/-- A datagram that arrives at a port. -/
structure Arrival where
  clock : Clock
  port : KnockPort
  datagram : Bytes

/-- What becomes of it when no other datagram is being looked at. -/
def Arrival.fate (a : Arrival) : Fate := a.port.fate a.clock 0 a.datagram

/-- The counters of a port account for every datagram that has arrived, one after another: each
is counted once, as accepted or as dropped, unless its check breaks down, and what is too long is
counted as that. -/
structure Ledger (arrivals : List Arrival) (replies : Nat) (c : PortCounters) : Prop where
  /-- Each counter counts the datagrams whose fate belongs to it. -/
  counters_eq : c = .tally (arrivals.map Arrival.fate) replies
  received_eq : c.received =
    c.accepted + c.dropped + PortCounters.breakdowns (arrivals.map Arrival.fate)
  oversized_eq : c.oversized = arrivals.countP fun a => Knock.maxLength < a.datagram.length
  saturated_eq : c.saturated = 0
  replies_eq : c.replies = replies

/-- The books of a port at work: what it has counted so far, and that there is always room for
one datagram. -/
structure Books (arrivals : List Arrival) (replies : Nat) (p : KnockPort) : Prop where
  counters_eq : p.counters = .tally (arrivals.map Arrival.fate) replies
  room : 0 < p.maxInflight
  room_of_arrival : ∀ a ∈ arrivals, 0 < a.port.maxInflight

variable {arrivals : List Arrival} {replies : Nat} {p p' : KnockPort}

theorem books_new (validator : Validator) (maxInflight : Nat) :
    Books [] 0 (new validator maxInflight) where
  counters_eq := rfl
  room := Nat.le_max_left 1 maxInflight
  room_of_arrival := nofun

/-- A datagram that arrives is counted under its fate. -/
theorem Books.receive (h : Books arrivals replies p) (clock : Clock) (datagram : Bytes) :
    Books (arrivals ++ [⟨clock, p, datagram⟩]) replies (p.receive clock 0 datagram).1 where
  counters_eq := by
    rw [List.map_append]
    exact counters_receive p clock 0 datagram h.counters_eq
  room := by
    rw [maxInflight_receive]
    exact h.room
  room_of_arrival := by
    intro a ha
    rcases List.mem_append.mp ha with ha | ha
    · exact h.room_of_arrival a ha
    · rw [List.mem_singleton.mp ha]
      exact h.room

theorem Books.replied (h : Books arrivals replies p) : Books arrivals (replies + 1) p.replied where
  counters_eq := by
    rw [KnockPort.replied, h.counters_eq]
    rfl
  room := h.room
  room_of_arrival := h.room_of_arrival

/-- The checks of a port are no part of its books. -/
theorem Books.of_eq (h : Books arrivals replies p) (hcounters : p'.counters = p.counters)
    (hroom : p'.maxInflight = p.maxInflight) : Books arrivals replies p' where
  counters_eq := hcounters.trans h.counters_eq
  room := hroom ▸ h.room
  room_of_arrival := h.room_of_arrival

/-- Where there is room for every datagram, only its length and its content decide its fate. -/
theorem Books.ledger (h : Books arrivals replies p) : Ledger arrivals replies p.counters where
  counters_eq := h.counters_eq
  received_eq := by
    rw [h.counters_eq]
    exact PortCounters.received_tally _ _
  oversized_eq := by
    rw [h.counters_eq]
    show ((arrivals.map Arrival.fate).countP fun fate => fate.label? == some "oversized") = _
    rw [List.countP_map]
    refine List.countP_congr fun a _ => ?_
    simp [Arrival.fate, label?_eq_oversized_iff]
  saturated_eq := by
    rw [h.counters_eq]
    show ((arrivals.map Arrival.fate).countP fun fate => fate.label? == some "saturated") = 0
    rw [List.countP_map, List.countP_eq_zero]
    intro a ha
    simpa [Arrival.fate] using label?_ne_saturated (h.room_of_arrival a ha)
  replies_eq := by
    rw [h.counters_eq]
    rfl

end KnockPort

end Perimeter
