import Perimeter.KnockPort
import Perimeter.Proofs.Validation.Verdict

/-!
# `Perimeter.Proofs.Validation.Port`: what passes the port

The port stands before the validator. It keeps back what is too long or too much, and everything
else meets the fate that the validator decides (`KnockPort.fate`). What a port makes of a datagram
follows from its fate alone (`KnockPort.receive_eq`).

So it gives a knock only for a datagram that the validator accepts as it is
(`KnockPort.validate_of_receive`). Whatever arrives, all that becomes of the validator is what a
validated datagram makes of it (`KnockPort.validator_receive`).
-/

set_option autoImplicit false

namespace Perimeter

namespace KnockPort

/-- What becomes of a datagram that arrives at a port. -/
inductive Fate where
  | oversized
  | saturated
  | rejected (reason : Rejection)
  | accepted (knock : ValidatedKnock)

namespace Fate

/-- The knock that comes of the datagram. -/
def knock? : Fate → Option ValidatedKnock
  | accepted knock => some knock
  | oversized | saturated | rejected _ => none

theorem knock?_eq_some_iff {fate : Fate} {k : ValidatedKnock} :
    fate.knock? = some k ↔ fate = .accepted k := by
  cases fate <;> simp [knock?]

end Fate

variable {p : KnockPort} {clock : Clock} {inflight : Nat} {datagram : Bytes}
  {k : ValidatedKnock}

/-- The fate of a datagram that comes while so many others are being looked at. Whatever is not
too long, and finds room, is judged by the validator. -/
def fate (p : KnockPort) (clock : Clock) (inflight : Nat) (datagram : Bytes) : Fate :=
  if Knock.maxLength < datagram.length then .oversized
  else if p.maxInflight ≤ inflight then .saturated
  else match (p.validator.validate clock datagram).2 with
    | .error reason => .rejected reason
    | .ok knock => .accepted knock

/-- A datagram is too long for the buffer if it is too long. -/
theorem lt_length_cut_iff :
    Knock.maxLength < (cut datagram).length ↔ Knock.maxLength < datagram.length := by
  rw [cut, List.length_take]
  omega

/-- What is not too long is not cut short by the buffer. -/
theorem cut_of_length_le (h : ¬ Knock.maxLength < datagram.length) : cut datagram = datagram :=
  List.take_of_length_le (by omega)

/-- What a port makes of a datagram, from its fate. -/
theorem receive_eq (p : KnockPort) (clock : Clock) (inflight : Nat) (datagram : Bytes) :
    let seen := { p.counters with received := p.counters.received + 1 }
    let judged := { p with validator := (p.validator.validate clock datagram).1 }
    p.receive clock inflight datagram = match p.fate clock inflight datagram with
      | .oversized => ({ p with counters := { seen with oversized := seen.oversized + 1 } }, none)
      | .saturated => ({ p with counters := { seen with saturated := seen.saturated + 1 } }, none)
      | .rejected reason => ({ judged with counters := seen.reject reason }, none)
      | .accepted knock =>
        ({ judged with counters := { seen with accepted := seen.accepted + 1 } }, some knock) := by
  intro seen judged
  unfold receive fate
  dsimp only
  simp only [lt_length_cut_iff]
  by_cases hlong : Knock.maxLength < datagram.length
  · simp only [hlong, if_true]
    rfl
  · simp only [hlong, if_false, cut_of_length_le hlong]
    by_cases hfull : p.maxInflight ≤ inflight
    · simp only [hfull, if_true]
      rfl
    · simp only [hfull, if_false, judged]
      obtain ⟨validator, verdict⟩ := p.validator.validate clock datagram
      cases verdict <;> rfl

/-- What is too long is counted, and not looked at. -/
theorem receive_of_long (p : KnockPort) (clock : Clock) (inflight : Nat)
    (h : Knock.maxLength < datagram.length) :
    p.receive clock inflight datagram =
      ({ p with counters := { p.counters with
        received := p.counters.received + 1, oversized := p.counters.oversized + 1 } }, none) := by
  rw [receive_eq, fate, if_pos h]

theorem snd_receive (p : KnockPort) (clock : Clock) (inflight : Nat) (datagram : Bytes) :
    (p.receive clock inflight datagram).2 = (p.fate clock inflight datagram).knock? := by
  rw [receive_eq]
  cases p.fate clock inflight datagram <;> rfl

theorem maxInflight_receive (p : KnockPort) (clock : Clock) (inflight : Nat) (datagram : Bytes) :
    (p.receive clock inflight datagram).1.maxInflight = p.maxInflight := by
  rw [receive_eq]
  cases p.fate clock inflight datagram <;> rfl

/-- The port gives a knock only for a datagram that the validator accepts as that knock. -/
theorem validate_of_receive (h : (p.receive clock inflight datagram).2 = some k) :
    (p.validator.validate clock datagram).2 = .ok k := by
  rw [snd_receive, Fate.knock?_eq_some_iff] at h
  unfold fate at h
  split at h
  · cases h
  · split at h
    · cases h
    · split at h
      · cases h
      · rename_i hverdict
        cases h
        exact hverdict

/-- A datagram either stays with the port or is handed to the validator. -/
theorem validator_receive (p : KnockPort) (clock : Clock) (inflight : Nat) (datagram : Bytes) :
    (p.receive clock inflight datagram).1.validator = p.validator ∨
      (p.receive clock inflight datagram).1.validator =
        (p.validator.validate clock (cut datagram)).1 := by
  by_cases hlong : Knock.maxLength < datagram.length
  · rw [receive_of_long p clock inflight hlong]
    exact .inl rfl
  · rw [receive_eq, cut_of_length_le hlong]
    cases p.fate clock inflight datagram with
    | oversized | saturated => exact .inl rfl
    | rejected | accepted => exact .inr rfl

/-- What gives a knock has been handed to the validator whole. -/
theorem validator_receive_of_some (h : (p.receive clock inflight datagram).2 = some k) :
    (p.receive clock inflight datagram).1.validator =
      (p.validator.validate clock datagram).1 := by
  rw [snd_receive, Fate.knock?_eq_some_iff] at h
  rw [receive_eq, h]

end KnockPort

end Perimeter
