import Mathlib.Algebra.GroupWithZero.Nat
import Perimeter.Clock

/-!
# `Perimeter.Proofs.Run`: runs of a system that has a clock

A system with a clock meets events one at a time: something is done to it, or time passes.
`trace` lists the events of a run, each with the moment that it meets, and `Timed.after` is the
moment at its end.

The clock of a run never wraps if the whole time of the run fits both of its readings
(`NeverWraps`). Then `toInt_unixSeconds` gives the Unix seconds as a number, and of two
moments of one run the later one has the later readings (`Clock.Precedes`).

These lemmas carry facts along a run. They take one obligation for each event:

* `forall_trace`, `invariant_after`: an invariant holds at every moment.
* `pairwise_trace`: what a step leaves behind, and what later steps keep of it, decides what
  still later steps can do.
* `history_trace`: a fact about the past and the present moment holds at every moment.
* `history_after`: such a fact holds at the end of a run, of all that has happened in it.
* `record_after`: it does so whether or not the clock wraps, if it does not hang on the clock.
* `after_filter_trace`: what changes nothing at its moment can be left out of a run.
-/

set_option autoImplicit false

namespace Perimeter

namespace Clock

/-- The clock can move forward by milliseconds without wrapping. -/
def Fits (c : Clock) (ms : Nat) : Prop :=
  c.elapsed.toNat + ms < 2 ^ 64 ∧
    c.start.toInt + ((c.elapsed.toNat + ms) / 1000 : Nat) < 2 ^ 63

instance (c : Clock) (ms : Nat) : Decidable (c.Fits ms) :=
  inferInstanceAs (Decidable (_ ∧ _))

/-- The two readings are of one clock, the first no later than the second. -/
structure Precedes (c c' : Clock) : Prop where
  start_eq : c.start = c'.start
  origin_eq : c.origin = c'.origin
  instant_le : c.instant ≤ c'.instant

/-- A clock that has not wrapped shows the seconds at its start and the whole seconds since. -/
theorem toInt_unixSeconds {c : Clock} {ms : Nat} (h : c.Fits ms) :
    c.unixSeconds.toInt = c.start.toInt + (c.elapsed.toNat / 1000 : Nat) := by
  obtain ⟨helapsed, hunix⟩ := h
  have hstart := c.start.le_toInt
  -- The elapsed seconds are far below the sign bit, so no conversion changes them.
  have hdiv : (c.elapsed / 1000).toInt64 = Int64.ofNat (c.elapsed.toNat / 1000) := by
    rw [← UInt64.toInt64_ofNat']
    refine congrArg _ (UInt64.toNat_inj.mp ?_)
    show (c.elapsed / 1000).toNat = (UInt64.ofNat (c.elapsed.toNat / 1000)).toNat
    rw [UInt64.toNat_div, UInt64.toNat_ofNat', Nat.mod_eq_of_lt (by omega)]
    rfl
  have hseconds : (Int64.ofNat (c.elapsed.toNat / 1000)).toInt =
      (c.elapsed.toNat / 1000 : Nat) := by
    rw [Int64.toInt_ofNat_of_lt (by omega)]
  rw [unixSeconds, hdiv, Int64.toInt_add, hseconds]
  exact Int.bmod_eq_of_le (by omega) (by omega)

theorem Fits.mono {c : Clock} {ms ms' : Nat} (h : c.Fits ms) (hle : ms' ≤ ms) : c.Fits ms' := by
  obtain ⟨helapsed, hunix⟩ := h
  exact ⟨by omega, by omega⟩

theorem Fits.advance {c : Clock} {ms rest : Nat} (h : c.Fits (ms + rest)) :
    (c.advance ms).Fits rest := by
  obtain ⟨helapsed, hunix⟩ := h
  have hpassed : (c.advance ms).elapsed.toNat = c.elapsed.toNat + ms := elapsed_advance (by omega)
  have hstart : (c.advance ms).start = c.start := rfl
  rw [Fits, hpassed, hstart, Nat.add_assoc]
  exact ⟨helapsed, hunix⟩

theorem Precedes.refl (c : Clock) : c.Precedes c := ⟨rfl, rfl, Nat.le_refl _⟩

theorem Precedes.advance {c c' : Clock} {ms : Nat} (h : c.Precedes c') (hfits : c'.Fits ms) :
    c.Precedes (c'.advance ms) :=
  ⟨h.start_eq, h.origin_eq,
    by rw [instant_advance hfits.1]; exact Nat.le_add_right_of_le h.instant_le⟩

/-- When so many whole seconds have passed, the Unix seconds are so many more. -/
theorem Precedes.toInt_unixSeconds_ge {c c' : Clock} {ms ms' seconds : Nat}
    (h : c.Precedes c') (hfits : c.Fits ms) (hfits' : c'.Fits ms')
    (hpassed : c.instant + seconds * 1000 ≤ c'.instant) :
    c.unixSeconds.toInt + seconds ≤ c'.unixSeconds.toInt := by
  have horigin := h.origin_eq
  rw [instant, instant] at hpassed
  rw [toInt_unixSeconds hfits, toInt_unixSeconds hfits', h.start_eq]
  omega

end Clock

/-- What happens to a system that has a clock: something is done to it, or time passes. -/
inductive Event (α : Type) where
  | act (action : α)
  | advance (ms : Nat)

/-- A system at a reading of its clock. -/
structure Timed (σ : Type) where
  clock : Clock
  state : σ

variable {σ α : Type}

namespace Event

/-- How much time passes in an event, in milliseconds. -/
def duration : Event α → Nat
  | act _ => 0
  | advance ms => ms

/-- How much time passes in a run, in milliseconds. -/
def total (events : List (Event α)) : Nat := (events.map duration).sum

end Event

/-- The clock never wraps in a run that begins at a reading. -/
def NeverWraps (clock : Clock) (events : List (Event α)) : Prop :=
  clock.Fits (Event.total events)

instance (clock : Clock) (events : List (Event α)) : Decidable (NeverWraps clock events) :=
  inferInstanceAs (Decidable (clock.Fits _))

section
variable (act : Clock → σ → α → σ)

/-- The moment after an event. -/
def Timed.next (t : Timed σ) : Event α → Timed σ
  | .act action => { t with state := act t.clock t.state action }
  | .advance ms => { t with clock := t.clock.advance ms }

/-- The moment after a run. -/
def Timed.after (t : Timed σ) (events : List (Event α)) : Timed σ := events.foldl (Timed.next act) t

/-- The events of a run, each with the moment that it meets. -/
def trace (t : Timed σ) : List (Event α) → List (Timed σ × Event α)
  | [] => []
  | e :: rest => (t, e) :: trace (t.next act e) rest

end

variable {act : Clock → σ → α → σ}

theorem NeverWraps.head {clock : Clock} {e : Event α} {rest : List (Event α)}
    (h : NeverWraps clock (e :: rest)) : clock.Fits e.duration :=
  Clock.Fits.mono h (by simp [Event.total])

theorem NeverWraps.tail {t : Timed σ} {e : Event α} {rest : List (Event α)}
    (h : NeverWraps t.clock (e :: rest)) : NeverWraps (t.next act e).clock rest := by
  cases e with
  | act action =>
    show t.clock.Fits _
    exact Clock.Fits.mono h (by simp [Event.total])
  | advance ms =>
    show (t.clock.advance ms).Fits _
    exact Clock.Fits.advance (by simpa [NeverWraps, Event.total, Event.duration] using h)

theorem Clock.Precedes.next {c : Clock} {t : Timed σ} {e : Event α} (h : c.Precedes t.clock)
    (hfits : t.clock.Fits e.duration) : c.Precedes (t.next act e).clock := by
  cases e with
  | act action => exact h
  | advance ms => exact h.advance hfits

theorem instant_le_next {t : Timed σ} {e : Event α} (hfits : t.clock.Fits e.duration) :
    t.clock.instant ≤ (t.next act e).clock.instant :=
  ((Clock.Precedes.refl t.clock).next hfits).instant_le

/-! ### Facts along a run -/

/-- What every event keeps holds at every moment of a run. -/
theorem forall_trace {Inv : Timed σ → Prop} (hinv : ∀ t e, Inv t → Inv (t.next act e))
    (events : List (Event α)) : ∀ t : Timed σ, Inv t → ∀ p ∈ trace act t events, Inv p.1 := by
  induction events with
  | nil => intro t _ p hp; cases hp
  | cons e rest ih =>
    intro t ht p hp
    rcases List.mem_cons.mp hp with rfl | hp
    · exact ht
    · exact ih _ (hinv t e ht) p hp

/-- It holds when the run is over as well. -/
theorem invariant_after (Inv : Timed σ → Prop) (hinv : ∀ t e, Inv t → Inv (t.next act e))
    (events : List (Event α)) : ∀ t : Timed σ, Inv t → Inv (t.after act events) := by
  induction events with
  | nil => exact fun _ ht => ht
  | cons e rest ih => exact fun t ht => ih _ (hinv t e ht)

/-- What changes nothing at its moment can be left out of a run. -/
theorem after_filter_trace {matters : Timed σ × Event α → Bool}
    (hidle : ∀ t e, matters (t, e) = false → t.next act e = t) (events : List (Event α)) :
    ∀ t : Timed σ,
      t.after act (((trace act t events).filter matters).map Prod.snd) = t.after act events := by
  induction events with
  | nil => exact fun _ => rfl
  | cons e rest ih =>
    intro t
    cases hmatters : matters (t, e) with
    | true =>
      rw [trace, List.filter_cons_of_pos hmatters]
      exact ih (t.next act e)
    | false =>
      have hsame := hidle t e hmatters
      rw [trace, List.filter_cons_of_neg (by simp [hmatters]), hsame, ih t]
      show t.after act rest = (t.next act e).after act rest
      rw [hsame]

section
variable {Inv : Timed σ → Prop} {Left : Timed σ × Event α → Timed σ → Prop}
  {R : Timed σ × Event α → Timed σ × Event α → Prop}

/-- What a step has left behind decides what every later step can do. The obligations: every
event keeps what is left, and the later step respects it. -/
private theorem forall_trace_of_left
    (hinv : ∀ t e, t.clock.Fits e.duration → Inv t → Inv (t.next act e))
    (hkeep : ∀ p t e, p.1.clock.Precedes t.clock → t.clock.Fits e.duration → Inv t → Left p t →
      Left p (t.next act e))
    (huse : ∀ p t e, p.1.clock.Precedes t.clock → p.1.clock.Fits p.2.duration →
      t.clock.Fits e.duration → Inv p.1 → Inv t → Left p t → R p (t, e))
    {p : Timed σ × Event α} (hfits : p.1.clock.Fits p.2.duration) (hp : Inv p.1)
    (events : List (Event α)) :
    ∀ t : Timed σ, NeverWraps t.clock events → p.1.clock.Precedes t.clock → Inv t → Left p t →
      ∀ q ∈ trace act t events, R p q := by
  induction events with
  | nil => intro t _ _ _ _ q hq; cases hq
  | cons e rest ih =>
    intro t hwrap hbefore ht hleft q hq
    rcases List.mem_cons.mp hq with rfl | hq
    · exact huse p t e hbefore hfits hwrap.head hp ht hleft
    · exact ih (t.next act e) hwrap.tail (hbefore.next hwrap.head) (hinv t e hwrap.head ht)
        (hkeep p t e hbefore hwrap.head ht hleft) q hq

variable (Inv Left)

/-- A relation holds between every step of a run and every later one, if each step leaves
something behind (`hleave`), every event keeps it (`hkeep`), and it makes the relation hold
with the step that meets it (`huse`). `Inv` is an invariant of the run. -/
theorem pairwise_trace
    (hinv : ∀ t e, t.clock.Fits e.duration → Inv t → Inv (t.next act e))
    (hleave : ∀ t e, t.clock.Fits e.duration → Inv t → Left (t, e) (t.next act e))
    (hkeep : ∀ p t e, p.1.clock.Precedes t.clock → t.clock.Fits e.duration → Inv t → Left p t →
      Left p (t.next act e))
    (huse : ∀ p t e, p.1.clock.Precedes t.clock → p.1.clock.Fits p.2.duration →
      t.clock.Fits e.duration → Inv p.1 → Inv t → Left p t → R p (t, e))
    (events : List (Event α)) :
    ∀ t : Timed σ, NeverWraps t.clock events → Inv t → (trace act t events).Pairwise R := by
  induction events with
  | nil => intro t _ _; exact .nil
  | cons e rest ih =>
    intro t hwrap ht
    have hafter := hinv t e hwrap.head ht
    -- The first event against all later ones; the later ones among themselves by induction.
    refine .cons ?_ (ih (t.next act e) hwrap.tail hafter)
    exact forall_trace_of_left hinv hkeep huse hwrap.head ht rest (t.next act e) hwrap.tail
      ((Clock.Precedes.refl t.clock).next hwrap.head) hafter (hleave t e hwrap.head ht)

end

/-- A fact about the past and the present moment holds at every moment of a run, if it holds
at the beginning and every event keeps it. -/
theorem history_trace (Good : List (Timed σ × Event α) → Timed σ → Prop)
    (hstep : ∀ past t e, t.clock.Fits e.duration → Good past t →
      Good (past ++ [(t, e)]) (t.next act e))
    (events : List (Event α)) :
    ∀ (past : List (Timed σ × Event α)) (t : Timed σ), NeverWraps t.clock events → Good past t →
      ∀ j p, (trace act t events)[j]? = some p →
        Good (past ++ (trace act t events).take j) p.1 := by
  induction events with
  | nil => intro past t _ _ j p h; cases h
  | cons e rest ih =>
    intro past t hwrap hgood j p h
    cases j with
    | zero =>
      cases h
      simpa using hgood
    | succ j =>
      -- What is past for the rest of the run has grown by this event.
      have hlater := ih (past ++ [(t, e)]) (t.next act e) hwrap.tail
        (hstep past t e hwrap.head hgood) j p h
      rwa [List.append_assoc] at hlater

/-- Such a fact holds at the end of a run, when all of the run is past. -/
theorem history_after (Good : List (Timed σ × Event α) → Timed σ → Prop)
    (hstep : ∀ past t e, t.clock.Fits e.duration → Good past t →
      Good (past ++ [(t, e)]) (t.next act e))
    (events : List (Event α)) :
    ∀ (past : List (Timed σ × Event α)) (t : Timed σ), NeverWraps t.clock events → Good past t →
      Good (past ++ trace act t events) (t.after act events) := by
  induction events with
  | nil =>
    intro past t _ hgood
    rwa [trace, List.append_nil]
  | cons e rest ih =>
    intro past t hwrap hgood
    have hlater := ih (past ++ [(t, e)]) (t.next act e) hwrap.tail (hstep past t e hwrap.head hgood)
    rwa [List.append_assoc] at hlater

/-- A fact that does not hang on the clock, and that every event keeps, holds at the end of every
run, even if the clock wraps. -/
theorem record_after (Good : List (Timed σ × Event α) → Timed σ → Prop)
    (hstep : ∀ past t e, Good past t → Good (past ++ [(t, e)]) (t.next act e))
    (events : List (Event α)) :
    ∀ (past : List (Timed σ × Event α)) (t : Timed σ), Good past t →
      Good (past ++ trace act t events) (t.after act events) := by
  induction events with
  | nil =>
    intro past t hgood
    rwa [trace, List.append_nil]
  | cons e rest ih =>
    intro past t hgood
    have hlater := ih (past ++ [(t, e)]) (t.next act e) (hstep past t e hgood)
    rwa [List.append_assoc] at hlater

end Perimeter
