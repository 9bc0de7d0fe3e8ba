import Perimeter.Proofs.Store.Room

/-!
# `Perimeter.Proofs.Store.Refinement`: a store answers as if nothing had expired

Each operation of a store is a step of the reference map of
`Perimeter.Proofs.Store.Reference`, read off the live entries before and after it, unless its
expiry is out of range. There is one theorem for each operation, `step_perform` puts them
together, `perform_of_outOfRange` is about the others, and `run_log` carries them along a whole
run. `empty_refines` is the run from the beginning.
-/

set_option autoImplicit false

namespace Perimeter.Store

variable {K V : Type} [DecidableEq K]

/-! ### One theorem for each operation -/

section
variable {s : Store K V} {capacity : Nat} {overflow : Overflow} {now : Nat} {key : K}
  {value : V} {ttl : Nat}

theorem isLive_of_lasts (h : 0 < ttl) : (⟨value, now + ttl⟩ : Expiring V).isLive now := by
  simp only [Expiring.isLive, decide_eq_true_eq]
  omega

/-- What an insertion is: nothing if it is out of range or the key is live, else a write. -/
theorem insertIfAbsent_eq (s : Store K V) (now : Nat) (key : K) (value : V) (ttl : Nat) :
    s.insertIfAbsent now key value ttl =
      if Clock.limit ≤ now + ttl then (s, .outOfRange)
      else if key ∈ s.live now then (s, .present)
      else ((s.write now key ⟨value, now + ttl⟩).1,
        if (s.write now key ⟨value, now + ttl⟩).2 then .stored else .full) := by
  simp only [insertIfAbsent, mem_live_iff]
  split
  · rfl
  · split
    · rfl
    · cases hw : s.write now key ⟨value, now + ttl⟩ with
      | mk room kept => cases kept <;> rfl

/-- What an upsert in range is: a write. -/
theorem upsert_of_inRange (hrange : now + ttl < Clock.limit) :
    s.upsert now key value ttl =
      ((s.write now key ⟨value, now + ttl⟩).1, some (s.write now key ⟨value, now + ttl⟩).2) := by
  rw [upsert, if_neg (Nat.not_le.mpr hrange)]

theorem step_insertIfAbsent (h : s.Within capacity overflow) (httl : 0 < ttl)
    (hrange : now + ttl < Clock.limit) :
    (s.live now).Step capacity overflow now (.insertIfAbsent key value ttl)
      (.insertion (s.insertIfAbsent now key value ttl).2)
      ((s.insertIfAbsent now key value ttl).1.live now) := by
  rw [insertIfAbsent_eq, if_neg (Nat.not_le.mpr hrange)]
  by_cases hmem : key ∈ s.live now
  · rw [if_pos hmem]
    exact .present hmem
  · rw [if_neg hmem]
    exact .inserted hmem (written_write h (isLive_of_lasts httl))

theorem step_upsert (h : s.Within capacity overflow) (httl : 0 < ttl)
    (hrange : now + ttl < Clock.limit) :
    (s.live now).Step capacity overflow now (.upsert key value ttl)
      (.written (s.upsert now key value ttl).2) ((s.upsert now key value ttl).1.live now) := by
  rw [upsert_of_inRange hrange]
  exact .upserted (written_write h (isLive_of_lasts httl))

theorem step_get (s : Store K V) (capacity : Nat) (overflow : Overflow) (now : Nat) (key : K) :
    (s.live now).Step capacity overflow now (.get key) (.value (s.lookup now key).2)
      ((s.lookup now key).1.live now) := by
  rw [live_lookup, lookup_snd, get?_eq_live]
  exact .got

theorem step_contains (s : Store K V) (capacity : Nat) (overflow : Overflow) (now : Nat)
    (key : K) :
    (s.live now).Step capacity overflow now (.contains key)
      (.membership (s.lookup now key).2.isSome) ((s.lookup now key).1.live now) := by
  rw [live_lookup, lookup_snd, get?_eq_live, Option.isSome_map]
  exact .contained

theorem step_take (s : Store K V) (capacity : Nat) (overflow : Overflow) (now : Nat) (key : K) :
    (s.live now).Step capacity overflow now (.remove key) (.value (s.take now key).2)
      ((s.take now key).1.live now) := by
  simp only [take, live_erase, get?_eq_live]
  exact .removed

theorem Within.insertIfAbsent (h : s.Within capacity overflow) (now : Nat) (key : K) (value : V)
    (ttl : Nat) : (s.insertIfAbsent now key value ttl).1.Within capacity overflow := by
  rw [insertIfAbsent_eq]
  split
  · exact h
  · split
    · exact h
    · exact h.write _ _ _

theorem Within.upsert (h : s.Within capacity overflow) (now : Nat) (key : K) (value : V)
    (ttl : Nat) : (s.upsert now key value ttl).1.Within capacity overflow := by
  unfold Store.upsert
  split
  · exact h
  · exact h.write _ _ _

theorem Within.lookup (h : s.Within capacity overflow) (now : Nat) (key : K) :
    (s.lookup now key).1.Within capacity overflow := by
  unfold Store.lookup
  split
  · split
    · exact h
    · exact h.erase key
  · exact h

end

/-! ### Runs -/

/-- What an operation makes of a store, and what the store answers. -/
def perform (s : Store K V) (now : Nat) : Operation K V → Store K V × Reply V
  | .insertIfAbsent key value ttl =>
    let (after, outcome) := s.insertIfAbsent now key value ttl
    (after, .insertion outcome)
  | .upsert key value ttl =>
    let (after, kept) := s.upsert now key value ttl
    (after, .written kept)
  | .get key =>
    let (after, found) := s.lookup now key
    (after, .value found)
  | .contains key =>
    let (after, found) := s.lookup now key
    (after, .membership found.isSome)
  | .remove key =>
    let (after, found) := s.take now key
    (after, .value found)
  | .sweep => (s.sweep now, .nothing)
  | .advance _ => (s, .nothing)

/-- The run of some operations: each with its answer and the live entries after it. -/
def log (s : Store K V) (now : Nat) :
    List (Operation K V) → List (Operation K V × Reply V × LiveMap K V)
  | [] => []
  | op :: rest =>
    let (after, reply) := s.perform now op
    (op, reply, after.live (op.after now)) :: after.log (op.after now) rest

/-- Every operation keeps a store within its capacity. -/
theorem Within.perform {s : Store K V} {capacity : Nat} {overflow : Overflow}
    (h : s.Within capacity overflow) (now : Nat) (op : Operation K V) :
    (s.perform now op).1.Within capacity overflow := by
  cases op with
  | insertIfAbsent key value ttl => exact h.insertIfAbsent now key value ttl
  | upsert key value ttl => exact h.upsert now key value ttl
  | get key => exact h.lookup now key
  | contains key => exact h.lookup now key
  | remove key => exact h.erase key
  | sweep => exact h.sweep now
  | advance ms => exact h

/-- Every operation in range is a step of the reference map. -/
theorem step_perform {s : Store K V} {capacity : Nat} {overflow : Overflow}
    (h : s.Within capacity overflow) (now : Nat) (op : Operation K V) (hlasts : op.Lasts)
    (hrange : op.InRange now) :
    (s.live now).Step capacity overflow now op (s.perform now op).2
      ((s.perform now op).1.live (op.after now)) := by
  cases op with
  | insertIfAbsent key value ttl => exact step_insertIfAbsent h hlasts hrange
  | upsert key value ttl => exact step_upsert h hlasts hrange
  | get key => exact step_get s capacity overflow now key
  | contains key => exact step_contains s capacity overflow now key
  | remove key => exact step_take s capacity overflow now key
  | sweep =>
    show (s.live now).Step capacity overflow now .sweep .nothing ((s.sweep now).live now)
    rw [live_sweep]
    exact .swept
  | advance ms =>
    show (s.live now).Step capacity overflow now (.advance ms) .nothing (s.live (now + ms))
    rw [live_later s (Nat.le_add_right now ms)]
    exact .advanced

/-- An operation out of range breaks down: it leaves the store as it is, and no time passes. -/
theorem perform_of_outOfRange {now : Nat} {op : Operation K V} (s : Store K V)
    (hrange : ¬ op.InRange now) :
    (s.perform now op).1 = s ∧ (s.perform now op).2.IsBreakdown ∧ op.after now = now := by
  cases op with
  | insertIfAbsent key value ttl =>
    have hover : s.insertIfAbsent now key value ttl = (s, .outOfRange) :=
      if_pos (Nat.not_lt.mp hrange)
    exact ⟨congrArg Prod.fst hover, congrArg Prod.snd hover, rfl⟩
  | upsert key value ttl =>
    have hover : s.upsert now key value ttl = (s, none) := if_pos (Nat.not_lt.mp hrange)
    exact ⟨congrArg Prod.fst hover, congrArg Prod.snd hover, rfl⟩
  | get | contains | remove | sweep | advance => exact absurd trivial hrange

/-- Every run from a store within its capacity is a run of the reference map. -/
theorem run_log {capacity : Nat} {overflow : Overflow} (ops : List (Operation K V)) :
    ∀ (s : Store K V) (now : Nat), s.Within capacity overflow → (∀ op ∈ ops, op.Lasts) →
      LiveMap.Run capacity overflow now (s.live now) (s.log now ops) := by
  induction ops with
  | nil =>
    intro s now _ _
    exact .nil
  | cons op rest ih =>
    intro s now h hlasts
    have hrest := ih (s.perform now op).1 (op.after now) (h.perform now op)
      fun op' hop' => hlasts op' (List.mem_cons_of_mem op hop')
    by_cases hrange : op.InRange now
    · exact .cons hrange (step_perform h now op (hlasts op List.mem_cons_self) hrange) hrest
    · obtain ⟨hsame, hbreakdown, hnow⟩ := s.perform_of_outOfRange hrange
      rw [hsame, hnow] at hrest
      show LiveMap.Run _ _ _ _ ((op, (s.perform now op).2,
        (s.perform now op).1.live (op.after now)) :: (s.perform now op).1.log (op.after now) rest)
      rw [hsame, hnow]
      exact .brokeDown hrange hbreakdown hrest

end Perimeter.Store
