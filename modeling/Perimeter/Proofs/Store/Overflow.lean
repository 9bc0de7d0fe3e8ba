import Perimeter.Proofs.Store.Refinement

/-!
# `Perimeter.Proofs.Store.Overflow`: a store makes room without fail

A write may take a store over its capacity, and a loop brings it back. Here the loop is looked at
turn by turn. `turn` says what a turn comes to, for any store, however much it holds, and `Ends`
is a course of the loop in which no turn is in vain.

A turn that does not end the loop removes an entry, so the loop takes no more turns than there are
entries too many (`exists_ends`). A store that evicts could come to a halt over its capacity if it
held nothing but the entry just written. Its capacity is not zero, so there is always another
(`turn_cases`).

* `Within.afterAll`: a store stays within its capacity through any run.
* `Within.kept_of_evictEarliest`: a store that evicts refuses nothing.
* `Within.found_of_evictEarliest`: and it has what it has just written.
* `stays_bounded_and_settles`: all of it, for every store that a run leads to.
-/

set_option autoImplicit false

namespace Perimeter.Store

variable {K V : Type} [DecidableEq K]

/-! ### The loop, turn by turn -/

/-- What a turn of the loop comes to. -/
inductive Turn (K : Type) where
  /-- The loop is over, with an answer: whether the written entry may stay. -/
  | over (kept : Bool)
  /-- What had expired was dropped. -/
  | swept
  /-- The entry under a key was dropped. -/
  | evicted (victim : K)
  /-- An entry had to be dropped, and there was none that may be. -/
  | stuck

/-- The next turn of the loop after a write under `key`. A sweep that drops something is a turn of
its own. If all entries are live, the policy decides. -/
def turn (s : Store K V) (now : Nat) (key : K) (grew : Bool) : Turn K :=
  if s.size ≤ s.capacity then .over true
  else if 0 < s.sweepCount now then .swept
  else match s.overflow with
    | .refuseNew => .over (!grew)
    | .evictEarliest => match s.earliest? key with
      | none => .stuck
      | some e => .evicted e.1

/-- What a turn leaves of a store. -/
def afterTurn (s : Store K V) (now : Nat) : Turn K → Store K V
  | .swept => s.sweep now
  | .evicted victim => s.erase victim
  | .over _ | .stuck => s

/-- The loop comes to its end in some turns, besides the last one that ends it. Each of them
removes an entry, and an eviction spares the key that was written. -/
inductive Ends (now : Nat) (key : K) (grew : Bool) :
    Store K V → List (Turn K) → Store K V → Bool → Prop where
  | over {s : Store K V} {kept : Bool} (last : s.turn now key grew = .over kept) :
    Ends now key grew s [] s kept
  | next {s room : Store K V} {turn : Turn K} {turns : List (Turn K)} {kept : Bool}
    (first : s.turn now key grew = turn)
    (removes : (s.afterTurn now turn).size < s.size)
    (spares : turn ≠ .evicted key)
    (rest : Ends now key grew (s.afterTurn now turn) turns room kept) :
    Ends now key grew s (turn :: turns) room kept

theorem capacity_afterTurn (s : Store K V) (now : Nat) (turn : Turn K) :
    (s.afterTurn now turn).capacity = s.capacity := by
  cases turn <;> rfl

/-- A turn ends the loop, or the store is over its capacity and the turn removes an entry, and the
loop goes on with what is left. No turn is stuck. -/
theorem turn_cases (s : Store K V) (now : Nat) (key : K) (grew : Bool) :
    (∃ kept, s.turn now key grew = .over kept ∧ s.settle now key grew = (s, kept)) ∨
    ∃ turn, s.turn now key grew = turn ∧ s.capacity < s.size ∧
      (s.afterTurn now turn).size < s.size ∧ turn ≠ .evicted key ∧
      s.settle now key grew = (s.afterTurn now turn).settle now key grew := by
  by_cases hle : s.size ≤ s.capacity
  · refine .inl ⟨true, ?_, settle_of_le now key grew hle⟩
    rw [turn, if_pos hle]
  · have hover : s.capacity < s.size := Nat.not_le.mp hle
    by_cases hswept : (s.sweep now).size < s.size
    · have hcount : 0 < s.sweepCount now := Nat.sub_pos_of_lt hswept
      refine .inr ⟨.swept, ?_, hover, hswept, nofun, settle_of_swept key grew hover hswept⟩
      rw [turn, if_neg hle, if_pos hcount]
    · have hlive : (s.sweep now).size = s.size :=
        Nat.le_antisymm (size_sweep_le s now) (Nat.not_lt.mp hswept)
      have hcount : ¬ 0 < s.sweepCount now := by
        rw [sweepCount]
        omega
      cases hpolicy : s.overflow with
      | refuseNew =>
        refine .inl ⟨!grew, ?_, settle_of_refuseNew key grew hover hlive hpolicy⟩
        rw [turn, if_neg hle, if_neg hcount, hpolicy]
      | evictEarliest =>
        cases hpick : s.earliest? key with
        -- Nothing but the written entry would be no more than the capacity.
        | none =>
          have hone := size_le_one_of_earliest? hpick
          have hpos := s.capacity_pos
          omega
        | some e =>
          have hremoves := size_evict_lt (evict_of_earliest? hpick)
          have hother : e.1 ≠ key := (mem_of_earliest? hpick).2
          refine .inr ⟨.evicted e.1, ?_, hover, hremoves, ?_,
            settle_of_earliest? grew hover hlive hpolicy hpick⟩
          · rw [turn, if_neg hle, if_neg hcount, hpolicy]
            simp only [hpick]
          · intro heq
            exact hother (Turn.evicted.inj heq)

/-- The loop comes to its end from any store, in no more turns than there are entries too many. -/
theorem exists_ends (now : Nat) (key : K) (grew : Bool) (s : Store K V) :
    ∃ turns, Ends now key grew s turns (s.settle now key grew).1 (s.settle now key grew).2 ∧
      turns.length ≤ s.size - s.capacity := by
  -- The number of entries falls with every turn.
  induction hsize : s.size using Nat.strong_induction_on generalizing s with
  | h size ih =>
    rcases s.turn_cases now key grew with
      ⟨kept, hlast, hsettle⟩ | ⟨turn, hfirst, hover, hremoves, hspares, hsettle⟩
    · rw [hsettle]
      exact ⟨[], .over hlast, Nat.zero_le _⟩
    · obtain ⟨turns, hrest, hlength⟩ := ih _ (by omega) (s.afterTurn now turn) rfl
      rw [capacity_afterTurn] at hlength
      rw [hsettle]
      refine ⟨turn :: turns, .next hfirst hremoves hspares hrest, ?_⟩
      rw [List.length_cons]
      omega

/-! ### Writes to a store within its capacity -/

section
variable {s : Store K V} {capacity : Nat} {overflow : Overflow} {now : Nat} {key : K}
  {entry : Expiring V}

/-- A write adds one entry at most before the loop begins. -/
theorem Within.size_counted_le (h : s.Within capacity overflow) (now : Nat) (key : K)
    (entry : Expiring V) : ((s.put key entry).countWrite now).size ≤ capacity + 1 := by
  have hcount := size_countWrite_le (s.put key entry) now
  have hput := size_put s key entry
  have hsize := h.size_le
  split at hput <;> omega

/-- A store that evicts refuses nothing, not even what has expired when it is written. -/
theorem Within.kept_of_evictEarliest (h : s.Within capacity .evictEarliest) (now : Nat) (key : K)
    (entry : Expiring V) : (s.write now key entry).2 = true := by
  have hroom : s.size ≤ s.capacity := h.own.size_le
  rcases write_cases hroom now key entry with
    ⟨-, he⟩ | ⟨-, he⟩ | ⟨-, -, hpolicy, -⟩ | ⟨-, -, -, e, -, he⟩
  · rw [he]
  · rw [he]
  · cases h.overflow_eq.symm.trans hpolicy
  · rw [he]

/-- A store that evicts has what it has just written, unless that has expired already. -/
theorem Within.found_of_evictEarliest (h : s.Within capacity .evictEarliest)
    (hlast : now < entry.expiresAt) :
    Assoc.get? (s.write now key entry).1.entries key = some entry := by
  have hlive : entry.isLive now := by simpa [Expiring.isLive] using hlast
  have hwritten : (s.live now).Written capacity .evictEarliest key entry
      ((s.write now key entry).1.live now) (s.write now key entry).2 := written_write h hlive
  have hfound := hwritten.lookup_self_of_evictEarliest
  rw [lookup_live, Option.filter_eq_some_iff] at hfound
  exact hfound.1

/-- No answer of a store that evicts is a refusal. -/
theorem Within.answers_of_evictEarliest (h : s.Within capacity .evictEarliest) (now : Nat)
    (op : Operation K V) :
    (s.perform now op).2 ≠ .insertion .full ∧ (s.perform now op).2 ≠ .written false := by
  cases op with
  | insertIfAbsent key value ttl =>
    have hkept := h.kept_of_evictEarliest now key ⟨value, now + ttl⟩
    have hanswer : (s.perform now (.insertIfAbsent key value ttl)).2 =
        .insertion (if Clock.limit ≤ now + ttl then .outOfRange
          else if key ∈ s.live now then .present else .stored) := by
      show Reply.insertion (s.insertIfAbsent now key value ttl).2 = _
      rw [insertIfAbsent_eq, hkept]
      split
      · rfl
      · split <;> rfl
    rw [hanswer]
    split
    · simp
    · split <;> simp
  | upsert key value ttl =>
    have hkept := h.kept_of_evictEarliest now key ⟨value, now + ttl⟩
    have hanswer : (s.perform now (.upsert key value ttl)).2 =
        .written (if Clock.limit ≤ now + ttl then none else some true) := by
      show Reply.written (s.upsert now key value ttl).2 = _
      unfold Store.upsert
      split
      · rfl
      · exact congrArg (Reply.written ∘ some) hkept
    rw [hanswer]
    split <;> simp
  -- No other operation answers with the outcome of a write.
  | get | contains | remove | sweep | advance => constructor <;> intro heq <;> cases heq

end

/-! ### Runs -/

/-- A store after some operations, each at the instant at which it is asked for. The instants are
any, so that nothing hangs on how the clock moves in between. -/
def afterAll (s : Store K V) (ops : List (Nat × Operation K V)) : Store K V :=
  ops.foldl (fun s op => (s.perform op.1 op.2).1) s

/-- Every run keeps a store within its capacity. -/
theorem Within.afterAll {s : Store K V} {capacity : Nat} {overflow : Overflow}
    (h : s.Within capacity overflow) (ops : List (Nat × Operation K V)) :
    (s.afterAll ops).Within capacity overflow := by
  induction ops generalizing s with
  | nil => exact h
  | cons op rest ih => exact ih (h.perform op.1 op.2)

/-- A store never holds more entries than its capacity, and its loop makes room without fail. Take
any capacity, where zero counts as one, either policy and any interval between sweeps, and let any
operations be done from the beginning, at any instants and for any time to live. Then the entries,
those expired included, are no more than the capacity. Whatever is written next, the loop ends
after one turn at most besides its last one. Each turn before the last removes an entry, so that
none is stuck, and it does not evict the key that was written. A store that evicts refuses nothing
and has what it has just written. -/
theorem stays_bounded_and_settles (maxEntries : Nat) (overflow : Overflow) (sweepEvery : Nat)
    (ops : List (Nat × Operation K V)) (now : Nat) :
    let s := (empty maxEntries overflow sweepEvery : Store K V).afterAll ops
    s.size ≤ max 1 maxEntries ∧
    (∀ key entry, ∃ turns room kept,
      Ends now key (Assoc.get? s.entries key).isNone ((s.put key entry).countWrite now)
        turns room kept ∧
      turns.length ≤ 1 ∧
      s.write now key entry =
        if kept then (room, true) else (room.takeBack key entry.expiresAt, false)) ∧
    (overflow = .evictEarliest →
      (∀ op, (s.perform now op).2 ≠ .insertion .full ∧
        (s.perform now op).2 ≠ .written false) ∧
      ∀ key entry, now < entry.expiresAt →
        Assoc.get? (s.write now key entry).1.entries key = some entry) := by
  intro s
  have hwithin : s.Within (max 1 maxEntries) overflow :=
    (within_empty maxEntries overflow sweepEvery).afterAll ops
  refine ⟨hwithin.size_le, ?_, ?_⟩
  · intro key entry
    obtain ⟨turns, hends, hlength⟩ := exists_ends now key (Assoc.get? s.entries key).isNone
      ((s.put key entry).countWrite now)
    have hcapacity : ((s.put key entry).countWrite now).capacity = max 1 maxEntries := by
      rw [capacity_countWrite, capacity_put, hwithin.capacity_eq]
    have hsize := hwithin.size_counted_le now key entry
    exact ⟨turns, _, _, hends, by omega, write_of_settle rfl⟩
  · rintro rfl
    exact ⟨hwithin.answers_of_evictEarliest now, fun key entry => hwithin.found_of_evictEarliest⟩

/-- A store of one entry that evicts, in which an entry has expired when it is written. The next
key takes its place and is found. -/
theorem stays_bounded_and_settles_of_one_entry :
    let s := (empty 0 .evictEarliest 0 : Store Nat String).afterAll
      [(0, .upsert 1 "a" 5), (1, .insertIfAbsent 2 "b" 0), (1, .contains 1)]
    s.size ≤ 1 ∧ (s.perform 2 (.insertIfAbsent 3 "c" 2)).2 ≠ .insertion .full ∧
      2 < (⟨"c", 4⟩ : Expiring String).expiresAt ∧
      Assoc.get? (s.write 2 3 ⟨"c", 4⟩).1.entries 3 = some ⟨"c", 4⟩ := by
  intro s
  obtain ⟨hsize, -, hevicts⟩ := stays_bounded_and_settles 0 .evictEarliest 0
    [(0, .upsert 1 "a" 5), (1, .insertIfAbsent 2 "b" 0), (1, .contains 1)] 2 (K := Nat)
    (V := String)
  obtain ⟨hanswers, hfound⟩ := hevicts rfl
  exact ⟨hsize, (hanswers _).1, by decide, hfound 3 ⟨"c", 4⟩ (by decide)⟩

end Perimeter.Store
