import Perimeter.Proofs.Store.Refinement

/-!
# `Perimeter.Proofs.Store.Memory`: what a store that refuses new keys remembers

The replay guard and the list of used tokens must not forget a key before its expiry. They
are stores that refuse new keys when they are full. `Store.Remembers` says that a key is
remembered to an instant, and `Store.Used` lists what their owners ever do with them.

* `Used.remembers`: no use makes the store forget, an insertion into a full store included.
* `remembers_of_stored`: a key is remembered from its insertion on.
* `Remembers.le_of_stored`: a key can be inserted again only when its expiry has come.
* `insertIfAbsent_snd`, `live_insertIfAbsent`: what comes of an insertion, by what is live.
* `lookup_insertIfAbsent`: nothing but the key of an insertion becomes live by it.
-/

set_option autoImplicit false

namespace Perimeter.Store

variable {K V : Type} [DecidableEq K]

/-- Until an instant, a live entry stands under the key, and it expires at that instant. -/
def Remembers (s : Store K V) (now : Nat) (key : K) (expiry : Nat) : Prop :=
  now < expiry → ∃ e, (s.live now).lookup key = some e ∧ e.expiresAt = expiry

variable {s : Store K V} {capacity : Nat} {overflow : Overflow} {now : Nat} {key k : K}
  {value : V} {ttl expiry : Nat}

/-- What is remembered is a matter of the live entries alone. -/
theorem Remembers.of_live_eq {s' : Store K V} (h : s.Remembers now k expiry)
    (hlive : s'.live now = s.live now) : s'.Remembers now k expiry := by
  unfold Remembers
  rw [hlive]
  exact h

theorem Remembers.sweep (h : s.Remembers now k expiry) :
    (s.sweep now).Remembers now k expiry :=
  h.of_live_eq (live_sweep s now)

theorem Remembers.lookup (h : s.Remembers now k expiry) (key : K) :
    (s.lookup now key).1.Remembers now k expiry :=
  h.of_live_eq (live_lookup s now key)

/-- Time that passes takes nothing away before its expiry. -/
theorem Remembers.later {later : Nat} (h : s.Remembers now k expiry) (hle : now ≤ later) :
    s.Remembers later k expiry := by
  intro hlater
  obtain ⟨e, he, hexpiry⟩ := h (by omega)
  refine ⟨e, ?_, hexpiry⟩
  rw [live_later s hle, LiveMap.lookup_liveAt, he, Option.filter_some, if_pos]
  simpa [Expiring.isLive, hexpiry] using hlater

/-- An insertion takes nothing away, whatever comes of it. -/
theorem Remembers.insertIfAbsent (h : s.Remembers now k expiry)
    (hwithin : s.Within capacity .refuseNew) (httl : 0 < ttl) (key : K) (value : V) :
    (s.insertIfAbsent now key value ttl).1.Remembers now k expiry := by
  intro hnow
  obtain ⟨e, he, hexpiry⟩ := h hnow
  refine ⟨e, ?_, hexpiry⟩
  rw [insertIfAbsent_eq]
  split
  · exact he
  · split
    · exact he
    -- A key that is remembered is live, so it is another key that is written.
    · rename_i hnew
      have hne : k ≠ key := fun hk => hnew (hk ▸ Finmap.mem_of_lookup_eq_some he)
      rw [(written_write hwithin (isLive_of_lasts httl)).lookup_of_refuseNew hne, he]

/-- An insertion breaks down if it is out of range, and only then. -/
theorem insertIfAbsent_outOfRange_iff :
    (s.insertIfAbsent now key value ttl).2 = .outOfRange ↔ Clock.limit ≤ now + ttl := by
  rw [insertIfAbsent_eq]
  by_cases hover : Clock.limit ≤ now + ttl
  · rw [if_pos hover]
    exact iff_of_true rfl hover
  · rw [if_neg hover]
    refine iff_of_false (fun h => ?_) hover
    split at h
    · cases h
    · cases hkept : (s.write now key ⟨value, now + ttl⟩).2 <;> rw [hkept] at h <;> cases h

/-- What is stored is in range. -/
theorem inRange_of_stored (hstored : (s.insertIfAbsent now key value ttl).2 = .stored) :
    now + ttl < Clock.limit := by
  by_contra hover
  cases (insertIfAbsent_outOfRange_iff.mpr (Nat.not_lt.mp hover)).symm.trans hstored

/-- A key is stored only if it is not live. -/
theorem lookup_of_stored (hstored : (s.insertIfAbsent now key value ttl).2 = .stored) :
    (s.live now).lookup key = none := by
  have hrange := Nat.not_le.mpr (inRange_of_stored hstored)
  rw [insertIfAbsent_eq, if_neg hrange] at hstored
  split at hstored
  · cases hstored
  · exact Finmap.lookup_eq_none.mpr ‹_›

/-- A key is remembered from its insertion on. -/
theorem remembers_of_stored (hwithin : s.Within capacity overflow) (httl : 0 < ttl)
    (hstored : (s.insertIfAbsent now key value ttl).2 = .stored) :
    (s.insertIfAbsent now key value ttl).1.Remembers now key (now + ttl) := by
  intro _
  refine ⟨⟨value, now + ttl⟩, ?_, rfl⟩
  have hwritten : (s.live now).Written capacity overflow key ⟨value, now + ttl⟩ _ _ :=
    written_write hwithin (isLive_of_lasts httl)
  have hrange := Nat.not_le.mpr (inRange_of_stored hstored)
  have hnew := Finmap.lookup_eq_none.mp (lookup_of_stored hstored)
  rw [insertIfAbsent_eq, if_neg hrange, if_neg hnew] at hstored ⊢
  cases hkept : (s.write now key ⟨value, now + ttl⟩).2 with
  | true =>
    rw [hkept] at hwritten
    exact hwritten.lookup_self
  | false =>
    rw [hkept] at hstored
    cases hstored

/-- A key that is remembered can be inserted again only when its expiry has come. -/
theorem Remembers.le_of_stored (h : s.Remembers now key expiry)
    (hstored : (s.insertIfAbsent now key value ttl).2 = .stored) : expiry ≤ now := by
  by_contra hlt
  obtain ⟨e, he, -⟩ := h (Nat.not_le.mp hlt)
  rw [lookup_of_stored hstored] at he
  cases he

/-! ### What comes of an insertion -/

/-- Out of range an insertion breaks down. In range a key is found if it is live, and otherwise
stored as long as there is room. -/
theorem insertIfAbsent_snd (h : s.Within capacity .refuseNew) (httl : 0 < ttl) :
    (s.insertIfAbsent now key value ttl).2 =
      if Clock.limit ≤ now + ttl then .outOfRange
      else if key ∈ s.live now then .present
      else if (s.live now).keys.card < capacity then .stored else .full := by
  rw [insertIfAbsent_eq]
  split
  · rfl
  split
  · rfl
  · rename_i habsent
    have hwritten : (s.live now).Written capacity .refuseNew key ⟨value, now + ttl⟩ _ _ :=
      written_write h (isLive_of_lasts httl)
    -- The write is forgotten but for what it says of the live entries.
    generalize (s.write now key ⟨value, now + ttl⟩).2 = kept at hwritten ⊢
    generalize (s.write now key ⟨value, now + ttl⟩).1.live now = after at hwritten
    cases hwritten with
    | replaced present => exact absurd present habsent
    | added _ room => simp [room]
    | refused _ full _ => simp [Nat.not_lt.mpr full]
    | evicted _ _ policy => cases policy

/-- What is live after an insertion is what was live before, with the entry if it is stored. -/
theorem live_insertIfAbsent (h : s.Within capacity .refuseNew) (httl : 0 < ttl) :
    (s.insertIfAbsent now key value ttl).1.live now =
      if (s.insertIfAbsent now key value ttl).2 = .stored then
        (s.live now).insert key ⟨value, now + ttl⟩
      else s.live now := by
  rw [insertIfAbsent_eq]
  split
  · rfl
  split
  · rfl
  · rename_i habsent
    have hwritten : (s.live now).Written capacity .refuseNew key ⟨value, now + ttl⟩ _ _ :=
      written_write h (isLive_of_lasts httl)
    generalize (s.write now key ⟨value, now + ttl⟩).2 = kept at hwritten ⊢
    generalize (s.write now key ⟨value, now + ttl⟩).1.live now = after at hwritten ⊢
    cases hwritten with
    | replaced present => exact absurd present habsent
    | added => rfl
    | refused => rfl
    | evicted _ _ policy => cases policy

/-- What is live after an insertion was live before, or has been stored by it. -/
theorem lookup_insertIfAbsent (h : s.Within capacity .refuseNew) (httl : 0 < ttl)
    {e : Expiring V}
    (he : ((s.insertIfAbsent now key value ttl).1.live now).lookup k = some e) :
    (s.live now).lookup k = some e ∨
      (s.insertIfAbsent now key value ttl).2 = .stored ∧ k = key ∧ e = ⟨value, now + ttl⟩ := by
  rw [live_insertIfAbsent h httl] at he
  split at he
  · rename_i hstored
    rw [LiveMap.lookup_insert'] at he
    split at he
    · exact .inr ⟨hstored, Eq.symm ‹_›, (Option.some.inj he).symm⟩
    · exact .inl he
  · exact .inl he

/-! ### What the owner of a store does with it -/

/-- What a use at an instant makes of a store of which nothing is removed or replaced. -/
inductive Used (s : Store K V) (now : Nat) : Store K V → Prop where
  | untouched : Used s now s
  | inserted (key : K) (value : V) (ttl : Nat) (httl : 0 < ttl) :
    Used s now (s.insertIfAbsent now key value ttl).1
  | lookedUp (key : K) : Used s now (s.lookup now key).1
  | swept : Used s now (s.sweep now)

variable {s' : Store K V}

theorem Used.within (h : s.Used now s') (hwithin : s.Within capacity overflow) :
    s'.Within capacity overflow := by
  cases h with
  | untouched => exact hwithin
  | inserted key value ttl httl => exact hwithin.insertIfAbsent now key value ttl
  | lookedUp key => exact hwithin.lookup now key
  | swept => exact hwithin.sweep now

/-- A store that refuses new keys forgets nothing by being used. -/
theorem Used.remembers (h : s.Used now s') (hwithin : s.Within capacity .refuseNew)
    (hkey : s.Remembers now k expiry) : s'.Remembers now k expiry := by
  cases h with
  | untouched => exact hkey
  | inserted key value ttl httl => exact hkey.insertIfAbsent hwithin httl key value
  | lookedUp key => exact hkey.lookup key
  | swept => exact hkey.sweep

end Perimeter.Store
