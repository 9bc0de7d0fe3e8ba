import Perimeter.Proofs.Store.Memory

/-!
# `Perimeter.Proofs.Store.Entries`: what an insertion leaves of the entries

The live entries of a store are what its answers show. Here the entries themselves are looked
at, those that have expired and were not removed yet included. They take up room, so it matters
that whoever is refused cannot move them.

A refused insertion writes its entry first and takes it back at the end, with up to two sweeps
in between. It leaves the entries as they were for two reasons. A sweep that drops an entry makes
room, and then nothing is refused. And a new entry stands after all others, so that taking it
back leaves the list of the others.

* `Within.entries_write_of_refused`: a refused write leaves every entry in its place.
* `entries_insertIfAbsent`: so does every insertion that does not store.
* `KeepsLive`: an entry is as it was, or it had expired and is gone.
* `keepsLive_insertIfAbsent`: an insertion keeps every entry under another key in this sense.
-/

set_option autoImplicit false

namespace Perimeter

namespace Assoc

variable {K V : Type} [DecidableEq K] {m : List (K × V)} {k : K}

/-- What is stored under a new key goes after all others. -/
theorem put_of_get?_eq_none (h : get? m k = none) (v : V) : put m k v = m ++ [(k, v)] := by
  induction m with
  | nil => rfl
  | cons e rest ih => grind [get?, put]

end Assoc

namespace Store

variable {K V : Type} [DecidableEq K] {s s' s'' : Store K V} {capacity : Nat}
  {overflow : Overflow} {now : Nat} {key k : K} {entry : Expiring V} {value : V} {ttl : Nat}

/-! ### What is refused -/

theorem entries_put (s : Store K V) (key : K) (entry : Expiring V) :
    (s.put key entry).entries = Assoc.put s.entries key entry := rfl

theorem entries_takeBack (s : Store K V) (key : K) (expiresAt : Nat) :
    (s.takeBack key expiresAt).entries =
      s.entries.filter fun e => !(e.1 = key && e.2.expiresAt = expiresAt) := rfl

/-- A refused write leaves every entry in its place. -/
theorem Within.entries_write_of_refused (h : s.Within capacity overflow)
    (hrefused : (s.write now key entry).2 = false) :
    (s.write now key entry).1.entries = s.entries := by
  rcases write_cases (h.size_le.trans_eq h.capacity_eq.symm) now key entry with
    ⟨-, he⟩ | ⟨-, he⟩ | ⟨hfull, -, -, he⟩ | ⟨-, -, -, e, -, he⟩
  -- Only a write that is taken back is refused.
  · rw [he] at hrefused
    cases hrefused
  · rw [he] at hrefused
    cases hrefused
  · have hnew := (get?_of_overfull (h.size_le.trans_eq h.capacity_eq.symm) hfull).1
    -- The count has dropped nothing, or there would be room.
    have hkept : ((s.put key entry).countWrite now).size = (s.put key entry).size := by
      have hle := size_countWrite_le (s.put key entry) now
      have hgrown := size_put s key entry
      have hroom := h.size_le.trans_eq h.capacity_eq.symm
      split at hgrown <;> omega
    have habsent : ∀ e ∈ s.entries, e.1 ≠ key := fun e he heq =>
      Assoc.get?_eq_none_iff.mp hnew (heq ▸ List.mem_map_of_mem he)
    have hothers : s.entries.filter (fun e =>
        !(e.1 = key && e.2.expiresAt = entry.expiresAt)) = s.entries :=
      List.filter_eq_self.mpr fun e he => by simp [habsent e he]
    rw [he, entries_takeBack, entries_countWrite hkept, entries_put, Assoc.put_of_get?_eq_none hnew,
      List.filter_append, hothers]
    simp
  · rw [he] at hrefused
    cases hrefused

/-- An insertion that does not store leaves every entry in its place. -/
theorem Within.entries_insertIfAbsent (h : s.Within capacity overflow)
    (hnot : (s.insertIfAbsent now key value ttl).2 ≠ .stored) :
    (s.insertIfAbsent now key value ttl).1.entries = s.entries := by
  rw [insertIfAbsent_eq] at hnot ⊢
  split at hnot
  · rw [if_pos ‹_›]
  rw [if_neg ‹_›]
  split at hnot
  · rw [if_pos ‹_›]
  · rw [if_neg ‹_›]
    refine h.entries_write_of_refused (Bool.eq_false_iff.mpr fun hkept => ?_)
    rw [hkept] at hnot
    exact hnot rfl

/-! ### What is stored -/

/-- Of an entry that stood under the key, or of none: it is as it was, or it had expired and is
gone. -/
def KeepsLive (s s' : Store K V) (now : Nat) (k : K) : Prop :=
  Assoc.get? s'.entries k = Assoc.get? s.entries k ∨
    (Assoc.get? s'.entries k = none ∧
      ∃ e, Assoc.get? s.entries k = some e ∧ e.expiresAt ≤ now)

omit [DecidableEq K] in
private theorem not_isLive_iff {e : Expiring V} : ¬ e.isLive now ↔ e.expiresAt ≤ now := by
  simp [Expiring.isLive]

theorem KeepsLive.trans (h : s.KeepsLive s' now k) (h' : s'.KeepsLive s'' now k) :
    s.KeepsLive s'' now k := by
  rcases h' with hsame | ⟨hgone, e, he, hexpired⟩
  · rw [KeepsLive, hsame]
    exact h
  · rcases h with hsame | ⟨hnone, -⟩
    · exact .inr ⟨hgone, e, hsame ▸ he, hexpired⟩
    · rw [hnone] at he
      cases he

theorem keepsLive_sweep (s : Store K V) (now : Nat) (k : K) :
    s.KeepsLive (s.sweep now) now k := by
  unfold KeepsLive
  rw [sweep, Assoc.get?_filter s.nodup]
  cases hfound : Assoc.get? s.entries k with
  | none => exact .inl rfl
  | some e =>
    by_cases hlive : e.isLive now
    · exact .inl (by rw [Option.filter_some, if_pos hlive])
    · exact .inr ⟨by rw [Option.filter_some, if_neg hlive], e, rfl, not_isLive_iff.mp hlive⟩

theorem keepsLive_countWrite (s : Store K V) (now : Nat) (k : K) :
    s.KeepsLive (s.countWrite now) now k := by
  rcases countWrite_cases s now with h | h
  · exact .inl (by rw [h])
  · rw [KeepsLive, h]
    exact keepsLive_sweep s now k

/-- A write leaves the entries under other keys alone, if the store refuses new keys: it drops
only what has expired. -/
theorem keepsLive_write (h : s.Within capacity .refuseNew) (hk : k ≠ key) :
    s.KeepsLive (s.write now key entry).1 now k := by
  have hput : s.KeepsLive (s.put key entry) now k :=
    .inl (by rw [entries_put, Assoc.get?_put, if_neg (Ne.symm hk)])
  have hcounted := hput.trans (keepsLive_countWrite (s.put key entry) now k)
  rcases write_cases (h.size_le.trans_eq h.capacity_eq.symm) now key entry with
    ⟨-, he⟩ | ⟨-, he⟩ | ⟨-, -, -, he⟩ | ⟨-, -, hpolicy, -⟩
  · rw [he]
    exact hcounted
  · rw [he]
    exact hcounted.trans (keepsLive_sweep _ now k)
  · exact .inl (by rw [h.entries_write_of_refused (by rw [he])])
  · cases h.overflow_eq.symm.trans hpolicy

/-- An insertion leaves the entries under other keys alone. -/
theorem keepsLive_insertIfAbsent (h : s.Within capacity .refuseNew) (hk : k ≠ key) :
    s.KeepsLive (s.insertIfAbsent now key value ttl).1 now k := by
  rw [insertIfAbsent_eq]
  split
  · exact .inl rfl
  · split
    · exact .inl rfl
    · exact keepsLive_write h hk

/-- What an insertion has stored stands under its key. -/
theorem get?_of_stored (h : s.Within capacity .refuseNew) (httl : 0 < ttl)
    (hstored : (s.insertIfAbsent now key value ttl).2 = .stored) :
    Assoc.get? (s.insertIfAbsent now key value ttl).1.entries key = some ⟨value, now + ttl⟩ := by
  have hlive : (s.insertIfAbsent now key value ttl).1.live now =
      (s.live now).insert key ⟨value, now + ttl⟩ := by
    rw [live_insertIfAbsent h httl, if_pos hstored]
  have hfound : ((s.insertIfAbsent now key value ttl).1.live now).lookup key =
      some ⟨value, now + ttl⟩ := by
    rw [hlive, LiveMap.lookup_insert', if_pos rfl]
  rw [lookup_live, Option.filter_eq_some_iff] at hfound
  exact hfound.1

end Store

end Perimeter
