import Mathlib.Data.Finmap
import Perimeter.Store

/-!
# `Perimeter.Proofs.Store.Live`: the live entries of a store

A store may hold entries that have expired. No answer shows them, so the meaning of a
store at an instant is the finite map of its live entries. `Store.live` is that map. The
theorems say what each small operation does to it:

* `live_sweep`: a sweep is not seen.
* `live_put`, `live_erase`: a write and a removal are seen under their key alone.
* `live_later`: when time passes, the entries whose expiry has come are gone, and nothing
  else changes.
* `card_live`: the live entries are as many as the entries that a sweep leaves.
-/

set_option autoImplicit false

namespace Perimeter

/-- A finite map of entries that expire. -/
abbrev LiveMap (K V : Type) : Type := Finmap fun _ : K => Expiring V

namespace LiveMap

variable {K V : Type} [DecidableEq K]

/-- The map of some entries. Of two under the same key the first counts. -/
def ofEntries (entries : List (K × Expiring V)) : LiveMap K V :=
  Finmap.keysLookupEquiv.symm ⟨((Assoc.keys entries).toFinset, Assoc.get? entries), fun k => by
    rw [Option.isSome_iff_ne_none, ne_eq, Assoc.get?_eq_none_iff, not_not, List.mem_toFinset]⟩

/-- What is left of a map at an instant. -/
def liveAt (m : LiveMap K V) (now : Nat) : LiveMap K V :=
  Finmap.keysLookupEquiv.symm
    ⟨(m.keys.filter fun k => (m.lookup k).any (·.isLive now),
      fun k => (m.lookup k).filter (·.isLive now)), fun k => by
    cases h : m.lookup k with
    | none => simp [h]
    | some e => simp [h, Finmap.mem_keys, Finmap.mem_of_lookup_eq_some h]⟩

@[simp] theorem keys_ofEntries (entries : List (K × Expiring V)) :
    (ofEntries entries).keys = (Assoc.keys entries).toFinset := by
  simp [ofEntries]

@[simp] theorem lookup_ofEntries (entries : List (K × Expiring V)) (k : K) :
    (ofEntries entries).lookup k = Assoc.get? entries k := by
  simp [ofEntries]

@[simp] theorem lookup_liveAt (m : LiveMap K V) (now : Nat) (k : K) :
    (m.liveAt now).lookup k = (m.lookup k).filter (·.isLive now) := by
  simp [liveAt]

/-- A look-up after a write, under any key. -/
theorem lookup_insert' (m : LiveMap K V) (k k' : K) (e : Expiring V) :
    (m.insert k e).lookup k' = if k = k' then some e else m.lookup k' := by
  by_cases h : k = k'
  · subst h
    rw [Finmap.lookup_insert, if_pos rfl]
  · rw [Finmap.lookup_insert_of_ne _ (Ne.symm h), if_neg h]

/-- A look-up after a removal, under any key. -/
theorem lookup_erase' (m : LiveMap K V) (k k' : K) :
    (m.erase k).lookup k' = if k = k' then none else m.lookup k' := by
  by_cases h : k = k'
  · subst h
    rw [Finmap.lookup_erase, if_pos rfl]
  · rw [Finmap.lookup_erase_ne (Ne.symm h), if_neg h]

/-- A write under one key and a removal under another can change places. -/
theorem erase_insert_of_ne (m : LiveMap K V) {k k' : K} (e : Expiring V) (h : k' ≠ k) :
    (m.insert k e).erase k' = (m.erase k').insert k e := by
  apply Finmap.ext_lookup
  intro x
  simp only [lookup_insert', lookup_erase']
  by_cases hx : k = x
  · subst hx
    rw [if_neg h, if_pos rfl, if_pos rfl]
  · rw [if_neg hx, if_neg hx]

/-- A write under a new key is undone by its removal. -/
theorem erase_insert_of_not_mem {m : LiveMap K V} {k : K} (e : Expiring V) (h : k ∉ m) :
    (m.insert k e).erase k = m := by
  apply Finmap.ext_lookup
  intro x
  simp only [lookup_insert', lookup_erase']
  by_cases hx : k = x
  · subst hx
    rw [if_pos rfl, Finmap.lookup_eq_none.mpr h]
  · rw [if_neg hx, if_neg hx]

/-- The removal of what is not there changes nothing. -/
theorem erase_of_not_mem {m : LiveMap K V} {k : K} (h : k ∉ m) : m.erase k = m := by
  apply Finmap.ext_lookup
  intro x
  rw [lookup_erase']
  by_cases hx : k = x
  · subst hx
    rw [if_pos rfl, Finmap.lookup_eq_none.mpr h]
  · rw [if_neg hx]

/-- What stands under the key of a write might as well be removed before. -/
theorem insert_erase (m : LiveMap K V) (k : K) (e : Expiring V) :
    (m.erase k).insert k e = m.insert k e := by
  apply Finmap.ext_lookup
  intro x
  simp only [lookup_insert', lookup_erase']
  split <;> rfl

theorem card_erase_lt {m : LiveMap K V} {k : K} (h : k ∈ m) :
    (m.erase k).keys.card < m.keys.card := by
  rw [Finmap.keys_erase]
  exact Finset.card_erase_lt_of_mem (Finmap.mem_keys.mpr h)

/-- A write under a new key adds one to the number of keys. -/
theorem card_insert_of_not_mem {m : LiveMap K V} {k : K} (e : Expiring V) (h : k ∉ m) :
    (m.insert k e).keys.card = m.keys.card + 1 := by
  have hkeys : (m.insert k e).keys = insert k m.keys := by
    ext x
    rw [Finmap.mem_keys, Finmap.mem_insert, Finset.mem_insert, Finmap.mem_keys]
  rw [hkeys, Finset.card_insert_of_notMem (by rwa [Finmap.mem_keys])]

end LiveMap

namespace Store

variable {K V : Type} [DecidableEq K]

/-- The live entries of a store at an instant. -/
def live (s : Store K V) (now : Nat) : LiveMap K V := LiveMap.ofEntries (s.sweep now).entries

/-- A look-up among the live entries. -/
theorem lookup_live (s : Store K V) (now : Nat) (k : K) :
    (s.live now).lookup k = (Assoc.get? s.entries k).filter (·.isLive now) := by
  rw [live, LiveMap.lookup_ofEntries, sweep, Assoc.get?_filter s.nodup]

/-- The value of a live entry is what a look-up answers. -/
theorem get?_eq_live (s : Store K V) (now : Nat) (k : K) :
    s.get? now k = ((s.live now).lookup k).map (·.value) := by
  rw [lookup_live, get?]
  cases Assoc.get? s.entries k with
  | none => rfl
  | some e => by_cases he : e.isLive now <;> simp [Option.filter, he]

/-- A key is live if and only if the entry that stands under it is. -/
theorem mem_live_iff (s : Store K V) (now : Nat) (k : K) :
    k ∈ s.live now ↔ (Assoc.get? s.entries k).any (·.isLive now) := by
  rw [← Finmap.lookup_isSome, lookup_live]
  cases Assoc.get? s.entries k with
  | none => simp
  | some e => by_cases he : e.isLive now <;> simp [Option.filter, he]

/-- What is found alive at an instant expires after it. -/
theorem lt_expiresAt_of_lookup_live {s : Store K V} {now : Nat} {k : K} {e : Expiring V}
    (h : (s.live now).lookup k = some e) : now < e.expiresAt := by
  rw [lookup_live, Option.filter_eq_some_iff] at h
  simpa [Expiring.isLive] using h.2

/-- The live entries are as many as the entries that a sweep leaves. -/
theorem card_live (s : Store K V) (now : Nat) :
    (s.live now).keys.card = (s.sweep now).size := by
  rw [live, LiveMap.keys_ofEntries, List.toFinset_card_of_nodup (s.sweep now).nodup]
  simp [Assoc.keys, size]

/-- There are no more live entries than entries. -/
theorem card_live_le (s : Store K V) (now : Nat) : (s.live now).keys.card ≤ s.size := by
  rw [card_live]
  exact size_sweep_le s now

/-- A store without entries means the empty map. -/
theorem live_empty (capacity : Nat) (overflow : Overflow) (sweepEvery now : Nat) :
    (empty capacity overflow sweepEvery : Store K V).live now = ∅ := by
  apply Finmap.ext_lookup
  intro k
  rw [lookup_live, Finmap.lookup_empty]
  rfl

/-- A sweep is not seen. -/
theorem live_sweep (s : Store K V) (now : Nat) : (s.sweep now).live now = s.live now := by
  apply Finmap.ext_lookup
  intro k
  rw [lookup_live, lookup_live, sweep, Assoc.get?_filter s.nodup, Option.filter_filter]
  simp

/-- When time passes, the entries whose expiry has come are gone. -/
theorem live_later (s : Store K V) {now later : Nat} (h : now ≤ later) :
    s.live later = (s.live now).liveAt later := by
  apply Finmap.ext_lookup
  intro k
  rw [LiveMap.lookup_liveAt, lookup_live, lookup_live, Option.filter_filter]
  -- What is live later is live now, so the first of the two filters does nothing.
  congr 1
  funext e
  simp only [Expiring.isLive, ← Bool.decide_and]
  exact decide_eq_decide.mpr (by omega)

/-- A removal is seen under its key alone. -/
theorem live_erase (s : Store K V) (now : Nat) (k : K) :
    (s.erase k).live now = (s.live now).erase k := by
  apply Finmap.ext_lookup
  intro x
  rw [LiveMap.lookup_erase', lookup_live, lookup_live, erase, Assoc.get?_erase]
  by_cases hx : k = x
  · rw [if_pos hx, if_pos hx]
    rfl
  · rw [if_neg hx, if_neg hx]

/-- The write of a live entry is seen under its key alone. -/
theorem live_put (s : Store K V) {now : Nat} (k : K) {e : Expiring V} (h : e.isLive now) :
    (s.put k e).live now = (s.live now).insert k e := by
  apply Finmap.ext_lookup
  intro x
  rw [LiveMap.lookup_insert', lookup_live, lookup_live, put, Assoc.get?_put]
  by_cases hx : k = x
  · rw [if_pos hx, if_pos hx, Option.filter_some, if_pos h]
  · rw [if_neg hx, if_neg hx]

/-- The removal of an entry that has expired is not seen. -/
theorem live_erase_of_not_mem {s : Store K V} {now : Nat} {k : K} (h : k ∉ s.live now) :
    (s.erase k).live now = s.live now := by
  rw [live_erase]
  exact LiveMap.erase_of_not_mem h

/-- A look-up that removes an entry which has expired is not seen. -/
theorem live_lookup (s : Store K V) (now : Nat) (k : K) :
    (s.lookup now k).1.live now = s.live now := by
  unfold lookup
  split
  · rename_i e he
    split
    · rfl
    -- The entry is removed, but it had expired.
    · rename_i hdead
      apply live_erase_of_not_mem
      rw [mem_live_iff, he]
      simpa using hdead
  · rfl

end Store

end Perimeter
