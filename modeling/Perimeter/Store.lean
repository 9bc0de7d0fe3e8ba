import Perimeter.Assoc
import Perimeter.Clock

/-!
# `Perimeter.Store`: maps whose entries expire

The replay guard, the admission gate and the list of used tokens remember a key
for a while and never grow without bound. An entry is live until its expiry. An
expired entry may lie about until something removes it, but every answer is as if
it were gone.

A store over its capacity first drops what has expired. If all entries are live,
its policy decides: a store that guards against reuse refuses the new key, and a
store in which a lost entry only denies access drops the one closest to expiry.

How long a value is stored for is not limited. A write whose expiry would be an
instant that the machine has no number for breaks down, before the store is looked at.

* `size_sweep_le`, `size_evict_lt`: what lets the loop of `settle` end.
* `get?_sweep`: sweeping changes no live entry.
-/

set_option autoImplicit false

namespace Perimeter

/-- What a store full of live entries does with a new key. -/
inductive Overflow where
  /-- The new key is refused. No live entry is ever dropped. -/
  | refuseNew
  /-- The live entry closest to expiry is dropped. -/
  | evictEarliest
deriving DecidableEq

/-- What became of an insertion. -/
inductive Insertion where
  | stored
  /-- A live entry stands under the key already. -/
  | present
  /-- The store is full of live entries. -/
  | full
  /-- It broke down: the machine has no number for the expiry. -/
  | outOfRange
deriving DecidableEq

/-- A value and the instant from which it is gone. -/
structure Expiring (V : Type) where
  value : V
  expiresAt : Nat
deriving DecidableEq

namespace Expiring

variable {V : Type}

/-- Whether an entry is still there at an instant. -/
def isLive (now : Nat) (e : Expiring V) : Bool := now < e.expiresAt

end Expiring

/-- A bounded map of expiring entries. -/
structure Store (K V : Type) where
  /-- All entries, those that have expired and were not removed yet included. -/
  entries : List (K × Expiring V)
  nodup : (Assoc.keys entries).Nodup
  /-- The most entries that may lie in the store. -/
  capacity : Nat
  capacity_pos : 0 < capacity
  overflow : Overflow
  /-- The number of writes from one sweep of the whole store to the next. -/
  sweepEvery : Nat
  sweepEvery_pos : 0 < sweepEvery
  /-- The number of writes so far. -/
  writes : Nat

namespace Store

variable {K V : Type} [DecidableEq K]

/-- The number of writes between sweeps unless something else is asked for. -/
def defaultSweepEvery : Nat := 1000

/-- A store without entries. A capacity or an interval of zero counts as one. -/
def empty (capacity : Nat) (overflow : Overflow) (sweepEvery : Nat) : Store K V where
  entries := []
  nodup := List.nodup_nil
  capacity := max capacity 1
  capacity_pos := by omega
  overflow := overflow
  sweepEvery := max sweepEvery 1
  sweepEvery_pos := by omega
  writes := 0

/-- The number of entries, those expired included. -/
def size (s : Store K V) : Nat := s.entries.length

/-- Drops every entry that has expired. -/
def sweep (s : Store K V) (now : Nat) : Store K V :=
  { s with
    entries := s.entries.filter fun e => e.2.isLive now
    nodup := Assoc.nodup_filter s.nodup _ }

/-- How many entries a sweep drops. -/
def sweepCount (s : Store K V) (now : Nat) : Nat := s.size - (s.sweep now).size

/-- The entry of least expiry among those whose key is not `keep`. -/
def earliest? (s : Store K V) (keep : K) : Option (K × Expiring V) :=
  (s.entries.filter fun e => e.1 ≠ keep).foldl
    (fun best e => match best with
      | none => some e
      | some b => if e.2.expiresAt < b.2.expiresAt then some e else some b) none

/-- Removes what stands under a key. -/
def erase (s : Store K V) (key : K) : Store K V :=
  { s with entries := Assoc.erase s.entries key, nodup := Assoc.nodup_erase s.nodup key }

/-- Drops the entry of least expiry among those whose key is not `keep`. -/
def evict (s : Store K V) (keep : K) : Option (Store K V) :=
  (s.earliest? keep).map fun e => s.erase e.1

omit [DecidableEq K] in
theorem size_sweep_le (s : Store K V) (now : Nat) : (s.sweep now).size ≤ s.size :=
  List.length_filter_le _ _

omit [DecidableEq K] in
private theorem foldl_earliest_mem (l : List (K × Expiring V)) (best : Option (K × Expiring V))
    (e : K × Expiring V)
    (h : l.foldl (fun best e => match best with
      | none => some e
      | some b => if e.2.expiresAt < b.2.expiresAt then some e else some b) best = some e) :
    e ∈ l ∨ best = some e := by
  induction l generalizing best with
  | nil => exact .inr h
  | cons a rest ih =>
    rcases ih _ h with hmem | hbest
    · exact .inl (List.mem_cons_of_mem _ hmem)
    · cases best with
      | none => exact .inl (by simp_all)
      | some b =>
        simp only at hbest
        split at hbest
        · exact .inl (by simp_all)
        · exact .inr hbest

theorem mem_of_earliest? {s : Store K V} {keep : K} {e : K × Expiring V}
    (h : s.earliest? keep = some e) : e ∈ s.entries ∧ e.1 ≠ keep := by
  rcases foldl_earliest_mem _ _ _ h with hmem | hnone
  · simpa using List.mem_filter.mp hmem
  · cases hnone

theorem size_evict_lt {s s' : Store K V} {keep : K} (h : s.evict keep = some s') :
    s'.size < s.size := by
  obtain ⟨e, he, rfl⟩ := Option.map_eq_some_iff.mp h
  have hmem := (mem_of_earliest? he).1
  simp only [size, erase, Assoc.erase]
  exact List.length_filter_lt_length_iff_exists.mpr ⟨e, hmem, by simp⟩

/-- Brings a store under its capacity after a write under `key`, which has added an
entry if `grew` says so. Expired entries go first. The answer tells whether the
written entry may stay. -/
def settle (s : Store K V) (now : Nat) (key : K) (grew : Bool) : Store K V × Bool :=
  if s.size ≤ s.capacity then (s, true)
  -- Something has expired: once that is gone there may be room.
  else if (s.sweep now).size < s.size then (s.sweep now).settle now key grew
  -- All entries are live from here on.
  else match s.overflow with
    | .refuseNew => (s, !grew)
    | .evictEarliest => match _h : s.evict key with
      | none => (s, true)
      | some smaller => smaller.settle now key grew
termination_by s.size
decreasing_by
  · assumption
  · exact size_evict_lt (by assumption)

/-- Counts a write and sweeps when it is time to. -/
def countWrite (s : Store K V) (now : Nat) : Store K V :=
  let counted := { s with writes := s.writes + 1 }
  if counted.writes % counted.sweepEvery = 0 then counted.sweep now else counted

/-- Makes room after a write under `key`. -/
def makeRoom (s : Store K V) (now : Nat) (key : K) (grew : Bool) : Store K V × Bool :=
  (s.countWrite now).settle now key grew

/-- Takes back an entry just written, recognised by its expiry. -/
def takeBack (s : Store K V) (key : K) (expiresAt : Nat) : Store K V :=
  { s with
    entries := s.entries.filter fun e => !(e.1 = key && e.2.expiresAt = expiresAt)
    nodup := Assoc.nodup_filter s.nodup _ }

/-- Writes an entry, whatever room there is. -/
def put (s : Store K V) (key : K) (entry : Expiring V) : Store K V :=
  { s with entries := Assoc.put s.entries key entry, nodup := Assoc.nodup_put s.nodup key entry }

/-- Writes an entry and makes room for it. The answer tells whether it is stored. -/
def write (s : Store K V) (now : Nat) (key : K) (entry : Expiring V) : Store K V × Bool :=
  -- A write in place of another, even an expired one, adds no entry.
  let grew := (Assoc.get? s.entries key).isNone
  match (s.put key entry).makeRoom now key grew with
  | (room, true) => (room, true)
  | (room, false) => (room.takeBack key entry.expiresAt, false)

/-- Stores a value for `ttl` unless a live entry stands under the key. -/
def insertIfAbsent (s : Store K V) (now : Nat) (key : K) (value : V) (ttl : Nat) :
    Store K V × Insertion :=
  -- The expiry is worked out first, even where it turns out not to be needed.
  if Clock.limit ≤ now + ttl then (s, .outOfRange)
  else if (Assoc.get? s.entries key).any (·.isLive now) then (s, .present)
  else match s.write now key ⟨value, now + ttl⟩ with
    | (s', true) => (s', .stored)
    | (s', false) => (s', .full)

/-- Stores a value for `ttl` in place of any under the key. The answer is false if the
key was new and is refused. There is none if the write broke down. -/
def upsert (s : Store K V) (now : Nat) (key : K) (value : V) (ttl : Nat) :
    Store K V × Option Bool :=
  if Clock.limit ≤ now + ttl then (s, none)
  else match s.write now key ⟨value, now + ttl⟩ with
    | (s', stored) => (s', some stored)

/-- The live value under a key. -/
def get? (s : Store K V) (now : Nat) (key : K) : Option V :=
  match Assoc.get? s.entries key with
  | some e => if e.isLive now then some e.value else none
  | none => none

/-- Looks a key up and removes an entry that has expired. -/
def lookup (s : Store K V) (now : Nat) (key : K) : Store K V × Option V :=
  match Assoc.get? s.entries key with
  | some e => if e.isLive now then (s, some e.value) else (s.erase key, none)
  | none => (s, none)

/-- Removes an entry and answers its value if it was live. -/
def take (s : Store K V) (now : Nat) (key : K) : Store K V × Option V :=
  (s.erase key, s.get? now key)

/-- Only entries that have expired are swept, and those are not seen anyway. -/
theorem get?_sweep (s : Store K V) (now : Nat) (key : K) :
    (s.sweep now).get? now key = s.get? now key := by
  unfold get? sweep
  rw [Assoc.get?_filter s.nodup]
  cases Assoc.get? s.entries key with
  | none => rfl
  | some e => by_cases he : e.isLive now <;> simp [Option.filter, he]

theorem lookup_snd (s : Store K V) (now : Nat) (key : K) :
    (s.lookup now key).2 = s.get? now key := by
  unfold lookup get?
  split
  · split <;> rfl
  · rfl

end Store

end Perimeter
