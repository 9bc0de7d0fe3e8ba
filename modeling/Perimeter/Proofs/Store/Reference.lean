import Perimeter.Proofs.Store.Live

/-!
# `Perimeter.Proofs.Store.Reference`: a map that has no expired entries

This module says what a bounded map of expiring entries should do, without any word on how
a store does it. The state is a finite map of live entries and the present instant.
`LiveMap.Step` relates the map before an operation to the answer and the map after it.

The one choice is left open: a full map that may evict drops an entry of least expiry, and
nothing says which one if there are several.

A map knows no bounds of time, and a machine does. So a run (`LiveMap.Run`) has two kinds of
steps: an operation whose expiry is an instant of the machine is a step of the map, and any other
breaks down and leaves the map as it is.

* `Written.lookup_cases`: what is found after a write is the entry written or was there before.
* `Written.lookup_of_refuseNew`: a map that refuses new keys loses nothing to a write.
* `Written.lookup_of_evictEarliest`: a map that evicts keeps every write.
* `Written.eq_of_evictEarliest`: and it loses one entry at most, to make room.
-/

set_option autoImplicit false

namespace Perimeter

/-- What is asked of a store, and the passing of time. -/
inductive Store.Operation (K V : Type) where
  | insertIfAbsent (key : K) (value : V) (ttl : Nat)
  | upsert (key : K) (value : V) (ttl : Nat)
  | get (key : K)
  | contains (key : K)
  | remove (key : K)
  | sweep
  | advance (ms : Nat)

/-- What a store answers. -/
inductive Store.Reply (V : Type) where
  | insertion (outcome : Insertion)
  /-- Nothing if the write broke down. -/
  | written (kept : Option Bool)
  | value (found : Option V)
  | membership (found : Bool)
  | nothing

namespace Store.Operation

variable {K V : Type}

/-- The instant after an operation. Only the passing of time moves it, and never back. -/
def after (now : Nat) : Operation K V → Nat
  | advance ms => now + ms
  | _ => now

/-- Whether an entry that the operation writes is to last for a while. -/
def Lasts : Operation K V → Prop
  | insertIfAbsent _ _ ttl => 0 < ttl
  | upsert _ _ ttl => 0 < ttl
  | _ => True

instance : DecidablePred (Lasts : Operation K V → Prop)
  | insertIfAbsent _ _ ttl => inferInstanceAs (Decidable (0 < ttl))
  | upsert _ _ ttl => inferInstanceAs (Decidable (0 < ttl))
  | get _ | contains _ | remove _ | sweep | advance _ => inferInstanceAs (Decidable True)

/-- Whether the expiry of what the operation writes is an instant of the machine. -/
def InRange (now : Nat) : Operation K V → Prop
  | insertIfAbsent _ _ ttl => now + ttl < Clock.limit
  | upsert _ _ ttl => now + ttl < Clock.limit
  | _ => True

end Store.Operation

/-- Whether an answer is none, because the operation broke down. -/
def Store.Reply.IsBreakdown {V : Type} : Store.Reply V → Prop
  | insertion outcome => outcome = .outOfRange
  | written kept => kept = none
  | _ => False

namespace LiveMap

variable {K V : Type} [DecidableEq K]

/-- No entry of the map expires before the one under the key. -/
def IsEarliest (m : LiveMap K V) (key : K) : Prop :=
  ∃ e, m.lookup key = some e ∧ ∀ k e', m.lookup k = some e' → e.expiresAt ≤ e'.expiresAt

/-- What a write makes of a map that has room for so many entries, and whether it is kept. -/
inductive Written (capacity : Nat) (overflow : Overflow) (m : LiveMap K V) (key : K)
    (entry : Expiring V) : LiveMap K V → Bool → Prop where
  | replaced (present : key ∈ m) : Written capacity overflow m key entry (m.insert key entry) true
  | added (absent : key ∉ m) (room : m.keys.card < capacity) :
    Written capacity overflow m key entry (m.insert key entry) true
  | refused (absent : key ∉ m) (full : capacity ≤ m.keys.card) (policy : overflow = .refuseNew) :
    Written capacity overflow m key entry m false
  | evicted (absent : key ∉ m) (full : capacity ≤ m.keys.card)
    (policy : overflow = .evictEarliest) (victim : K) (earliest : m.IsEarliest victim) :
    Written capacity overflow m key entry ((m.erase victim).insert key entry) true

/-- What an operation at an instant makes of a map, and what it answers. -/
inductive Step (capacity : Nat) (overflow : Overflow) (now : Nat) (m : LiveMap K V) :
    Store.Operation K V → Store.Reply V → LiveMap K V → Prop where
  | present {key : K} {value : V} {ttl : Nat} (present : key ∈ m) :
    Step capacity overflow now m (.insertIfAbsent key value ttl) (.insertion .present) m
  | inserted {key : K} {value : V} {ttl : Nat} {m' : LiveMap K V} {kept : Bool} (absent : key ∉ m)
    (written : m.Written capacity overflow key ⟨value, now + ttl⟩ m' kept) :
    Step capacity overflow now m (.insertIfAbsent key value ttl)
      (.insertion (if kept then .stored else .full)) m'
  | upserted {key : K} {value : V} {ttl : Nat} {m' : LiveMap K V} {kept : Bool}
    (written : m.Written capacity overflow key ⟨value, now + ttl⟩ m' kept) :
    Step capacity overflow now m (.upsert key value ttl) (.written (some kept)) m'
  | got {key : K} :
    Step capacity overflow now m (.get key) (.value ((m.lookup key).map (·.value))) m
  | contained {key : K} :
    Step capacity overflow now m (.contains key) (.membership (m.lookup key).isSome) m
  | removed {key : K} :
    Step capacity overflow now m (.remove key) (.value ((m.lookup key).map (·.value)))
      (m.erase key)
  | swept : Step capacity overflow now m .sweep .nothing m
  | advanced {ms : Nat} :
    Step capacity overflow now m (.advance ms) .nothing (m.liveAt (now + ms))

/-- A run from a map at an instant: the operations, each with its answer and the map after
it. Those out of range break down, and no others do. -/
inductive Run (capacity : Nat) (overflow : Overflow) : Nat → LiveMap K V →
    List (Store.Operation K V × Store.Reply V × LiveMap K V) → Prop where
  | nil {now : Nat} {m : LiveMap K V} : Run capacity overflow now m []
  | cons {now : Nat} {m m' : LiveMap K V} {op : Store.Operation K V} {reply : Store.Reply V}
    {rest : List (Store.Operation K V × Store.Reply V × LiveMap K V)}
    (range : op.InRange now) (step : m.Step capacity overflow now op reply m')
    (run : Run capacity overflow (op.after now) m' rest) :
    Run capacity overflow now m ((op, reply, m') :: rest)
  | brokeDown {now : Nat} {m : LiveMap K V} {op : Store.Operation K V} {reply : Store.Reply V}
    {rest : List (Store.Operation K V × Store.Reply V × LiveMap K V)}
    (range : ¬ op.InRange now) (breakdown : reply.IsBreakdown)
    (run : Run capacity overflow now m rest) :
    Run capacity overflow now m ((op, reply, m) :: rest)

variable {capacity : Nat} {overflow : Overflow} {m m' : LiveMap K V} {key : K}
  {entry : Expiring V} {kept : Bool}

/-- What is found after a write is the entry written, under its key, or was there before. -/
theorem Written.lookup_cases (h : m.Written capacity overflow key entry m' kept) {k : K}
    {e : Expiring V} (he : m'.lookup k = some e) :
    (k = key ∧ e = entry) ∨ (m.lookup k = some e ∧ (k = key → kept = false)) := by
  cases h with
  | replaced | added =>
    rw [lookup_insert'] at he
    split at he
    · exact .inl ⟨Eq.symm ‹_›, (Option.some.inj he).symm⟩
    · exact .inr ⟨he, fun hk => absurd hk.symm ‹_›⟩
  | refused => exact .inr ⟨he, fun _ => rfl⟩
  | evicted _ _ _ victim =>
    rw [lookup_insert', lookup_erase'] at he
    split at he
    · exact .inl ⟨Eq.symm ‹_›, (Option.some.inj he).symm⟩
    · split at he
      · cases he
      · exact .inr ⟨he, fun hk => absurd hk.symm ‹_›⟩

/-- A write that is kept is found. -/
theorem Written.lookup_self (h : m.Written capacity overflow key entry m' true) :
    m'.lookup key = some entry := by
  cases h <;> rw [lookup_insert', if_pos rfl]

/-- A map that refuses new keys loses nothing to a write under another key. -/
theorem Written.lookup_of_refuseNew (h : m.Written capacity .refuseNew key entry m' kept) {k : K}
    (hk : k ≠ key) : m'.lookup k = m.lookup k := by
  cases h with
  | replaced | added => rw [lookup_insert', if_neg (Ne.symm hk)]
  | refused => rfl
  | evicted _ _ policy => cases policy

/-- A map that evicts keeps every write. -/
theorem Written.lookup_self_of_evictEarliest
    (h : m.Written capacity .evictEarliest key entry m' kept) : m'.lookup key = some entry := by
  cases h with
  | replaced | added | evicted => rw [lookup_insert', if_pos rfl]
  | refused _ _ policy => cases policy

/-- A map that evicts keeps every write, so what is found under another key was there before
and what is found under the key is new. -/
theorem Written.lookup_of_evictEarliest (h : m.Written capacity .evictEarliest key entry m' kept)
    {k : K} {e : Expiring V} (he : m'.lookup k = some e) :
    (k = key ∧ e = entry) ∨ (k ≠ key ∧ m.lookup k = some e) := by
  rcases h.lookup_cases he with hnew | ⟨hold, hkey⟩
  · exact .inl hnew
  · refine .inr ⟨fun hk => ?_, hold⟩
    rw [hkey hk] at h
    cases h with
    | refused _ _ policy => cases policy

/-- A map that evicts keeps all entries under other keys if there is room for another. If there
is none, one of those that expire first is gone. -/
theorem Written.eq_of_evictEarliest (h : m.Written capacity .evictEarliest key entry m' kept)
    (hsize : m.keys.card ≤ capacity) :
    ((m.erase key).keys.card < capacity → m' = (m.erase key).insert key entry) ∧
    (capacity ≤ (m.erase key).keys.card → ∃ victim, LiveMap.IsEarliest (m.erase key) victim ∧
      m' = ((m.erase key).erase victim).insert key entry) := by
  cases h with
  | replaced present =>
    have hroom := (card_erase_lt present).trans_le hsize
    exact ⟨fun _ => (insert_erase m key entry).symm, fun hfull => absurd hroom (by omega)⟩
  | added absent room =>
    rw [erase_of_not_mem absent]
    exact ⟨fun _ => rfl, fun hfull => absurd room (by omega)⟩
  | refused _ _ policy => cases policy
  | evicted absent full _ victim earliest =>
    rw [erase_of_not_mem absent]
    exact ⟨fun hroom => absurd hroom (by omega), fun _ => ⟨victim, earliest, rfl⟩⟩

/-- A write is kept while the map has room, whether the key is new or not. -/
theorem written_of_room (h : (m.insert key entry).keys.card ≤ capacity) :
    m.Written capacity overflow key entry (m.insert key entry) true := by
  by_cases hmem : key ∈ m
  · exact .replaced hmem
  · rw [card_insert_of_not_mem entry hmem] at h
    exact .added hmem h

end LiveMap

end Perimeter
