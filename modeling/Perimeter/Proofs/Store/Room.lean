import Perimeter.Proofs.Store.Reference

/-!
# `Perimeter.Proofs.Store.Room`: how a store makes room

A store writes first and makes room afterwards. It sweeps now and then, it sweeps when it
is over its capacity, and then it evicts or takes the write back. `settle_cases` lists what
can come of this. The write adds at most one entry, so the loop of `settle` has nothing more
to do after its first turn.

* `earliest?_le`: the entry that an eviction picks expires first among those it may pick.
* `Within.write`: a store within its capacity stays within it, whatever it writes.
* `written_write`: the live entries after a write are what `LiveMap.Written` says.
-/

set_option autoImplicit false

namespace Perimeter.Store

variable {K V : Type} [DecidableEq K]

/-! ### The entry that an eviction picks -/

omit [DecidableEq K] in
/-- The pick among some entries and one picked before expires no later than any of them. -/
private theorem foldl_earliest_le (l : List (K × Expiring V)) (best : Option (K × Expiring V)) :
    ∃ picked, l.foldl (fun best e => match best with
        | none => some e
        | some b => if e.2.expiresAt < b.2.expiresAt then some e else some b) best = picked ∧
      (∀ e ∈ l, ∃ p, picked = some p ∧ p.2.expiresAt ≤ e.2.expiresAt) ∧
      (∀ b, best = some b → ∃ p, picked = some p ∧ p.2.expiresAt ≤ b.2.expiresAt) := by
  induction l generalizing best with
  | nil => exact ⟨best, rfl, nofun, fun b hb => ⟨b, hb, le_rfl⟩⟩
  | cons a rest ih =>
    rw [List.foldl_cons]
    cases best with
    | none =>
      obtain ⟨picked, hpicked, hrest, hbest⟩ := ih (some a)
      refine ⟨picked, hpicked, fun e he => ?_, nofun⟩
      rcases List.mem_cons.mp he with rfl | he
      · exact hbest _ rfl
      · exact hrest e he
    | some b =>
      obtain ⟨picked, hpicked, hrest, hbest⟩ :=
        ih (if a.2.expiresAt < b.2.expiresAt then some a else some b)
      have hboth : ∃ p, picked = some p ∧ p.2.expiresAt ≤ a.2.expiresAt ∧
          p.2.expiresAt ≤ b.2.expiresAt := by
        split at hbest
        · obtain ⟨p, hp, hle⟩ := hbest a rfl
          exact ⟨p, hp, hle, by omega⟩
        · obtain ⟨p, hp, hle⟩ := hbest b rfl
          exact ⟨p, hp, by omega, hle⟩
      obtain ⟨p, hp, hpa, hpb⟩ := hboth
      refine ⟨picked, hpicked, fun e he => ?_, fun c hc => ?_⟩
      · rcases List.mem_cons.mp he with rfl | he
        · exact ⟨p, hp, hpa⟩
        · exact hrest e he
      · cases hc
        exact ⟨p, hp, hpb⟩

/-- The entry that an eviction picks expires first among those it may pick. -/
theorem earliest?_le {s : Store K V} {keep : K} {e e' : K × Expiring V}
    (h : s.earliest? keep = some e) (hmem : e' ∈ s.entries) (hne : e'.1 ≠ keep) :
    e.2.expiresAt ≤ e'.2.expiresAt := by
  obtain ⟨picked, hpicked, hall, -⟩ :=
    foldl_earliest_le (s.entries.filter fun e => e.1 ≠ keep) none
  have he : picked = some e := hpicked.symm.trans h
  obtain ⟨p, hp, hle⟩ := hall e' (List.mem_filter.mpr ⟨hmem, by simpa using hne⟩)
  cases he.symm.trans hp
  exact hle

/-- If an eviction finds nothing to pick, the store holds one entry at most. -/
theorem size_le_one_of_earliest? {s : Store K V} {keep : K} (h : s.earliest? keep = none) :
    s.size ≤ 1 := by
  obtain ⟨picked, hpicked, hall, -⟩ :=
    foldl_earliest_le (s.entries.filter fun e => e.1 ≠ keep) none
  -- Only an entry under the key that is kept can be left out of the pick.
  have hsub : Assoc.keys s.entries ⊆ [keep] := by
    intro k hk
    obtain ⟨e, he, rfl⟩ := List.mem_map.mp hk
    by_contra hne
    have hother : e.1 ≠ keep := fun h => hne (List.mem_singleton.mpr h)
    obtain ⟨p, hp, -⟩ := hall e (List.mem_filter.mpr ⟨he, by simpa using hother⟩)
    cases h.symm.trans (hpicked.trans hp)
  have hlen := (s.nodup.subperm hsub).length_le
  simpa [Assoc.keys, size] using hlen

/-! ### One turn of the loop -/

omit [DecidableEq K] in
/-- If a sweep drops nothing, every entry is live. -/
theorem isLive_of_size_sweep {s : Store K V} {now : Nat} (h : (s.sweep now).size = s.size)
    {e : K × Expiring V} (he : e ∈ s.entries) : e.2.isLive now :=
  List.length_filter_eq_length_iff.mp h e he

omit [DecidableEq K] in
/-- A sweep that drops nothing leaves the entries alone. -/
theorem entries_sweep {s : Store K V} {now : Nat} (h : (s.sweep now).size = s.size) :
    (s.sweep now).entries = s.entries :=
  List.filter_eq_self.mpr fun _ he => isLive_of_size_sweep h he

theorem settle_of_le {s : Store K V} (now : Nat) (key : K) (grew : Bool)
    (h : s.size ≤ s.capacity) : s.settle now key grew = (s, true) := by
  rw [settle, if_pos h]

/-- A sweep that drops something is followed by another turn. -/
theorem settle_of_swept {s : Store K V} {now : Nat} (key : K) (grew : Bool)
    (hover : s.capacity < s.size) (hswept : (s.sweep now).size < s.size) :
    s.settle now key grew = (s.sweep now).settle now key grew := by
  rw [settle, if_neg (Nat.not_le.mpr hover), if_pos hswept]

/-- If all entries are live, a store that refuses keeps what was written if nothing was added. -/
theorem settle_of_refuseNew {s : Store K V} {now : Nat} (key : K) (grew : Bool)
    (hover : s.capacity < s.size) (hlive : (s.sweep now).size = s.size)
    (hpolicy : s.overflow = .refuseNew) : s.settle now key grew = (s, !grew) := by
  have hswept : ¬ (s.sweep now).size < s.size := by omega
  rw [settle, if_neg (Nat.not_le.mpr hover), if_neg hswept]
  split
  case h_1 => rfl
  case h_2 hevicts => cases hpolicy.symm.trans hevicts

theorem evict_of_earliest? {s : Store K V} {keep : K} {e : K × Expiring V}
    (h : s.earliest? keep = some e) : s.evict keep = some (s.erase e.1) := by
  rw [evict, h]
  rfl

/-- If all entries are live, an eviction is followed by another turn. -/
theorem settle_of_earliest? {s : Store K V} {now : Nat} {key : K} {e : K × Expiring V}
    (grew : Bool) (hover : s.capacity < s.size) (hlive : (s.sweep now).size = s.size)
    (hpolicy : s.overflow = .evictEarliest) (hpick : s.earliest? key = some e) :
    s.settle now key grew = (s.erase e.1).settle now key grew := by
  have hswept : ¬ (s.sweep now).size < s.size := by omega
  have hevict := evict_of_earliest? hpick
  rw [settle, if_neg (Nat.not_le.mpr hover), if_neg hswept]
  split
  case h_1 hrefuses => cases hpolicy.symm.trans hrefuses
  case h_2 =>
    split
    case h_1 hnone => cases hevict.symm.trans hnone
    case h_2 smaller hsmaller =>
      cases hevict.symm.trans hsmaller
      rfl

/-- What comes of a store that is one entry over its capacity at most. It has room, or a
sweep makes room, or all its entries are live and its policy decides. -/
theorem settle_cases (s : Store K V) (now : Nat) (key : K) (grew : Bool)
    (h : s.size ≤ s.capacity + 1) :
    (s.size ≤ s.capacity ∧ s.settle now key grew = (s, true)) ∨
    (s.size = s.capacity + 1 ∧ (s.sweep now).size ≤ s.capacity ∧
      s.settle now key grew = (s.sweep now, true)) ∨
    (s.size = s.capacity + 1 ∧ (s.sweep now).size = s.size ∧ s.overflow = .refuseNew ∧
      s.settle now key grew = (s, !grew)) ∨
    (s.size = s.capacity + 1 ∧ (s.sweep now).size = s.size ∧ s.overflow = .evictEarliest ∧
      ∃ e, s.earliest? key = some e ∧ s.settle now key grew = (s.erase e.1, true)) := by
  by_cases hle : s.size ≤ s.capacity
  · exact .inl ⟨hle, settle_of_le now key grew hle⟩
  · have hover : s.capacity < s.size := Nat.not_le.mp hle
    have hsize : s.size = s.capacity + 1 := by omega
    by_cases hswept : (s.sweep now).size < s.size
    · have hroom : (s.sweep now).size ≤ s.capacity := by omega
      refine .inr (.inl ⟨hsize, hroom, ?_⟩)
      rw [settle_of_swept key grew hover hswept]
      exact settle_of_le now key grew hroom
    · have hlive : (s.sweep now).size = s.size :=
        Nat.le_antisymm (size_sweep_le s now) (Nat.not_lt.mp hswept)
      cases hpolicy : s.overflow with
      | refuseNew =>
        have hrefused := settle_of_refuseNew key grew hover hlive hpolicy
        exact .inr (.inr (.inl ⟨hsize, hlive, rfl, hrefused⟩))
      | evictEarliest =>
        refine .inr (.inr (.inr ⟨hsize, hlive, rfl, ?_⟩))
        cases hpick : s.earliest? key with
        -- The written entry is not alone, since the capacity is not zero.
        | none =>
          have hone := size_le_one_of_earliest? hpick
          have hpos := s.capacity_pos
          omega
        | some e =>
          refine ⟨e, rfl, ?_⟩
          have hroom : (s.erase e.1).size ≤ s.capacity := by
            have hless := size_evict_lt (evict_of_earliest? hpick)
            omega
          rw [settle_of_earliest? grew hover hlive hpolicy hpick]
          exact settle_of_le now key grew hroom

/-! ### Before the loop: the write and its count -/

@[simp] theorem capacity_put (s : Store K V) (key : K) (entry : Expiring V) :
    (s.put key entry).capacity = s.capacity := rfl

@[simp] theorem overflow_put (s : Store K V) (key : K) (entry : Expiring V) :
    (s.put key entry).overflow = s.overflow := rfl

/-- A write in place of another adds no entry. -/
theorem size_put (s : Store K V) (key : K) (entry : Expiring V) :
    (s.put key entry).size = s.size + if (Assoc.get? s.entries key).isNone then 1 else 0 := by
  simp only [size, put]
  induction s.entries with
  | nil => rfl
  | cons e rest ih =>
    obtain ⟨k, v⟩ := e
    by_cases hk : k = key
    · simp [Assoc.put, Assoc.get?, hk]
    · simp only [Assoc.put, Assoc.get?, if_neg hk, List.length_cons, ih]
      omega

omit [DecidableEq K] in
/-- The count of a write changes the entries by a sweep at most. -/
theorem countWrite_cases (s : Store K V) (now : Nat) :
    (s.countWrite now).entries = s.entries ∨
    (s.countWrite now).entries = (s.sweep now).entries := by
  simp only [countWrite]
  split
  · exact .inr rfl
  · exact .inl rfl

omit [DecidableEq K] in
@[simp] theorem capacity_countWrite (s : Store K V) (now : Nat) :
    (s.countWrite now).capacity = s.capacity := by
  simp only [countWrite]
  split <;> rfl

omit [DecidableEq K] in
@[simp] theorem overflow_countWrite (s : Store K V) (now : Nat) :
    (s.countWrite now).overflow = s.overflow := by
  simp only [countWrite]
  split <;> rfl

/-- The live entries are a matter of the entries alone. -/
theorem live_congr {s t : Store K V} (h : s.entries = t.entries) (now : Nat) :
    s.live now = t.live now := by
  simp only [live, sweep, h]

/-- The count of a write is not seen. -/
theorem live_countWrite (s : Store K V) (now : Nat) :
    (s.countWrite now).live now = s.live now := by
  rcases countWrite_cases s now with h | h
  · exact live_congr h now
  · rw [live_congr h now, live_sweep]

omit [DecidableEq K] in
theorem size_countWrite_le (s : Store K V) (now : Nat) : (s.countWrite now).size ≤ s.size := by
  rcases countWrite_cases s now with h | h
  · exact (congrArg List.length h).le
  · exact (congrArg List.length h).trans_le (size_sweep_le s now)

omit [DecidableEq K] in
/-- If the count of a write drops nothing, it leaves the entries alone. -/
theorem entries_countWrite {s : Store K V} {now : Nat} (h : (s.countWrite now).size = s.size) :
    (s.countWrite now).entries = s.entries := by
  rcases countWrite_cases s now with hsame | hswept
  · exact hsame
  · have hsize : (s.sweep now).size = s.size := (congrArg List.length hswept).symm.trans h
    rw [hswept, entries_sweep hsize]

/-! ### After the loop: taking a write back -/

/-- What stands under the key of the write that is taken back is gone. -/
theorem live_takeBack {s : Store K V} {key : K} {entry : Expiring V}
    (h : Assoc.get? s.entries key = some entry) (now : Nat) :
    (s.takeBack key entry.expiresAt).live now = (s.live now).erase key := by
  apply Finmap.ext_lookup
  intro k
  rw [LiveMap.lookup_erase', lookup_live, lookup_live, takeBack, Assoc.get?_filter s.nodup]
  by_cases hk : key = k
  · subst hk
    simp [h]
  · have hne : ¬ k = key := Ne.symm hk
    simp [hk, hne]

theorem size_takeBack_lt {s : Store K V} {key : K} {entry : Expiring V}
    (h : Assoc.get? s.entries key = some entry) :
    (s.takeBack key entry.expiresAt).size < s.size :=
  List.length_filter_lt_length_iff_exists.mpr ⟨(key, entry), Assoc.mem_of_get? h, by simp⟩

/-! ### The whole write -/

/-- A store of a given capacity and policy that is within its capacity. -/
structure Within (s : Store K V) (capacity : Nat) (overflow : Overflow) : Prop where
  capacity_eq : s.capacity = capacity
  overflow_eq : s.overflow = overflow
  size_le : s.size ≤ capacity

variable {s : Store K V} {capacity : Nat} {overflow : Overflow} {now : Nat} {key : K}
  {entry : Expiring V}

omit [DecidableEq K] in
theorem within_empty (maxEntries : Nat) (overflow : Overflow) (sweepEvery : Nat) :
    (empty maxEntries overflow sweepEvery : Store K V).Within (max 1 maxEntries) overflow :=
  ⟨Nat.max_comm _ _, rfl, Nat.zero_le _⟩

omit [DecidableEq K] in
theorem Within.own (h : s.Within capacity overflow) : s.Within s.capacity overflow :=
  h.capacity_eq.symm ▸ h

omit [DecidableEq K] in
theorem Within.sweep (h : s.Within capacity overflow) (now : Nat) :
    (s.sweep now).Within capacity overflow :=
  ⟨h.capacity_eq, h.overflow_eq, (size_sweep_le s now).trans h.size_le⟩

theorem Within.erase (h : s.Within capacity overflow) (key : K) :
    (s.erase key).Within capacity overflow :=
  ⟨h.capacity_eq, h.overflow_eq, (List.length_filter_le _ _).trans h.size_le⟩

/-- A write that takes a store over its capacity has added an entry, which is still there
when the loop begins. -/
theorem get?_of_overfull (h : s.size ≤ s.capacity)
    (hfull : ((s.put key entry).countWrite now).size = s.capacity + 1) :
    Assoc.get? s.entries key = none ∧
      Assoc.get? ((s.put key entry).countWrite now).entries key = some entry := by
  have hcount := size_countWrite_le (s.put key entry) now
  have hput := size_put s key entry
  have hnew : (Assoc.get? s.entries key).isNone := by
    by_contra hold
    rw [if_neg hold] at hput
    omega
  rw [if_pos hnew] at hput
  refine ⟨Option.isNone_iff_eq_none.mp hnew, ?_⟩
  rw [entries_countWrite (by omega), put, Assoc.get?_put, if_pos rfl]

/-- A write goes by what comes of the loop: it stays, or it is taken back. -/
theorem write_of_settle {room : Store K V} {kept : Bool}
    (h : ((s.put key entry).countWrite now).settle now key (Assoc.get? s.entries key).isNone =
      (room, kept)) :
    s.write now key entry =
      if kept then (room, true) else (room.takeBack key entry.expiresAt, false) := by
  rw [write, makeRoom, h]
  cases kept <;> rfl

/-- What comes of a write to a store within its capacity: the four ways of `settle_cases`.
A write that is taken back was under a new key. -/
theorem write_cases (h : s.size ≤ s.capacity) (now : Nat) (key : K) (entry : Expiring V) :
    let t := (s.put key entry).countWrite now
    (t.size ≤ s.capacity ∧ s.write now key entry = (t, true)) ∨
    ((t.sweep now).size ≤ s.capacity ∧ s.write now key entry = (t.sweep now, true)) ∨
    (t.size = s.capacity + 1 ∧ (t.sweep now).size = t.size ∧ s.overflow = .refuseNew ∧
      s.write now key entry = (t.takeBack key entry.expiresAt, false)) ∨
    (t.size = s.capacity + 1 ∧ (t.sweep now).size = t.size ∧ s.overflow = .evictEarliest ∧
      ∃ e, t.earliest? key = some e ∧ s.write now key entry = (t.erase e.1, true)) := by
  intro t
  have hcap : t.capacity = s.capacity := by simp [t]
  have hpolicy : t.overflow = s.overflow := by simp [t]
  have hsize : t.size ≤ t.capacity + 1 := by
    have hcount : t.size ≤ (s.put key entry).size := size_countWrite_le _ now
    have hput := size_put s key entry
    split at hput <;> omega
  rw [← hcap, ← hpolicy]
  rcases settle_cases t now key (Assoc.get? s.entries key).isNone hsize with
    ⟨hle, he⟩ | ⟨-, hle, he⟩ | ⟨hfull, hlive, hp, he⟩ | ⟨hfull, hlive, hp, e, hpick, he⟩
  · exact .inl ⟨hle, write_of_settle he⟩
  · exact .inr (.inl ⟨hle, write_of_settle he⟩)
  · have hnew := (get?_of_overfull h (hcap ▸ hfull)).1
    have htaken := write_of_settle he
    rw [hnew] at htaken
    exact .inr (.inr (.inl ⟨hfull, hlive, hp, htaken⟩))
  · exact .inr (.inr (.inr ⟨hfull, hlive, hp, e, hpick, write_of_settle he⟩))

/-- A store within its capacity stays within it, whatever it writes. -/
theorem Within.write (h : s.Within capacity overflow) (now : Nat) (key : K)
    (entry : Expiring V) : (s.write now key entry).1.Within capacity overflow := by
  obtain ⟨rfl, rfl, hsize⟩ := h
  rcases write_cases hsize now key entry with
    ⟨hle, he⟩ | ⟨hle, he⟩ | ⟨hfull, -, -, he⟩ | ⟨hfull, -, -, e, hpick, he⟩ <;> rw [he]
  · exact ⟨capacity_countWrite _ _, overflow_countWrite _ _, hle⟩
  · exact ⟨capacity_countWrite _ _, overflow_countWrite _ _, hle⟩
  · have hlt := size_takeBack_lt (get?_of_overfull hsize hfull).2
    exact ⟨capacity_countWrite _ _, overflow_countWrite _ _,
      Nat.le_of_lt_succ (hlt.trans_eq hfull)⟩
  · have hevict : ((s.put key entry).countWrite now).evict key =
        some (((s.put key entry).countWrite now).erase e.1) := by rw [evict, hpick]; rfl
    exact ⟨capacity_countWrite _ _, overflow_countWrite _ _,
      Nat.le_of_lt_succ ((size_evict_lt hevict).trans_eq hfull)⟩

/-- The write of a live entry, before the loop makes room for it. -/
theorem live_counted (s : Store K V) {now : Nat} (key : K) {entry : Expiring V}
    (hlast : entry.isLive now) :
    ((s.put key entry).countWrite now).live now = (s.live now).insert key entry := by
  rw [live_countWrite, live_put s key hlast]

/-- If the store is over its capacity and all its entries are live, the map was full and the
key is new. -/
theorem full_of_overfull (h : s.size ≤ s.capacity) (hlast : entry.isLive now)
    (hfull : ((s.put key entry).countWrite now).size = s.capacity + 1)
    (hall : (((s.put key entry).countWrite now).sweep now).size =
      ((s.put key entry).countWrite now).size) :
    key ∉ s.live now ∧ s.capacity ≤ (s.live now).keys.card := by
  have hnew : key ∉ s.live now := by
    rw [mem_live_iff, (get?_of_overfull h hfull).1]
    simp
  have hcard := card_live ((s.put key entry).countWrite now) now
  rw [live_counted s key hlast, LiveMap.card_insert_of_not_mem entry hnew, hall, hfull] at hcard
  exact ⟨hnew, by omega⟩

/-- The entry that an eviction picks, when all entries are live, is an earliest one of the map
before the write. -/
theorem isEarliest_of_earliest? {e : K × Expiring V} (hlast : entry.isLive now)
    (hnew : key ∉ s.live now)
    (hall : (((s.put key entry).countWrite now).sweep now).size =
      ((s.put key entry).countWrite now).size)
    (hpick : ((s.put key entry).countWrite now).earliest? key = some e) :
    (s.live now).IsEarliest e.1 := by
  obtain ⟨hmem, hne⟩ := mem_of_earliest? hpick
  -- Other keys than the one written are found before the write as after it.
  have hother : ∀ k, k ≠ key →
      (s.live now).lookup k = (((s.put key entry).countWrite now).live now).lookup k := by
    intro k hk
    rw [live_counted s key hlast, LiveMap.lookup_insert', if_neg (Ne.symm hk)]
  refine ⟨e.2, ?_, fun k e' he' => ?_⟩
  · rw [hother e.1 hne, lookup_live, Assoc.get?_of_mem (Store.nodup _) hmem, Option.filter_some,
      if_pos (isLive_of_size_sweep hall hmem)]
  · have hkey : k ≠ key := fun hk => hnew (hk ▸ Finmap.mem_of_lookup_eq_some he')
    rw [hother k hkey, lookup_live, Option.filter_eq_some_iff] at he'
    exact earliest?_le hpick (Assoc.mem_of_get? he'.1) hkey

/-- The live entries after the write of a live entry are what `LiveMap.Written` says. -/
theorem written_write (h : s.Within capacity overflow) (hlast : entry.isLive now) :
    (s.live now).Written capacity overflow key entry
      ((s.write now key entry).1.live now) (s.write now key entry).2 := by
  obtain ⟨rfl, rfl, h⟩ := h
  have hmap := live_counted s key hlast
  rcases write_cases h now key entry with
    ⟨hle, he⟩ | ⟨hle, he⟩ | ⟨hfull, hall, hp, he⟩ | ⟨hfull, hall, hp, e, hpick, he⟩ <;> rw [he]
  -- There is room, and it does not matter for the map whether a sweep has made it.
  · rw [hmap]
    exact LiveMap.written_of_room (by rw [← hmap]; exact (card_live_le _ now).trans hle)
  · rw [live_sweep, hmap]
    exact LiveMap.written_of_room (by rw [← hmap, card_live]; exact hle)
  · obtain ⟨hnew, hcard⟩ := full_of_overfull h hlast hfull hall
    rw [live_takeBack (get?_of_overfull h hfull).2, hmap,
      LiveMap.erase_insert_of_not_mem entry hnew]
    exact .refused hnew hcard hp
  · obtain ⟨hnew, hcard⟩ := full_of_overfull h hlast hfull hall
    have hne := (mem_of_earliest? hpick).2
    rw [live_erase, hmap, LiveMap.erase_insert_of_ne _ entry hne]
    exact .evicted hnew hcard hp e.1 (isEarliest_of_earliest? hlast hnew hall hpick)

end Perimeter.Store
