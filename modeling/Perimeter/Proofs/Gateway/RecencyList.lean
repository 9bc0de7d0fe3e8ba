import Perimeter.Gateway.Gate
import Perimeter.Proofs.Store.Reference
import Perimeter.Replay

/-!
# `Perimeter.Proofs.Gateway.RecencyList`: the most recent admissions

A gate that keeps every admission for the same time, and drops the one closest to expiry when
there are too many, ought to be a list in the order of admission. `RecencyList` is that list, the
most recent admission first. It does without expiries: what was admitted too long ago is
left out, and what does not fit falls off its end. But a machine that has no number for the end of
an admission cannot be told to let anybody in (`RecencyList.InRange`).

`RecencyList.liveMap` is what a store holds that means the same. The choice that a store has when
it evicts is none if no two admissions are of the same instant: the least expiry is then that
of the last admission in the list (`Ordered.erase_earliest`).
-/

set_option autoImplicit false

namespace Perimeter

/-! ### Maps made of lists -/

namespace Assoc

variable {K V W : Type} [DecidableEq K]

theorem get?_map (f : V → W) (m : List (K × V)) (k : K) :
    get? (m.map fun e => (e.1, f e.2)) k = (get? m k).map f := by
  induction m with
  | nil => rfl
  | cons e rest ih => grind [get?]

end Assoc

namespace LiveMap

variable {K V : Type} [DecidableEq K]

theorem ofEntries_cons (k : K) (e : Expiring V) (entries : List (K × Expiring V)) :
    ofEntries ((k, e) :: entries) = (ofEntries entries).insert k e := by
  apply Finmap.ext_lookup
  intro x
  rw [lookup_insert', lookup_ofEntries, lookup_ofEntries, Assoc.get?]

theorem ofEntries_erase (entries : List (K × Expiring V)) (k : K) :
    ofEntries (Assoc.erase entries k) = (ofEntries entries).erase k := by
  apply Finmap.ext_lookup
  intro x
  rw [lookup_erase', lookup_ofEntries, lookup_ofEntries, Assoc.get?_erase]

theorem card_ofEntries {entries : List (K × Expiring V)} (h : (Assoc.keys entries).Nodup) :
    (ofEntries entries).keys.card = entries.length := by
  rw [keys_ofEntries, List.toFinset_card_of_nodup h, Assoc.keys, List.length_map]

end LiveMap

/-! ### The list -/

/-- An admission with the instant of it. -/
structure Stamped where
  admission : Admission
  instant : Nat
deriving DecidableEq

/-- Admissions by address, the most recent first. -/
abbrev RecencyList : Type := List (IpAddress × Stamped)

namespace RecencyList

variable {l : RecencyList} {ttl capacity now later : Nat} {ip : IpAddress}

/-- The admissions that are less than `ttl` ago, in nanoseconds. -/
def fresh (ttl now : Nat) (l : RecencyList) : RecencyList :=
  l.filter fun e => (now - e.2.instant) * millisecondNs < ttl

/-- The fresh admission of an address. -/
def find? (ttl now : Nat) (l : RecencyList) (ip : IpAddress) : Option Admission :=
  (Assoc.get? (l.fresh ttl now) ip).map (·.admission)

/-- The fresh admissions of other addresses. -/
def others (ttl now : Nat) (l : RecencyList) (ip : IpAddress) : RecencyList :=
  Assoc.erase (l.fresh ttl now) ip

/-- Puts an address in front, drops what is too long ago, and cuts the list to its length. -/
def letIn (ttl capacity : Nat) (clock : Clock) (l : RecencyList) (ip : IpAddress)
    (device : Device) : RecencyList :=
  ((ip, ⟨⟨device, clock.unixSeconds⟩, clock.instant⟩) :: l.others ttl clock.instant ip).take
    (max 1 capacity)

/-- The addresses are different ones, in the order of admission, and nobody is admitted in the
future. -/
structure Ordered (l : RecencyList) (now : Nat) : Prop where
  descending : l.Pairwise fun e e' => e'.2.instant < e.2.instant
  nodup : (Assoc.keys l).Nodup
  instant_le : ∀ e ∈ l, e.2.instant ≤ now

theorem Ordered.sublist {l' : RecencyList} (h : l.Ordered now) (hsub : List.Sublist l' l) :
    Ordered l' now where
  descending := h.descending.sublist hsub
  nodup := h.nodup.sublist (hsub.map _)
  instant_le := fun e he => h.instant_le e (hsub.subset he)

theorem Ordered.mono (h : l.Ordered now) (hle : now ≤ later) : l.Ordered later where
  descending := h.descending
  nodup := h.nodup
  instant_le := fun e he => (h.instant_le e he).trans hle

theorem fresh_sublist (ttl now : Nat) (l : RecencyList) : List.Sublist (l.fresh ttl now) l :=
  List.filter_sublist

/-- What is fresh later is fresh now. -/
theorem fresh_fresh (hle : now ≤ later) (l : RecencyList) :
    (l.fresh ttl now).fresh ttl later = l.fresh ttl later := by
  simp only [fresh, List.filter_filter]
  congr 1
  funext e
  refine Bool.eq_iff_iff.mpr ?_
  simp only [Bool.and_eq_true, decide_eq_true_eq]
  simp only [millisecondNs]
  omega

theorem others_sublist (ttl now : Nat) (l : RecencyList) (ip : IpAddress) :
    List.Sublist (l.others ttl now ip) l :=
  List.filter_sublist.trans (fresh_sublist ttl now l)

theorem mem_others {e : IpAddress × Stamped} :
    e ∈ l.others ttl now ip ↔ e ∈ l.fresh ttl now ∧ e.1 ≠ ip := by
  simp [others, Assoc.erase]

/-- Whoever has just been let in is in the list, however full it was. -/
theorem mem_letIn (clock : Clock) (device : Device) :
    (ip, ⟨⟨device, clock.unixSeconds⟩, clock.instant⟩) ∈ l.letIn ttl capacity clock ip device := by
  rw [letIn, List.take_cons (Nat.lt_of_lt_of_le Nat.zero_lt_one (Nat.le_max_left 1 capacity))]
  exact List.mem_cons_self

/-- Everybody else in it was there before. -/
theorem mem_others_of_mem_letIn {clock : Clock} {device : Device} {e : IpAddress × Stamped}
    (he : e ∈ l.letIn ttl capacity clock ip device) :
    e = (ip, ⟨⟨device, clock.unixSeconds⟩, clock.instant⟩) ∨ e ∈ l.others ttl clock.instant ip :=
  List.mem_cons.mp (List.mem_of_mem_take he)

/-- All that a new admission leaves is fresh. -/
theorem fresh_letIn {clock : Clock} {device : Device} (httl : 0 < ttl) :
    (l.letIn ttl capacity clock ip device).fresh ttl clock.instant =
      l.letIn ttl capacity clock ip device := by
  refine List.filter_eq_self.mpr fun e he => ?_
  rcases mem_others_of_mem_letIn he with rfl | he
  · simpa using httl
  · exact (List.mem_filter.mp (mem_others.mp he).1).2

/-- A list with room grows by the new admission. -/
theorem letIn_of_room {clock : Clock} (device : Device)
    (hroom : (l.others ttl clock.instant ip).length < max 1 capacity) :
    l.letIn ttl capacity clock ip device =
      (ip, ⟨⟨device, clock.unixSeconds⟩, clock.instant⟩) :: l.others ttl clock.instant ip :=
  List.take_of_length_le hroom

/-- A full list loses its last admission. -/
theorem letIn_of_full {clock : Clock} (device : Device)
    (hfull : (l.others ttl clock.instant ip).length = max 1 capacity) :
    l.letIn ttl capacity clock ip device =
      (ip, ⟨⟨device, clock.unixSeconds⟩, clock.instant⟩) ::
        (l.others ttl clock.instant ip).dropLast := by
  rw [letIn, List.take_cons (Nat.lt_of_lt_of_le Nat.zero_lt_one (Nat.le_max_left 1 capacity)),
    List.dropLast_eq_take, hfull]

/-- Among the others a new admission is the latest, if none of them is of the same instant. -/
theorem Ordered.cons_others (h : l.Ordered now)
    (hapart : ∀ e ∈ l, e.1 ≠ ip → e.2.instant ≠ now) (ttl : Nat) (admission : Admission) :
    Ordered ((ip, ⟨admission, now⟩) :: l.others ttl now ip) now := by
  have hrest := h.sublist (others_sublist ttl now l ip)
  refine ⟨List.pairwise_cons.mpr ⟨fun e he => ?_, hrest.descending⟩,
    List.nodup_cons.mpr ⟨fun hip => ?_, hrest.nodup⟩, fun e he => ?_⟩
  · have hle := hrest.instant_le e he
    have hne := hapart e ((others_sublist ttl now l ip).subset he) (mem_others.mp he).2
    show e.2.instant < now
    omega
  · obtain ⟨e, he, heq⟩ := List.mem_map.mp hip
    exact (mem_others.mp he).2 heq
  · rcases List.mem_cons.mp he with rfl | he
    · exact Nat.le_refl now
    · exact hrest.instant_le e he

/-- What falls off the end of a list leaves it at its full length, and is older than all that
stays. -/
theorem Ordered.of_not_mem_take {e : IpAddress × Stamped} {size : Nat} (h : l.Ordered now)
    (he : e ∈ l) (hgone : e ∉ l.take size) :
    (l.take size).length = size ∧ ∀ e' ∈ l.take size, e.2.instant < e'.2.instant := by
  have hdescending := h.descending
  rw [← List.take_append_drop size l] at he hdescending
  have hdropped : e ∈ l.drop size := (List.mem_append.mp he).resolve_left hgone
  refine ⟨?_, fun e' he' => (List.pairwise_append.mp hdescending).2.2 e' he' e hdropped⟩
  have hlong : 0 < (l.drop size).length := List.length_pos_of_mem hdropped
  rw [List.length_drop] at hlong
  rw [List.length_take]
  omega

/-! ### As a map with expiries -/

/-- The whole milliseconds after which nothing is left of so many nanoseconds. -/
def lifetime (ttl : Nat) : Nat := (ttl + (millisecondNs - 1)) / millisecondNs

/-- The machine has a number for the end of an admission. -/
def InRange (ttl : Nat) (clock : Clock) : Prop := clock.instant + lifetime ttl < Clock.limit

instance (ttl : Nat) (clock : Clock) : Decidable (InRange ttl clock) :=
  inferInstanceAs (Decidable (_ < _))

theorem lifetime_pos (h : 0 < ttl) : 0 < lifetime ttl := by
  simp only [lifetime, millisecondNs]
  omega

/-- Fresh is what has not expired. -/
theorem fresh_iff {instant : Nat} (httl : 0 < ttl) :
    (now - instant) * millisecondNs < ttl ↔ now < instant + lifetime ttl := by
  simp only [lifetime, millisecondNs]
  omega

/-- An admission with the instant at which it expires. -/
def expiring (ttl : Nat) (stamped : Stamped) : Expiring Admission :=
  ⟨stamped.admission, stamped.instant + lifetime ttl⟩

/-- The admissions as a map. -/
def toMap (ttl : Nat) (l : RecencyList) : LiveMap IpAddress Admission :=
  LiveMap.ofEntries (l.map fun e => (e.1, expiring ttl e.2))

theorem lookup_toMap (ttl : Nat) (l : RecencyList) (ip : IpAddress) :
    (l.toMap ttl).lookup ip = (Assoc.get? l ip).map (expiring ttl) := by
  rw [toMap, LiveMap.lookup_ofEntries, Assoc.get?_map]

theorem toMap_cons (ttl : Nat) (ip : IpAddress) (stamped : Stamped) (l : RecencyList) :
    toMap ttl ((ip, stamped) :: l) = (l.toMap ttl).insert ip (expiring ttl stamped) :=
  LiveMap.ofEntries_cons _ _ _

theorem toMap_erase (ttl : Nat) (l : RecencyList) (ip : IpAddress) :
    toMap ttl (Assoc.erase l ip) = (l.toMap ttl).erase ip := by
  rw [toMap, toMap, ← LiveMap.ofEntries_erase, Assoc.erase, Assoc.erase, List.filter_map]
  rfl

theorem Ordered.card_toMap (h : l.Ordered now) (ttl : Nat) :
    (l.toMap ttl).keys.card = l.length := by
  have hkeys : Assoc.keys (l.map fun e => (e.1, expiring ttl e.2)) = Assoc.keys l := by
    simp [Assoc.keys]
  rw [toMap, LiveMap.card_ofEntries (hkeys ▸ h.nodup), List.length_map]

/-- When time passes, the map loses what is no longer fresh. -/
theorem liveAt_toMap (httl : 0 < ttl) (h : (Assoc.keys l).Nodup) (later : Nat) :
    (l.toMap ttl).liveAt later = (l.fresh ttl later).toMap ttl := by
  apply Finmap.ext_lookup
  intro ip
  rw [LiveMap.lookup_liveAt, lookup_toMap, lookup_toMap, fresh, Assoc.get?_filter h]
  cases Assoc.get? l ip with
  | none => rfl
  | some stamped =>
    have hsame : (expiring ttl stamped).isLive later =
        decide ((later - stamped.instant) * millisecondNs < ttl) :=
      decide_eq_decide.mpr (fresh_iff httl).symm
    simp only [Option.map_some, Option.filter_some, hsame]
    split <;> rfl

/-- Of all admissions the last one in the list is the first to expire, and the only one. -/
theorem Ordered.erase_earliest {victim : IpAddress} (h : l.Ordered now)
    (hearliest : (l.toMap ttl).IsEarliest victim) : Assoc.erase l victim = l.dropLast := by
  obtain ⟨e, he, hleast⟩ := hearliest
  rw [lookup_toMap, Option.map_eq_some_iff] at he
  obtain ⟨stamped, hstamped, rfl⟩ := he
  have hmem := Assoc.mem_of_get? hstamped
  obtain ⟨before, last, rfl⟩ := List.eq_nil_or_concat' l |>.resolve_left (List.ne_nil_of_mem hmem)
  obtain ⟨-, -, hlater⟩ := List.pairwise_append.mp h.descending
  have hnodup := h.nodup
  rw [Assoc.keys, List.map_append, List.nodup_append] at hnodup
  -- An admission before the last is of a later instant, so that it expires later.
  have hlast : (victim, stamped) = last := by
    rcases List.mem_append.mp hmem with hbefore | hlast
    · have hlt : last.2.instant < stamped.instant :=
        hlater _ hbefore last (List.mem_singleton_self last)
      have hfound : Assoc.get? (before ++ [last]) last.1 = some last.2 :=
        Assoc.get?_of_mem h.nodup (List.mem_append_right before (List.mem_singleton_self last))
      have hle := hleast last.1 (expiring ttl last.2) (by rw [lookup_toMap, hfound]; rfl)
      simp only [expiring] at hle
      omega
    · exact List.mem_singleton.mp hlast
  rw [List.dropLast_concat, Assoc.erase, List.filter_append, ← hlast]
  have hothers : before.filter (fun e => e.1 ≠ victim) = before := by
    refine List.filter_eq_self.mpr fun e he => decide_eq_true fun heq => ?_
    exact hnodup.2.2 e.1 (List.mem_map_of_mem he) last.1 (by simp) (heq.trans (by rw [← hlast]))
  rw [hothers]
  simp

end RecencyList

end Perimeter
