import Perimeter.Proofs.Gateway.AllOrNothing
import Perimeter.Proofs.Gateway.RecencyList

/-!
# `Perimeter.Proofs.Gateway.Recency`: a gate is a list of the most recent admissions

A gate keeps its admissions in no order, and what it drops when it is full it finds by expiry.
It answers nevertheless as a list does from which the oldest admission falls off. The two stand
side by side (`AdmissionGate.Mirrors`) after every step, as long as the clock does not go back
and no two addresses are admitted at one instant: otherwise several expiries may be the least,
and which of them the gate picks is not said. If admissions count so long that the machine has no
number for the end of one, the gate breaks down, and the list stands still with it.

What is known of the list is known of the gate. `AdmissionGate.Lost` lists how an address can
cease to be admitted: it connects, its time is over, or it is displaced by as many others as
the gate has room for, all of them admitted later and still there.
-/

set_option autoImplicit false

namespace Perimeter

/-! ### What a gate is asked -/

/-- What a system answers in a run, one answer for each thing that is done to it. -/
def answers {σ α ρ : Type} (act : Clock → σ → α → σ) (answer : Clock → σ → α → ρ) :
    Timed σ → List (Event α) → List ρ
  | _, [] => []
  | t, .act action :: rest =>
    answer t.clock t.state action :: answers act answer (t.next act (.act action)) rest
  | t, .advance ms :: rest => answers act answer (t.next act (.advance ms)) rest

namespace AdmissionGate

/-- What may be done with a gate. -/
inductive Action where
  | letIn (ip : IpAddress) (device : Device)
  | take (ip : IpAddress)
  | isAdmitted (ip : IpAddress)
  | sweep

/-- What it answers. -/
inductive Answer where
  | nothing
  | taken (admission : Option Admission)
  | admitted (found : Bool)
  | brokeDown
deriving DecidableEq

/-- What becomes of a gate. It stays as it was if it broke down. -/
def act (clock : Clock) (g : AdmissionGate) : Action → AdmissionGate
  | .letIn ip device => (g.letIn clock ip device).getD g
  | .take ip => (g.take clock ip).1
  | .isAdmitted ip => (g.isAdmitted clock ip).1
  | .sweep => g.sweep clock

/-- What the gate answers. -/
def answer (clock : Clock) (g : AdmissionGate) : Action → Answer
  | .letIn ip device => if (g.letIn clock ip device).isSome then .nothing else .brokeDown
  | .take ip => .taken (g.take clock ip).2
  | .isAdmitted ip => .admitted (g.isAdmitted clock ip).2
  | .sweep => .nothing

/-- A gate that admits nobody yet, with the time that an admission counts in nanoseconds. -/
def ofNanoseconds (ttl capacity : Nat) : AdmissionGate := new (RecencyList.lifetime ttl) capacity

end AdmissionGate

namespace RecencyList

/-- What becomes of a list. Nobody is let in where the machine has no number for the end of it. -/
def act (ttl capacity : Nat) (clock : Clock) (l : RecencyList) :
    AdmissionGate.Action → RecencyList
  | .letIn ip device => if InRange ttl clock then l.letIn ttl capacity clock ip device else l
  | .take ip => Assoc.erase l ip
  | .isAdmitted _ => l
  | .sweep => l

/-- What the list answers. -/
def answer (ttl : Nat) (clock : Clock) (l : RecencyList) :
    AdmissionGate.Action → AdmissionGate.Answer
  | .letIn .. => if InRange ttl clock then .nothing else .brokeDown
  | .take ip => .taken (l.find? ttl clock.instant ip)
  | .isAdmitted ip => .admitted (l.find? ttl clock.instant ip).isSome
  | .sweep => .nothing

end RecencyList

/-! ### Gate and list side by side -/

namespace AdmissionGate

variable {g : AdmissionGate} {l : RecencyList} {ttl capacity now later : Nat} {clock : Clock}
  {ip : IpAddress} {device : Device}

/-- The gate means the same as the list. -/
structure Mirrors (ttl capacity : Nat) (g : AdmissionGate) (now : Nat) (l : RecencyList) :
    Prop where
  ttl_eq : g.ttl = RecencyList.lifetime ttl
  within : g.entries.Within (max 1 capacity) .evictEarliest
  live_eq : g.entries.live now = (l.fresh ttl now).toMap ttl
  ordered : l.Ordered now
  length_le : l.length ≤ max 1 capacity

theorem mirrors_new (ttl capacity now : Nat) :
    Mirrors ttl capacity (ofNanoseconds ttl capacity) now [] where
  ttl_eq := rfl
  within := Store.within_empty _ _ _
  live_eq := Store.live_empty _ _ _ _
  ordered := ⟨.nil, List.nodup_nil, nofun⟩
  length_le := Nat.zero_le _

theorem Mirrors.mono (h : g.Mirrors ttl capacity now l) (httl : 0 < ttl) (hle : now ≤ later) :
    g.Mirrors ttl capacity later l where
  ttl_eq := h.ttl_eq
  within := h.within
  live_eq := by
    have hnodup := (h.ordered.sublist (RecencyList.fresh_sublist ttl now l)).nodup
    rw [Store.live_later _ hle, h.live_eq, RecencyList.liveAt_toMap httl hnodup,
      RecencyList.fresh_fresh hle]
  ordered := h.ordered.mono hle
  length_le := h.length_le

/-- The gate finds what the list has. -/
theorem Mirrors.get?_eq (h : g.Mirrors ttl capacity now l) (ip : IpAddress) :
    g.entries.get? now ip = l.find? ttl now ip := by
  rw [Store.get?_eq_live, h.live_eq, RecencyList.lookup_toMap, Option.map_map]
  rfl

theorem Mirrors.inRange_iff (h : g.Mirrors ttl capacity now l) :
    g.InRange clock ↔ RecencyList.InRange ttl clock := by
  rw [InRange, h.ttl_eq]
  rfl

theorem Mirrors.answer_eq (h : g.Mirrors ttl capacity clock.instant l) (action : Action) :
    g.answer clock action = l.answer ttl clock action := by
  cases action with
  | letIn ip device =>
    rw [answer, letIn_eq, RecencyList.answer]
    by_cases hrange : g.InRange clock
    · rw [if_pos hrange, if_pos (h.inRange_iff.mp hrange)]
      rfl
    · rw [if_neg hrange, if_neg (mt h.inRange_iff.mpr hrange)]
      rfl
  | take ip => exact congrArg Answer.taken (h.get?_eq ip)
  | isAdmitted ip =>
    show Answer.admitted (g.entries.lookup clock.instant ip).2.isSome = _
    rw [Store.lookup_snd, h.get?_eq]
    rfl
  | sweep => rfl

theorem Mirrors.take (h : g.Mirrors ttl capacity clock.instant l) (ip : IpAddress) :
    (g.take clock ip).1.Mirrors ttl capacity clock.instant (Assoc.erase l ip) where
  ttl_eq := h.ttl_eq
  within := h.within.erase ip
  live_eq := by
    show (g.entries.erase ip).live clock.instant = _
    rw [Store.live_erase, h.live_eq, ← RecencyList.toMap_erase]
    simp only [RecencyList.fresh, Assoc.erase, List.filter_filter, Bool.and_comm]
  ordered := h.ordered.sublist List.filter_sublist
  length_le := (List.length_filter_le _ _).trans h.length_le

/-- The front of the list is a new admission, and the rest of it are those others that are fresh, as
many as there is room for. -/
theorem Mirrors.letIn (h : g.Mirrors ttl capacity clock.instant l) (httl : 0 < ttl)
    (hapart : ∀ e ∈ l, e.1 ≠ ip → e.2.instant ≠ clock.instant) :
    (g.withAdmission clock ip device).Mirrors ttl capacity clock.instant
      (l.letIn ttl capacity clock ip device) := by
  have hordered := h.ordered.cons_others hapart ttl ⟨device, clock.unixSeconds⟩
  have hothers := h.ordered.sublist (RecencyList.others_sublist ttl clock.instant l ip)
  have hopens := opens_withAdmission (h.within.capacity_eq ▸ h.within)
    (h.ttl_eq ▸ RecencyList.lifetime_pos httl) clock ip device
  have herase : (g.entries.live clock.instant).erase ip =
      (l.others ttl clock.instant ip).toMap ttl := by
    rw [h.live_eq, RecencyList.others, RecencyList.toMap_erase]
  have hroomy := hopens.roomy
  have hcrowded := hopens.crowded
  -- Both say what happens in terms of the live entries of others, which the list has as well.
  rw [herase, hothers.card_toMap, h.within.capacity_eq, h.ttl_eq] at hroomy hcrowded
  refine ⟨h.ttl_eq, h.within.write _ _ _, ?_, hordered.sublist (List.take_sublist _ _),
    List.length_take_le _ _⟩
  rw [RecencyList.fresh_letIn httl]
  rcases Nat.lt_or_ge (l.others ttl clock.instant ip).length (max 1 capacity) with hroom | hfull
  · rw [hroomy hroom, RecencyList.letIn_of_room device hroom, RecencyList.toMap_cons]
    rfl
  · have hfit : (l.others ttl clock.instant ip).length ≤ max 1 capacity :=
      (RecencyList.others_sublist _ _ _ _).length_le.trans h.length_le
    obtain ⟨victim, hearliest, hlive⟩ := hcrowded hfull
    -- The list loses its last admission, which is the one that expires first.
    rw [hlive, RecencyList.letIn_of_full device (Nat.le_antisymm hfit hfull),
      RecencyList.toMap_cons, ← hothers.erase_earliest hearliest, RecencyList.toMap_erase]
    rfl

/-- What is not seen among the live entries does not matter. -/
theorem Mirrors.of_live_eq {g' : AdmissionGate} (h : g.Mirrors ttl capacity now l)
    (httl : g'.ttl = g.ttl) (hwithin : g'.entries.Within (max 1 capacity) .evictEarliest)
    (hlive : g'.entries.live now = g.entries.live now) : g'.Mirrors ttl capacity now l where
  ttl_eq := httl.trans h.ttl_eq
  within := hwithin
  live_eq := hlive.trans h.live_eq
  ordered := h.ordered
  length_le := h.length_le

/-- To let an address in is to admit it, or to break down and leave the gate as it was. -/
theorem act_letIn (clock : Clock) (g : AdmissionGate) (ip : IpAddress) (device : Device) :
    act clock g (.letIn ip device) =
      if g.InRange clock then g.withAdmission clock ip device else g := by
  rw [act, letIn_eq]
  split <;> rfl

/-- Whatever is done with a gate, the list stays its mirror. -/
theorem Mirrors.act (h : g.Mirrors ttl capacity clock.instant l) (httl : 0 < ttl) (action : Action)
    (hapart : ∀ ip device, action = .letIn ip device → g.InRange clock →
      ∀ e ∈ l, e.1 ≠ ip → e.2.instant ≠ clock.instant) :
    (act clock g action).Mirrors ttl capacity clock.instant
      (RecencyList.act ttl capacity clock l action) := by
  cases action with
  | letIn ip device =>
    rw [act_letIn, RecencyList.act]
    by_cases hrange : g.InRange clock
    · rw [if_pos hrange, if_pos (h.inRange_iff.mp hrange)]
      exact h.letIn httl (hapart ip device rfl hrange)
    · rwa [if_neg hrange, if_neg (mt h.inRange_iff.mpr hrange)]
  | take ip => exact h.take ip
  | isAdmitted ip => exact h.of_live_eq rfl (h.within.lookup _ ip) (Store.live_lookup _ _ ip)
  | sweep => exact h.of_live_eq rfl (h.within.sweep _) (Store.live_sweep _ _)

/-- Whether an address is admitted. -/
def Admits (g : AdmissionGate) (clock : Clock) (ip : IpAddress) : Prop :=
  (g.isAdmitted clock ip).2 = true

instance (g : AdmissionGate) (clock : Clock) (ip : IpAddress) : Decidable (g.Admits clock ip) :=
  inferInstanceAs (Decidable (_ = true))

theorem Mirrors.admits_iff (h : g.Mirrors ttl capacity clock.instant l) :
    g.Admits clock ip ↔ ∃ stamped, (ip, stamped) ∈ l.fresh ttl clock.instant := by
  have hnodup := (h.ordered.sublist (RecencyList.fresh_sublist ttl clock.instant l)).nodup
  have hanswer : (g.isAdmitted clock ip).2 = (l.find? ttl clock.instant ip).isSome :=
    Answer.admitted.inj (h.answer_eq (.isAdmitted ip))
  rw [Admits, hanswer, RecencyList.find?, Option.isSome_map, Option.isSome_iff_exists]
  exact exists_congr fun stamped => ⟨Assoc.mem_of_get?, Assoc.get?_of_mem hnodup⟩

/-! ### What has happened -/

/-- An event of a run, with the moment that it meets. -/
abbrev Happening : Type := Timed AdmissionGate × Event Action

/-- The address that an event lets in. There is none if the gate breaks down. -/
def letsIn? (p : Happening) : Option IpAddress :=
  match p.2 with
  | .act (.letIn ip _) => if p.1.state.InRange p.1.clock then some ip else none
  | .act (.take _) | .act (.isAdmitted _) | .act .sweep | .advance _ => none

/-- Two events do not let different addresses in at one instant. -/
def Apart (p q : Happening) : Prop :=
  ∀ ip ∈ letsIn? p, ∀ ip' ∈ letsIn? q, ip ≠ ip' → p.1.clock.instant ≠ q.1.clock.instant

instance (p q : Happening) : Decidable (Apart p q) :=
  inferInstanceAs (Decidable (∀ ip ∈ letsIn? p, ∀ ip' ∈ letsIn? q, _))

/-- The instant at which an address was last let in. -/
def lastLetIn (past : List Happening) (ip : IpAddress) : Option Nat :=
  past.foldl (fun last p => if letsIn? p = some ip then some p.1.clock.instant else last) none

theorem lastLetIn_concat (past : List Happening) (p : Happening) (ip : IpAddress) :
    lastLetIn (past ++ [p]) ip =
      if letsIn? p = some ip then some p.1.clock.instant else lastLetIn past ip := by
  simp only [lastLetIn, List.foldl_append, List.foldl_cons, List.foldl_nil]

/-- It stays what it was when nobody is let in, or somebody else. -/
theorem lastLetIn_concat_of_ne {past : List Happening} {p : Happening} {last : Option Nat}
    (h : letsIn? p ≠ some ip) (hlast : lastLetIn past ip = last) :
    lastLetIn (past ++ [p]) ip = last := by
  rw [lastLetIn_concat, if_neg h, hlast]

theorem exists_of_lastLetIn {past : List Happening} {instant : Nat}
    (h : lastLetIn past ip = some instant) :
    ∃ p ∈ past, letsIn? p = some ip ∧ p.1.clock.instant = instant := by
  induction past using List.reverseRecOn with
  | nil => cases h
  | append_singleton past p ih =>
    rw [lastLetIn_concat] at h
    split at h
    · exact ⟨p, List.mem_append_right past (List.mem_singleton_self p), ‹_›, Option.some.inj h⟩
    · obtain ⟨q, hq, hlast⟩ := ih h
      exact ⟨q, List.mem_append_left [p] hq, hlast⟩

variable {past : List Happening} {t : Timed AdmissionGate} {e : Event Action}

/-- The list is the mirror of the gate at a moment, and has every address with the instant at which
it was last let in. -/
structure Follows (ttl capacity : Nat) (past : List Happening) (t : Timed AdmissionGate)
    (l : RecencyList) : Prop where
  mirrors : t.state.Mirrors ttl capacity t.clock.instant l
  last : ∀ e ∈ l, lastLetIn past e.1 = some e.2.instant

/-- The list after an event. -/
def next (ttl capacity : Nat) (clock : Clock) (l : RecencyList) (e : Event Action) : RecencyList :=
  (Timed.next (RecencyList.act ttl capacity) ⟨clock, l⟩ e).state

/-- Nobody in the list was admitted at the instant at which another address is let in. -/
theorem Follows.instant_ne (h : Follows ttl capacity past t l) {ip : IpAddress} {device : Device}
    (hrange : t.state.InRange t.clock)
    (hapart : ∀ p ∈ past, Apart p (t, .act (.letIn ip device))) :
    ∀ entry ∈ l, entry.1 ≠ ip → entry.2.instant ≠ t.clock.instant := by
  intro entry hentry hne heq
  obtain ⟨p, hp, hletsIn, hinstant⟩ := exists_of_lastLetIn (h.last entry hentry)
  exact hapart p hp entry.1 hletsIn ip (if_pos hrange) hne (hinstant.trans heq)

/-- The list after an address was let in has every address with the instant of that. -/
theorem Follows.last_letIn (h : Follows ttl capacity past t l) {ip : IpAddress} {device : Device}
    {entry : IpAddress × Stamped}
    (hentry : entry ∈ next ttl capacity t.clock l (.act (.letIn ip device))) :
    lastLetIn (past ++ [(t, .act (.letIn ip device))]) entry.1 = some entry.2.instant := by
  by_cases hrange : t.state.InRange t.clock
  · have hletsIn : letsIn? (t, .act (.letIn ip device)) = some ip := if_pos hrange
    change entry ∈ RecencyList.act ttl capacity t.clock l (.letIn ip device) at hentry
    rw [RecencyList.act, if_pos (h.mirrors.inRange_iff.mp hrange)] at hentry
    rcases RecencyList.mem_others_of_mem_letIn hentry with rfl | hother
    · rw [lastLetIn_concat, if_pos hletsIn]
    · obtain ⟨-, hne⟩ := RecencyList.mem_others.mp hother
      refine lastLetIn_concat_of_ne ?_
        (h.last entry ((RecencyList.others_sublist _ _ _ _).subset hother))
      rw [hletsIn]
      exact fun heq => hne (Option.some.inj heq).symm
  · have hnobody : letsIn? (t, .act (.letIn ip device)) = none := if_neg hrange
    change entry ∈ RecencyList.act ttl capacity t.clock l (.letIn ip device) at hentry
    rw [RecencyList.act, if_neg (mt h.mirrors.inRange_iff.mpr hrange)] at hentry
    refine lastLetIn_concat_of_ne ?_ (h.last entry hentry)
    rw [hnobody]
    exact nofun

/-- Gate and list go on together, if the clock does not go back and nobody else is let in at the
instant of an earlier admission. -/
theorem Follows.next (h : Follows ttl capacity past t l) (httl : 0 < ttl)
    (hclock : t.clock.instant ≤ (t.next act e).clock.instant)
    (hapart : ∀ p ∈ past, Apart p (t, e)) :
    Follows ttl capacity (past ++ [(t, e)]) (t.next act e) (next ttl capacity t.clock l e) := by
  cases e with
  | advance ms =>
    refine ⟨h.mirrors.mono httl hclock, fun entry hentry => ?_⟩
    exact lastLetIn_concat_of_ne nofun (h.last entry hentry)
  | act action =>
    refine ⟨h.mirrors.act httl action ?_, fun entry hentry => ?_⟩
    · rintro ip device rfl hrange
      exact h.instant_ne hrange hapart
    · cases action with
      | letIn ip device => exact h.last_letIn hentry
      | take ip =>
        exact lastLetIn_concat_of_ne nofun (h.last entry (List.mem_of_mem_filter hentry))
      | isAdmitted ip => exact lastLetIn_concat_of_ne nofun (h.last entry hentry)
      | sweep => exact lastLetIn_concat_of_ne nofun (h.last entry hentry)

/-- Gate and list stay together in a whole run: they answer the same, and at every moment the gate
has a list that follows it. -/
theorem Follows.run (httl : 0 < ttl) (events : List (Event Action)) :
    ∀ (past : List Happening) (t : Timed AdmissionGate) (l : RecencyList),
      Follows ttl capacity past t l →
      (∀ p ∈ trace act t events, p.1.clock.instant ≤ (p.1.next act p.2).clock.instant) →
      (past ++ trace act t events).Pairwise Apart →
      answers act answer t events =
        answers (RecencyList.act ttl capacity) (RecencyList.answer ttl) ⟨t.clock, l⟩ events ∧
      ∀ before p later, trace act t events = before ++ p :: later →
        ∃ l', Follows ttl capacity (past ++ before) p.1 l' := by
  induction events with
  | nil =>
    refine fun _ _ _ _ _ _ => ⟨rfl, fun before p later h => ?_⟩
    cases before <;> cases h
  | cons e rest ih =>
    intro past t l h hclock hapart
    have hfirst : ∀ p ∈ past, Apart p (t, e) := fun p hp =>
      (List.pairwise_append.mp hapart).2.2 p hp (t, e) List.mem_cons_self
    have hnext := h.next httl (hclock (t, e) List.mem_cons_self) hfirst
    -- What is past for the rest of the run has grown by this event.
    rw [trace, List.append_cons] at hapart
    obtain ⟨hanswers, hlater⟩ := ih _ _ _ hnext
      (fun p hp => hclock p (List.mem_cons_of_mem (t, e) hp)) hapart
    constructor
    · cases e with
      | act action => exact congrArg₂ List.cons (h.mirrors.answer_eq action) hanswers
      | advance ms => exact hanswers
    · intro before p later hsplit
      cases before with
      | nil =>
        cases hsplit
        rw [List.append_nil]
        exact ⟨l, h⟩
      | cons b before =>
        obtain ⟨rfl, hrest⟩ := List.cons.inj hsplit
        have hmoved := hlater before p later hrest
        rwa [List.append_assoc past] at hmoved

/-! ### How an address is lost -/

/-- How an address that was admitted before an event comes to be no longer admitted after it. -/
inductive Lost (ttl capacity : Nat) (past : List Happening) (p : Happening) (ip : IpAddress) :
    Prop where
  | taken (htake : p.2 = .act (.take ip))
  /-- It was last let in `ttl` or more ago. -/
  | outlived {instant : Nat} (hlast : lastLetIn past ip = some instant)
    (hlate : ttl ≤ ((p.1.next act p.2).clock.instant - instant) * millisecondNs)
  /-- Another address was let in, and now there are as many others as the gate has room for, all of
  them admitted and let in later. -/
  | displaced {other : IpAddress} {instant : Nat}
    (hletIn : letsIn? p = some other) (hother : other ≠ ip)
    (hlast : lastLetIn past ip = some instant) (others : Finset IpAddress)
    (hcard : others.card = max 1 capacity)
    (hothers : ∀ a ∈ others, a ≠ ip ∧
      (p.1.next act p.2).state.Admits (p.1.next act p.2).clock a ∧
      ∃ instant', lastLetIn (past ++ [p]) a = some instant' ∧ instant < instant')

/-- Whoever is not admitted is not in the list, or has been there too long. -/
theorem Follows.not_mem_fresh (h : Follows ttl capacity past t l)
    (hafter : ¬ t.state.Admits t.clock ip) (stamped : Stamped) :
    (ip, stamped) ∉ l.fresh ttl t.clock.instant :=
  fun hstays => hafter (h.mirrors.admits_iff.mpr ⟨stamped, hstays⟩)

/-- Whoever is lost when another address is let in has been pushed out of the list by all that is in
it now. -/
theorem Follows.displaced {other : IpAddress} {device : Device}
    (h : Follows ttl capacity past t l) (httl : 0 < ttl) (hrange : t.state.InRange t.clock)
    (hapart : ∀ q ∈ past, Apart q (t, .act (.letIn other device)))
    (hbefore : t.state.Admits t.clock ip)
    (hafter : ¬ (act t.clock t.state (.letIn other device)).Admits t.clock ip) :
    Lost ttl capacity past (t, .act (.letIn other device)) ip := by
  obtain ⟨stamped, hfresh⟩ := h.mirrors.admits_iff.mp hbefore
  let front := l.letIn ttl capacity t.clock other device
  have hnext : Follows ttl capacity (past ++ [(t, .act (.letIn other device))])
      ⟨t.clock, act t.clock t.state (.letIn other device)⟩ front := by
    have hfollows := h.next httl (Nat.le_refl _) hapart
    have hfront : AdmissionGate.next ttl capacity t.clock l (.act (.letIn other device)) = front :=
      if_pos (h.mirrors.inRange_iff.mp hrange)
    rwa [hfront] at hfollows
  have hall : front.fresh ttl t.clock.instant = front := RecencyList.fresh_letIn httl
  have hgone : (ip, stamped) ∉ front := hall ▸ hnext.not_mem_fresh hafter stamped
  have hne : ip ≠ other := by
    rintro rfl
    refine hnext.not_mem_fresh hafter ⟨⟨device, t.clock.unixSeconds⟩, t.clock.instant⟩ ?_
    rw [hall]
    exact RecencyList.mem_letIn t.clock device
  -- So the address is behind what the list was cut to.
  have hordered := h.mirrors.ordered.cons_others (h.instant_ne hrange hapart) ttl
    ⟨device, t.clock.unixSeconds⟩
  obtain ⟨hlength, holder⟩ := hordered.of_not_mem_take
    (List.mem_cons_of_mem _ (RecencyList.mem_others.mpr ⟨hfresh, hne⟩)) hgone
  have hlast := h.last _ ((RecencyList.fresh_sublist _ _ _).subset hfresh)
  refine .displaced (if_pos hrange) (Ne.symm hne) hlast (Assoc.keys front).toFinset ?_
    fun a ha => ?_
  · rw [List.toFinset_card_of_nodup hnext.mirrors.ordered.nodup, Assoc.keys, List.length_map]
    exact hlength
  · obtain ⟨entry, hentry, rfl⟩ := List.mem_map.mp (List.mem_toFinset.mp ha)
    have hadmits : (act t.clock t.state (.letIn other device)).Admits t.clock entry.1 :=
      hnext.mirrors.admits_iff.mpr ⟨entry.2, hall.symm ▸ hentry⟩
    refine ⟨?_, hadmits, entry.2.instant, hnext.last entry hentry, holder entry hentry⟩
    rintro rfl
    exact hafter hadmits

/-- What was admitted before an event and is not after it has been lost in one of three ways. -/
theorem Follows.lost {p : Happening} (h : Follows ttl capacity past p.1 l) (httl : 0 < ttl)
    (hclock : p.1.clock.instant ≤ (p.1.next act p.2).clock.instant)
    (hapart : ∀ q ∈ past, Apart q p) (hbefore : p.1.state.Admits p.1.clock ip)
    (hafter : ¬ (p.1.next act p.2).state.Admits (p.1.next act p.2).clock ip) :
    Lost ttl capacity past p ip := by
  obtain ⟨t, e⟩ := p
  have hgone := (h.next httl hclock hapart).not_mem_fresh hafter
  obtain ⟨stamped, hfresh⟩ := h.mirrors.admits_iff.mp hbefore
  obtain ⟨hmem, hnear⟩ := List.mem_filter.mp hfresh
  cases e with
  | advance ms =>
    refine .outlived (h.last _ hmem) ?_
    by_contra hearly
    exact hgone stamped (List.mem_filter.mpr ⟨hmem, decide_eq_true (Nat.not_le.mp hearly)⟩)
  | act action =>
    cases action with
    | letIn other device =>
      by_cases hrange : t.state.InRange t.clock
      · exact h.displaced httl hrange hapart hbefore hafter
      -- A gate that broke down is what it was.
      · have hsame : act t.clock t.state (.letIn other device) = t.state :=
          (act_letIn t.clock t.state other device).trans (if_neg hrange)
        change ¬ (act t.clock t.state (.letIn other device)).Admits t.clock ip at hafter
        rw [hsame] at hafter
        exact absurd hbefore hafter
    | take ip' =>
      refine .taken ?_
      by_contra hother
      have hne : ip ≠ ip' := fun heq => hother (by rw [heq])
      have hkept : (ip, stamped) ∈ Assoc.erase l ip' :=
        List.mem_filter.mpr ⟨hmem, by simpa using hne⟩
      exact hgone stamped (List.mem_filter.mpr ⟨hkept, hnear⟩)
    | isAdmitted ip' => exact absurd hfresh (hgone stamped)
    | sweep => exact absurd hfresh (hgone stamped)

/-- A gate is a bounded list of the most recent admissions. Take any time that an admission counts
and any capacity, where zero counts as one, and any run in which the clock does not go back and no
two different addresses are let in at one instant. The gate answers as the list does: to let an
address in drops what was admitted `ttl` or more ago, puts the address in front with its new
device and cuts the list to its length, and to take it removes it.

So an address that is let in is admitted, however full the gate. It is lost again when it is
taken, when it was last let in `ttl` ago, or when others displace it that have been let in
later and are still admitted, as many as the gate has room for.

Only if the machine has no number for the end of an admission, to let an address in breaks down.
Then it is let in by neither of the two, and nothing changes. -/
theorem answers_most_recent (ttl capacity : Nat) (clock : Clock) (events : List (Event Action))
    (httl : 0 < ttl)
    (hclock : ∀ p ∈ trace act ⟨clock, ofNanoseconds ttl capacity⟩ events,
      p.1.clock.instant ≤ (p.1.next act p.2).clock.instant)
    (hapart : (trace act ⟨clock, ofNanoseconds ttl capacity⟩ events).Pairwise Apart) :
    answers act answer ⟨clock, ofNanoseconds ttl capacity⟩ events =
      answers (RecencyList.act ttl capacity) (RecencyList.answer ttl) ⟨clock, []⟩ events ∧
    ∀ past p later, trace act ⟨clock, ofNanoseconds ttl capacity⟩ events = past ++ p :: later →
      (∀ ip device, p.2 = .act (.letIn ip device) →
        if RecencyList.InRange ttl p.1.clock then
          ((p.1.next act p.2).state.take p.1.clock ip).2 = some ⟨device, p.1.clock.unixSeconds⟩
        else (p.1.next act p.2).state = p.1.state) ∧
      ∀ ip, p.1.state.Admits p.1.clock ip →
        ¬ (p.1.next act p.2).state.Admits (p.1.next act p.2).clock ip →
          Lost ttl capacity past p ip := by
  have hstart : Follows ttl capacity [] ⟨clock, ofNanoseconds ttl capacity⟩ [] :=
    ⟨mirrors_new ttl capacity clock.instant, nofun⟩
  obtain ⟨hanswers, hfollows⟩ := Follows.run httl events [] _ [] hstart hclock hapart
  refine ⟨hanswers, fun past p later hsplit => ?_⟩
  obtain ⟨l, h⟩ := hfollows past p later hsplit
  rw [hsplit] at hclock hapart
  have hmem : p ∈ past ++ p :: later := by simp
  refine ⟨fun ip device hletIn => ?_, fun ip hbefore hafter => ?_⟩
  · have httl' : 0 < p.1.state.ttl := h.mirrors.ttl_eq ▸ RecencyList.lifetime_pos httl
    have hact : (p.1.next act p.2).state =
        if p.1.state.InRange p.1.clock then p.1.state.withAdmission p.1.clock ip device
        else p.1.state := by
      rw [hletIn]
      exact act_letIn _ _ _ _
    rw [hact]
    by_cases hrange : p.1.state.InRange p.1.clock
    · rw [if_pos hrange, if_pos (h.mirrors.inRange_iff.mp hrange)]
      exact take_withAdmission h.mirrors.within ip device (Nat.le_refl _) (by omega)
    · rw [if_neg hrange, if_neg (mt h.mirrors.inRange_iff.mpr hrange)]
  · exact h.lost httl (hclock p hmem)
      (fun q hq => (List.pairwise_append.mp hapart).2.2 q hq p List.mem_cons_self) hbefore hafter

/-- A gate for two addresses. The first is let in a second time before a third comes, so that it is
the second that is displaced. -/
theorem answers_most_recent_of_three :
    let device : Device :=
      ⟨⟨"tablet", by decide, by decide⟩, ⟨List.replicate 16 7, by decide⟩, .commonName "tablet",
        ["ssh"]⟩
    let renewed : Device := { device with services := ["ssh", "web"] }
    let ip : UInt8 → IpAddress := fun last => .v4 ⟨[192, 0, 2, last], rfl⟩
    let events : List (Event Action) := [.act (.letIn (ip 1) device), .advance 1,
      .act (.letIn (ip 2) device), .advance 1, .act (.letIn (ip 1) renewed), .advance 1,
      .act (.letIn (ip 3) device), .act (.isAdmitted (ip 2)), .act (.take (ip 1)),
      .act (.isAdmitted (ip 1)), .advance 30000, .act .sweep, .act (.isAdmitted (ip 3))]
    let start : Timed AdmissionGate := ⟨.startingAt 0, ofNanoseconds 30000000000 2⟩
    let run := trace act start events
    (0 < 30000000000 ∧ (∀ p ∈ run, p.1.clock.instant ≤ (p.1.next act p.2).clock.instant) ∧
      run.Pairwise Apart) ∧
    answers act answer start events = [.nothing, .nothing, .nothing, .nothing, .admitted false,
      .taken (some ⟨renewed, 0⟩), .admitted false, .nothing, .admitted false] ∧
    ∃ p, run[6]? = some p ∧ p.2 = .act (.letIn (ip 3) device) ∧
      Lost 30000000000 2 (run.take 6) p (ip 2) := by
  intro device renewed ip events start run
  have hclock : ∀ p ∈ run, p.1.clock.instant ≤ (p.1.next act p.2).clock.instant := by
    decide +kernel
  have hapart : run.Pairwise Apart := by decide +kernel
  obtain ⟨hanswers, hmoments⟩ :=
    answers_most_recent 30000000000 2 (.startingAt 0) events (by decide) hclock hapart
  refine ⟨⟨by decide, hclock, hapart⟩, hanswers.trans (by decide +kernel), _, rfl, rfl, ?_⟩
  exact (hmoments (run.take 6) _ (run.drop 7) rfl).2 (ip 2) (by decide +kernel) (by decide +kernel)

/-- Admissions last for as long as a configuration can say, and the machine has been up for a
second. The list would have the address in front, but the gate lets nobody in. -/
theorem breaks_down_of_longest_ttl :
    let device : Device :=
      ⟨⟨"tablet", by decide, by decide⟩, ⟨List.replicate 16 7, by decide⟩, .commonName "tablet",
        ["ssh"]⟩
    let ip : IpAddress := .v4 ⟨[192, 0, 2, 1], rfl⟩
    let ttl := 9223372036854775807 * 1000000000
    let clock : Clock := ⟨0, 1000, 0⟩
    let events : List (Event Action) := [.act (.letIn ip device), .act (.take ip)]
    let run := trace act ⟨clock, ofNanoseconds ttl 2⟩ events
    (0 < ttl ∧ (∀ p ∈ run, p.1.clock.instant ≤ (p.1.next act p.2).clock.instant) ∧
      run.Pairwise Apart) ∧
    RecencyList.find? ttl clock.instant (RecencyList.letIn ttl 2 clock [] ip device) ip =
      some ⟨device, 0⟩ ∧
    answers act answer ⟨clock, ofNanoseconds ttl 2⟩ events = [.brokeDown, .taken none] := by
  decide +kernel

end AdmissionGate

end Perimeter
