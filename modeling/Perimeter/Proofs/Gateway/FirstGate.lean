import Mathlib.Data.Set.Function
import Perimeter.Proofs.Gateway.Warrant

/-!
# `Perimeter.Proofs.Gateway.FirstGate`: one knock, one connection

A connection passes the first gate if the gate has a live entry for its address. This module
follows every entry back to where it comes from. `Origin` says of an entry that the last knock
admitted from its address made it, and that no connection from the address has come since;
every event of a run keeps that true of all entries (`Accounted.next`).

So a connection that passes rests on a knock of its own (`first_gate_rests_on_own_knock`): a
second connection would need a second knock, because the first has used the entry up.
-/

set_option autoImplicit false

namespace Perimeter.Gateway.Server

/-- What may happen to a gateway while it is at work. -/
inductive Action where
  | knock (source : IpAddress) (datagram : Bytes)
  | connect (source : IpAddress) (handshake : Handshake)
  | sweepReplay
  | sweepTokens
  | sweepGate
  | upsert (device : Device)
  | remove (id : DeviceId)

/-- What an action makes of a gateway. -/
def act (clock : Clock) (s : Server) : Action → Server
  | .knock source datagram => s.knock clock source datagram
  | .connect source handshake => (s.connect clock source handshake).1
  | .sweepReplay => { s with port := s.port.sweep clock }
  | .sweepTokens =>
    { s with doorkeeper := { s.doorkeeper with
        tokens := s.doorkeeper.tokens.map (·.sweep clock) } }
  | .sweepGate =>
    { s with doorkeeper := { s.doorkeeper with gate := s.doorkeeper.gate.sweep clock } }
  | .upsert device => s.withRegistry (s.registry.upsert device)
  | .remove id => s.withRegistry (s.registry.erase id)

/-- An event of a run with the moment that it meets. -/
abbrev Happening := Timed Server × Event Action

/-- A datagram from an address is admitted as a knock. -/
def Happening.Knocks (p : Happening) (source : IpAddress) (datagram : Bytes)
    (k : ValidatedKnock) : Prop :=
  p.2 = .act (.knock source datagram) ∧ p.1.state.Admits p.1.clock source datagram k

/-- A connection comes from an address. -/
def Happening.Connects (p : Happening) (source : IpAddress) : Prop :=
  ∃ handshake, p.2 = .act (.connect source handshake)

/-- A connection from an address passes the first gate with an admission. -/
def Happening.Passes (p : Happening) (source : IpAddress) (admission : Admission) : Prop :=
  p.Connects source ∧ (p.1.state.doorkeeper.gate.take p.1.clock source).2 = some admission

/-- What happens neither admits a knock from an address nor is a connection from it. -/
def Happening.Spares (p : Happening) (source : IpAddress) : Prop :=
  (∀ datagram k, ¬ p.Knocks source datagram k) ∧ ¬ p.Connects source

/-- What the event of one index of a run is to a connection of a later index that passes. -/
structure Rests (run : List Happening) (ttl i j : Nat) (q : Happening) (source : IpAddress)
    (admission : Admission) : Prop where
  earlier : i < j
  /-- The event is a datagram from the same address that was worth an admission. -/
  warranted : ∃ p datagram k, run[i]? = some p ∧ p.Knocks source datagram k ∧
    p.1.state.Warrants p.1.clock datagram k ∧
    admission = ⟨k.device, p.1.clock.unixSeconds⟩ ∧
    p.1.clock.instant ≤ q.1.clock.instant ∧ q.1.clock.instant < p.1.clock.instant + ttl
  /-- No other knock from the address was admitted in between, and no connection came. -/
  undisturbed : ∀ m r, i < m → m < j → run[m]? = some r → r.Spares source

/-! ### Where the entries of the gate come from -/

/-- An entry of the gate was made by the last knock admitted from its address, and no
connection from the address has come since. -/
def Origin (past : List Happening) (now ttl : Nat) (source : IpAddress)
    (entry : Expiring Admission) : Prop :=
  ∃ older p newer datagram k, past = older ++ p :: newer ∧ p.Knocks source datagram k ∧
    entry = ⟨⟨k.device, p.1.clock.unixSeconds⟩, p.1.clock.instant + ttl⟩ ∧
    p.1.clock.instant ≤ now ∧ ∀ r ∈ newer, r.Spares source

/-- Every live entry of the gate has an origin in the past. -/
structure Accounted (ttl capacity : Nat) (past : List Happening) (t : Timed Server) : Prop where
  ttl_eq : t.state.doorkeeper.gate.ttl = ttl
  within : t.state.doorkeeper.gate.entries.Within capacity .evictEarliest
  origin : ∀ source entry,
    (t.state.doorkeeper.gate.entries.live t.clock.instant).lookup source = some entry →
      Origin past t.clock.instant ttl source entry

variable {past : List Happening} {t : Timed Server} {e : Event Action} {ttl capacity : Nat}

/-- What spares the address of an entry leaves its origin as it is. -/
theorem Origin.append {now later : Nat} {source : IpAddress} {entry : Expiring Admission}
    {p : Happening} (h : Origin past now ttl source entry) (hle : now ≤ later)
    (hspares : p.Spares source) : Origin (past ++ [p]) later ttl source entry := by
  obtain ⟨older, first, newer, datagram, k, rfl, hknocks, hentry, hbefore, hnewer⟩ := h
  refine ⟨older, first, newer ++ [p], datagram, k, by simp, hknocks, hentry,
    Nat.le_trans hbefore hle, ?_⟩
  intro r hr
  rcases List.mem_append.mp hr with hr | hr
  · exact hnewer r hr
  · rw [List.mem_singleton.mp hr]
    exact hspares

/-- What the gate has after letting an address in is the new entry, or another address's
entry from before. -/
theorem lookup_withAdmission {g : AdmissionGate} {clock : Clock} {source ip : IpAddress}
    {device : Device} {entry : Expiring Admission}
    (hwithin : g.entries.Within capacity .evictEarliest) (httl : 0 < g.ttl)
    (h : ((g.withAdmission clock source device).entries.live clock.instant).lookup ip =
      some entry) :
    (ip = source ∧ entry = ⟨⟨device, clock.unixSeconds⟩, clock.instant + g.ttl⟩) ∨
      (ip ≠ source ∧ (g.entries.live clock.instant).lookup ip = some entry) :=
  (Store.written_write hwithin (Store.isLive_of_lasts httl)).lookup_of_evictEarliest h

theorem Happening.spares_of_ne {source : IpAddress}
    (hknock : ∀ datagram, e ≠ .act (.knock source datagram))
    (hconnect : ∀ handshake, e ≠ .act (.connect source handshake)) :
    Happening.Spares (t, e) source :=
  ⟨fun datagram _ hknocks => hknock datagram hknocks.1,
    fun ⟨handshake, hconnects⟩ => hconnect handshake hconnects⟩

/-- Time that passes only takes entries away. -/
theorem Accounted.advance {ms : Nat} (h : Accounted ttl capacity past t)
    (hfits : t.clock.Fits ms) :
    Accounted ttl capacity (past ++ [(t, .advance ms)]) (t.next act (.advance ms)) := by
  refine ⟨h.ttl_eq, h.within, fun source entry hentry => ?_⟩
  have hle : t.clock.instant ≤ (t.clock.advance ms).instant :=
    ((Clock.Precedes.refl t.clock).advance hfits).instant_le
  change (t.state.doorkeeper.gate.entries.live (t.clock.advance ms).instant).lookup source =
    some entry at hentry
  rw [Store.live_later _ hle, LiveMap.lookup_liveAt, Option.filter_eq_some_iff] at hentry
  exact (h.origin source entry hentry.1).append hle (Happening.spares_of_ne nofun nofun)

/-- An action that brings nothing new into the gate, and spares the address of what stays
there, keeps all entries accounted for. -/
theorem Accounted.of_spares {action : Action} (h : Accounted ttl capacity past t)
    (httl : (act t.clock t.state action).doorkeeper.gate.ttl = t.state.doorkeeper.gate.ttl)
    (hwithin : (act t.clock t.state action).doorkeeper.gate.entries.Within capacity
      .evictEarliest)
    (hlookup : ∀ source entry,
      ((act t.clock t.state action).doorkeeper.gate.entries.live t.clock.instant).lookup source =
        some entry →
      (t.state.doorkeeper.gate.entries.live t.clock.instant).lookup source = some entry ∧
        Happening.Spares (t, .act action) source) :
    Accounted ttl capacity (past ++ [(t, .act action)]) (t.next act (.act action)) := by
  refine ⟨httl.trans h.ttl_eq, hwithin, fun source entry hentry => ?_⟩
  obtain ⟨hbefore, hspares⟩ := hlookup source entry hentry
  exact (h.origin source entry hbefore).append (Nat.le_refl _) hspares

/-- An action that leaves the gate as it is keeps all entries accounted for, unless it admits
a knock or is a connection. -/
theorem Accounted.of_gate_eq {action : Action} (h : Accounted ttl capacity past t)
    (hgate : (act t.clock t.state action).doorkeeper.gate = t.state.doorkeeper.gate)
    (hspares : ∀ source, Happening.Spares (t, .act action) source) :
    Accounted ttl capacity (past ++ [(t, .act action)]) (t.next act (.act action)) := by
  refine h.of_spares (by rw [hgate]) (by rw [hgate]; exact h.within) ?_
  intro source entry hentry
  rw [hgate] at hentry
  exact ⟨hentry, hspares source⟩

/-- A datagram that is admitted makes the entry of its address anew. -/
theorem Accounted.knock {source : IpAddress} {datagram : Bytes}
    (h : Accounted ttl capacity past t) (httl : 0 < ttl) :
    Accounted ttl capacity (past ++ [(t, .act (.knock source datagram))])
      (t.next act (.act (.knock source datagram))) := by
  by_cases hadmits : ∃ k, t.state.Admits t.clock source datagram k
  · obtain ⟨k, hk⟩ := hadmits
    have hgate : (act t.clock t.state (.knock source datagram)).doorkeeper.gate =
        t.state.doorkeeper.gate.withAdmission t.clock source k.device :=
      gate_knock_of_admits hk
    refine ⟨?_, ?_, fun ip entry hentry => ?_⟩
    · show (act _ _ _).doorkeeper.gate.ttl = ttl
      rw [hgate]
      exact h.ttl_eq
    · show (act _ _ _).doorkeeper.gate.entries.Within _ _
      rw [hgate]
      exact h.within.write _ _ _
    · change ((act t.clock t.state _).doorkeeper.gate.entries.live t.clock.instant).lookup ip =
        some entry at hentry
      rw [hgate] at hentry
      rcases lookup_withAdmission h.within (h.ttl_eq ▸ httl) hentry with ⟨rfl, rfl⟩ | ⟨hne, hbefore⟩
      -- The entry is the new one, and nothing has happened since.
      · refine ⟨past, (t, _), [], datagram, k, rfl, ⟨rfl, hk⟩, ?_, Nat.le_refl _, nofun⟩
        rw [h.ttl_eq]
      -- The entry was there before, and the datagram is from another address.
      · refine (h.origin ip entry hbefore).append (Nat.le_refl _)
          (Happening.spares_of_ne ?_ nofun)
        rintro _ heq
        cases heq
        exact hne rfl
  · have hnone : ∀ k, ¬ t.state.Admits t.clock source datagram k := not_exists.mp hadmits
    refine h.of_gate_eq (gate_knock_of_not_admits hnone) fun ip => ⟨?_, nofun⟩
    rintro _ k ⟨hevent, hk⟩
    cases hevent
    exact hnone k hk

/-- A connection takes the entry of its address out of the gate, whatever becomes of it. -/
theorem gate_connect (s : Server) (clock : Clock) (source : IpAddress) (handshake : Handshake) :
    (s.connect clock source handshake).1.doorkeeper.gate =
      (s.doorkeeper.gate.take clock source).1 := by
  unfold connect
  dsimp only
  split
  · rfl
  · unfold serve
    split
    · rfl
    · split <;> rfl

/-- A connection is refused at the first gate if nothing is taken out. -/
theorem connect_refused_iff (s : Server) (clock : Clock) (source : IpAddress)
    (handshake : Handshake) :
    (s.connect clock source handshake).2 = .refused ↔
      (s.doorkeeper.gate.take clock source).2 = none := by
  unfold connect
  dsimp only
  split
  · rename_i hnone
    exact ⟨fun _ => hnone, fun _ => rfl⟩
  · rename_i admission hsome
    rw [hsome]
    -- Behind the first gate nothing is called refused any more.
    have hserve : ∀ s' : Server, (s'.serve admission handshake).2 ≠ .refused := by
      intro s'
      unfold serve
      split
      · exact nofun
      · split <;> exact nofun
    exact ⟨fun h => absurd h (hserve _), nofun⟩

theorem Accounted.connect {source : IpAddress} {handshake : Handshake}
    (h : Accounted ttl capacity past t) :
    Accounted ttl capacity (past ++ [(t, .act (.connect source handshake))])
      (t.next act (.act (.connect source handshake))) := by
  have hgate : (act t.clock t.state (.connect source handshake)).doorkeeper.gate =
      (t.state.doorkeeper.gate.take t.clock source).1 := gate_connect _ _ _ _
  refine h.of_spares (by rw [hgate]; rfl) (by rw [hgate]; exact h.within.erase source) ?_
  intro ip entry hentry
  rw [hgate] at hentry
  change ((t.state.doorkeeper.gate.entries.erase source).live t.clock.instant).lookup ip =
    some entry at hentry
  rw [Store.live_erase, LiveMap.lookup_erase'] at hentry
  split at hentry
  · cases hentry
  -- What is left is not from the address of the connection.
  · rename_i hne
    refine ⟨hentry, Happening.spares_of_ne nofun ?_⟩
    rintro _ heq
    cases heq
    exact hne rfl

/-- Every event keeps all entries of the gate accounted for. -/
theorem Accounted.next (h : Accounted ttl capacity past t) (httl : 0 < ttl)
    (hfits : t.clock.Fits e.duration) :
    Accounted ttl capacity (past ++ [(t, e)]) (t.next act e) := by
  cases e with
  | advance ms => exact h.advance hfits
  | act action =>
    cases action with
    | knock source datagram => exact h.knock httl
    | connect source handshake => exact h.connect
    -- A sweep drops only entries that have expired.
    | sweepGate =>
      refine h.of_spares rfl (h.within.sweep _) fun source entry hentry => ?_
      change ((t.state.doorkeeper.gate.entries.sweep _).live _).lookup source = _ at hentry
      rw [Store.live_sweep] at hentry
      exact ⟨hentry, Happening.spares_of_ne nofun nofun⟩
    | sweepReplay | sweepTokens | upsert device | remove id =>
      exact h.of_gate_eq rfl fun _ => Happening.spares_of_ne nofun nofun

/-! ### What a connection that passes rests on -/

/-- The address of an event that admits a knock, or of a connection, is fixed by the event. -/
theorem Happening.Knocks.source_eq {p : Happening} {source source' : IpAddress}
    {datagram datagram' : Bytes} {k k' : ValidatedKnock} (h : p.Knocks source datagram k)
    (h' : p.Knocks source' datagram' k') : source = source' := by
  have heq := h.1.symm.trans h'.1
  cases heq
  rfl

theorem Happening.Passes.eq {p : Happening} {source source' : IpAddress}
    {admission admission' : Admission} (h : p.Passes source admission)
    (h' : p.Passes source' admission') : source = source' ∧ admission = admission' := by
  obtain ⟨⟨handshake, hevent⟩, htake⟩ := h
  obtain ⟨⟨handshake', hevent'⟩, htake'⟩ := h'
  cases hevent.symm.trans hevent'
  exact ⟨rfl, Option.some.inj (htake.symm.trans htake')⟩

/-- A connection that passes at a moment at which all entries are accounted for rests on the
origin of its entry. -/
theorem Accounted.rests {run : List Happening} {j : Nat} {q : Happening} {source : IpAddress}
    {admission : Admission} (h : Accounted ttl capacity (run.take j) q.1)
    (hq : run[j]? = some q) (hpasses : q.Passes source admission) :
    ∃ i, Rests run ttl i j q source admission := by
  obtain ⟨-, htake⟩ := hpasses
  rw [AdmissionGate.take_snd, Store.get?_eq_live, Option.map_eq_some_iff] at htake
  obtain ⟨entry, hentry, rfl⟩ := htake
  have hlive := Store.lt_expiresAt_of_lookup_live hentry
  obtain ⟨older, p, newer, datagram, k, hsplit, hknocks, rfl, hbefore, hnewer⟩ :=
    h.origin source entry hentry
  have hj : j < run.length := (List.getElem?_eq_some_iff.mp hq).1
  have hlength : older.length + (newer.length + 1) = j := by
    have hsize := congrArg List.length hsplit
    rw [List.length_take, List.length_append, List.length_cons] at hsize
    omega
  -- Before the connection, the run is the past that the origin speaks of.
  have hpast : ∀ m, m < j → run[m]? = (older ++ p :: newer)[m]? := by
    intro m hm
    rw [← hsplit, List.getElem?_take_of_lt hm]
  refine ⟨older.length, by omega, ⟨p, datagram, k, ?_, hknocks, warrants_of_admits hknocks.2,
    rfl, hbefore, hlive⟩, ?_⟩
  · rw [hpast _ (by omega)]
    simp
  · intro m r hlow hhigh hr
    rw [hpast m hhigh, List.getElem?_append_right (by omega)] at hr
    obtain ⟨n, hn⟩ : ∃ n, m - older.length = n + 1 := ⟨m - older.length - 1, by omega⟩
    rw [hn, List.getElem?_cons_succ] at hr
    exact hnewer r (List.mem_of_getElem? hr)

/-- Two connections that rest on the same knock are the same connection: the earlier one would
have come between the knock and the later one. -/
theorem Rests.index_le {run : List Happening} {i j j' : Nat} {q q' : Happening}
    {source source' : IpAddress} {admission admission' : Admission}
    (h : Rests run ttl i j q source admission) (h' : Rests run ttl i j' q' source' admission')
    (hq : run[j]? = some q) (hpasses : q.Passes source admission) : j' ≤ j := by
  by_contra hlt
  obtain ⟨p, datagram, k, hp, hknocks, -⟩ := h.warranted
  obtain ⟨p', datagram', k', hp', hknocks', -⟩ := h'.warranted
  cases hp.symm.trans hp'
  obtain rfl := hknocks.source_eq hknocks'
  exact (h'.undisturbed j q h.earlier (Nat.not_le.mp hlt) hq).2 hpasses.1

/-- Each connection that passes the first gate rests on a knock of its own. In any run of a
gateway whose gate is empty at the beginning, the connection's address has knocked before, less
than the time to live ago. That knock was the last one admitted from the address, and was worth
the admission. No two connections rest on the same knock. -/
theorem first_gate_rests_on_own_knock (s : Server) (ttl capacity : Nat) (clock : Clock)
    (events : List (Event Action)) (httl : 0 < ttl) (hclock : NeverWraps clock events)
    (hgate : s.doorkeeper.gate = .new ttl capacity) :
    ∃ cause : Nat → Nat,
      (∀ j (q : Happening) source admission, (trace act ⟨clock, s⟩ events)[j]? = some q →
        q.Passes source admission →
          Rests (trace act ⟨clock, s⟩ events) ttl (cause j) j q source admission) ∧
      Set.InjOn cause {j | ∃ (q : Happening) (source : IpAddress) (admission : Admission),
        (trace act ⟨clock, s⟩ events)[j]? = some q ∧ q.Passes source admission} := by
  have hstart : Accounted ttl (max 1 capacity) [] ⟨clock, s⟩ := by
    refine ⟨by rw [hgate]; rfl, by rw [hgate]; exact Store.within_empty _ _ _, ?_⟩
    intro source entry hentry
    rw [hgate, AdmissionGate.new, Store.live_empty, Finmap.lookup_empty] at hentry
    cases hentry
  have haccounted := history_trace (Accounted ttl (max 1 capacity))
    (fun past t e hfits hgood => hgood.next httl hfits) events [] _ hclock hstart
  have hcause : ∀ j, ∃ i, ∀ (q : Happening) source admission,
      (trace act ⟨clock, s⟩ events)[j]? = some q → q.Passes source admission →
        Rests (trace act ⟨clock, s⟩ events) ttl i j q source admission := by
    intro j
    by_cases hpassing : ∃ (q : Happening) (source : IpAddress) (admission : Admission),
        (trace act ⟨clock, s⟩ events)[j]? = some q ∧ q.Passes source admission
    · obtain ⟨q, source, admission, hq, hpasses⟩ := hpassing
      obtain ⟨i, hrests⟩ := (haccounted j q hq).rests hq hpasses
      refine ⟨i, fun q' source' admission' hq' hpasses' => ?_⟩
      cases hq.symm.trans hq'
      obtain ⟨rfl, rfl⟩ := hpasses.eq hpasses'
      exact hrests
    -- Where nothing passes, any index will do.
    · exact ⟨0, fun q source admission hq hpasses =>
        absurd ⟨q, source, admission, hq, hpasses⟩ hpassing⟩
  choose cause hrests using hcause
  refine ⟨cause, hrests, ?_⟩
  rintro j ⟨q, source, admission, hq, hpasses⟩ j' ⟨q', source', admission', hq', hpasses'⟩ heq
  have hj := hrests j q source admission hq hpasses
  have hj' := hrests j' q' source' admission' hq' hpasses'
  rw [← heq] at hj'
  exact Nat.le_antisymm (hj'.index_le hj hq' hpasses') (hj.index_le hj' hq hpasses)

/-- A knock and two connections, of which the first passes. -/
theorem first_gate_rests_on_own_knock_of_two_connections :
    let device : Device :=
      ⟨⟨"tablet", by decide, by decide⟩, ⟨List.replicate 16 7, by decide⟩, .commonName "tablet",
        ["ssh"]⟩
    let datagram := (Knock.encode device.secret
      ⟨device.id, 0, ⟨List.replicate 16 0, rfl⟩, none⟩).toOption.getD []
    let source : IpAddress := .v4 ⟨[192, 0, 2, 1], rfl⟩
    let server : Server := {
      port := .new (.new (Registry.empty.upsert device) 30000 10) 1
      doorkeeper := .new (.new 30000 10) "ssh" none
      authority := none
      counters := {}
      maxConnections := 10
      pending := 0
      held := 0 }
    let events : List (Event Action) := [.act (.knock source datagram), .advance 1000,
      .act (.connect source .silent), .act (.connect source .silent)]
    let run := trace act ⟨.startingAt 0, server⟩ events
    0 < 30000 ∧ NeverWraps (.startingAt 0) events ∧
    server.doorkeeper.gate = .new 30000 10 ∧
    (∃ q : Happening, run[2]? = some q ∧ q.Passes source ⟨device, 0⟩) ∧
    ∃ cause : Nat → Nat,
      (∀ j (q : Happening) source admission, run[j]? = some q → q.Passes source admission →
        Rests run 30000 (cause j) j q source admission) ∧
      Set.InjOn cause {j | ∃ (q : Happening) (source : IpAddress) (admission : Admission),
        run[j]? = some q ∧ q.Passes source admission} := by
  intro device datagram source server events run
  refine ⟨by decide, by decide, rfl, ⟨_, rfl, ⟨.silent, rfl⟩, by decide +kernel⟩, ?_⟩
  exact first_gate_rests_on_own_knock server 30000 10 _ events (by decide) (by decide) rfl

end Perimeter.Gateway.Server
