import Perimeter.Proofs.Agent.Presented
import Perimeter.Proofs.Wire.Grant
import Perimeter.Proofs.Wire.Knock

/-!
# `Perimeter.Proofs.Agent.Forwarded`: a granted token can be sent on

The reader of a grant and the writer of a knock look at a token apart. Every token that the one
lets through must be one that the other can write, or an agent would be granted what it cannot
present. `Grant.checkToken_of_decode` says that it is so.

Whether a leg of an attempt can fail because a knock cannot be written is decided part by part
(`Leg.Builds`). The wait for the grant hands on that the token can be written, and the second
knock needs just that. Together no attempt fails in this way, and every datagram that an agent
sends is a knock that any port takes in whole and reads (`never_fails_to_build`).
-/

set_option autoImplicit false

namespace Perimeter

/-- A token that comes with a grant is not empty, and can be written. -/
theorem Grant.checkToken_of_decode {secret : KnockSecret} {reply : Bytes} {nonce : Nonce}
    {grant : Grant} (h : Grant.decode secret reply nonce = .ok grant) :
    Wire.checkToken grant.token 1 = .ok () :=
  (Grant.encode_eq_ok_iff_body.mp (Grant.decode_ok h).1).1

/-! ### Knocks that can be written -/

/-- A token that a knock can carry: none, or one that is not empty and can be written. -/
def Knock.Carries (token : Option String) : Prop :=
  ∀ text, token = some text → Wire.checkToken text 1 = .ok ()

theorem Knock.carries_none : Knock.Carries none := nofun

theorem Grant.carries_of_decode {secret : KnockSecret} {reply : Bytes} {nonce : Nonce}
    {grant : Grant} (h : Grant.decode secret reply nonce = .ok grant) :
    Knock.Carries (some grant.token) := by
  rintro _ ⟨⟩
  exact Grant.checkToken_of_decode h

namespace Credentials

variable {who : Credentials} {now : Int64} {nonce : Nonce} {token : Option String}
  {datagram : Bytes}

/-- A datagram is what a device makes of a knock. It is no longer than a port takes in, and it
reads as that knock, with the device's tag. -/
structure Writes (who : Credentials) (now : Int64) (nonce : Nonce) (token : Option String)
    (datagram : Bytes) : Prop where
  knock_eq : who.knock now nonce token = .ok datagram
  length_le : datagram.length ≤ Knock.maxLength
  reads : ∃ received, Knock.decode datagram = .ok received ∧
    received.knock = ⟨who.id, now, nonce, token⟩ ∧
    Wire.tagHolds who.secret received.authenticated received.tag

/-- A token that is not empty is read as it was written. -/
theorem asRead_of_carries {knock : Knock} (h : Knock.Carries knock.token) :
    knock.asRead = knock := by
  obtain ⟨device, timestamp, nonce, token⟩ := knock
  cases token with
  | none => rfl
  | some text =>
    have hsome : text ≠ "" := by
      rintro rfl
      exact absurd (h "" rfl) (by decide)
    simp [Knock.asRead, Option.filter, hsome]

theorem writes_of_knock (h : Knock.Carries token)
    (hknock : who.knock now nonce token = .ok datagram) : who.Writes now nonce token datagram where
  knock_eq := hknock
  length_le := (Knock.length_of_encode hknock).2
  reads := by
    obtain ⟨received, hdecode, hread, htag⟩ := Knock.encode_eq_ok_iff.mp hknock
    exact ⟨received, hdecode, hread.trans (asRead_of_carries h), htag⟩

/-- Every device can write a knock with such a token, at every time and with every nonce. -/
theorem exists_writes (who : Credentials) (now : Int64) (nonce : Nonce)
    (h : Knock.Carries token) : ∃ datagram, who.Writes now nonce token datagram := by
  have hcheck : Wire.checkToken (token.getD "") 0 = .ok () := by
    cases token with
    | none => decide
    | some text =>
      obtain ⟨-, hfits, hascii⟩ := Wire.checkToken_ok_iff.mp (h text rfl)
      exact Wire.checkToken_ok_iff.mpr ⟨Nat.zero_le _, hfits, hascii⟩
  exact ⟨_, writes_of_knock h (Knock.encode_eq_ok_iff_body.mpr ⟨hcheck, rfl⟩)⟩

end Credentials

namespace Agent

variable {σ α β : Type}

/-! ### Legs that do not fail to build -/

namespace Leg

/-- A leg does not fail because a knock cannot be written. What it leads to is good. -/
def Builds (leg : Leg σ α) (Good : α → Prop) : Prop :=
  ∀ j, (∀ a, (leg j).2 = .ok a → Good a) ∧
    ∀ stage cause, (leg j).2 ≠ .error ⟨stage, .build cause⟩

variable {leg : Leg σ α} {next : α → Leg σ β} {Good : α → Prop} {Good' : β → Prop} {stage : Stage}

theorem builds_done {a : α} (h : Good a) : Builds (pure a : Leg σ α) Good := by
  refine fun j => ⟨?_, nofun⟩
  rintro _ ⟨⟩
  exact h

theorem builds_ask (question : σ → σ × α) : (ask question).Builds fun _ => True :=
  fun _ => ⟨fun _ _ => trivial, nofun⟩

theorem builds_fail {cause : Cause} (h : ∀ e, cause ≠ .build e) :
    Builds (fail stage cause : Leg σ α) Good := by
  refine fun j => ⟨nofun, ?_⟩
  rintro _ e ⟨⟩
  exact h e rfl

/-- A result that is needed may be wanting for another reason. -/
theorem builds_orFail {ε : Type} {cause : ε → Cause} {result : Except ε α}
    (h : ∀ e e', cause e ≠ .build e') (hgood : ∀ a, result = .ok a → Good a) :
    Builds (orFail stage cause result : Leg σ α) Good := by
  cases result with
  | ok a => exact builds_done (hgood a rfl)
  | error e => exact builds_fail (h e)

theorem Builds.bind (hfirst : leg.Builds Good) (hnext : ∀ a, Good a → (next a).Builds Good') :
    (leg >>= next).Builds Good' := by
  intro j
  obtain ⟨hgood, hbuilds⟩ := hfirst j
  show (∀ b, (andThen leg next j).2 = .ok b → Good' b) ∧
    ∀ stage cause, (andThen leg next j).2 ≠ .error ⟨stage, .build cause⟩
  rw [andThen]
  -- Whatever the first leg comes to, the second begins only if it has not failed.
  generalize leg j = after at hgood hbuilds
  obtain ⟨j', result⟩ := after
  cases result with
  | error failure =>
    refine ⟨?_, ?_⟩
    · intro b hb
      cases hb
    · intro stage cause hfailed
      cases hfailed
      exact hbuilds stage cause rfl
  | ok a => exact hnext a (hgood a rfl) j'

theorem Builds.ask_bind {question : σ → σ × α} (h : ∀ a, (next a).Builds Good') :
    (ask question >>= next).Builds Good' :=
  (builds_ask question).bind fun a _ => h a

theorem Builds.orFail_bind {ε : Type} {cause : ε → Cause} {result : Except ε α}
    (hcause : ∀ e e', cause e ≠ .build e')
    (hnext : ∀ a, result = .ok a → (next a).Builds Good') :
    (orFail stage cause result >>= next).Builds Good' :=
  (builds_orFail hcause fun _ => id).bind hnext

theorem Builds.enter_bind {leg : Leg σ β} (h : leg.Builds Good') :
    (enter stage >>= fun _ => leg).Builds Good' :=
  fun j => h { j with stages := j.stages ++ [stage] }

end Leg

namespace Plan

open Leg

variable (p : Plan) (o : Outside σ)

/-- A knock with a token that it can carry is written. -/
theorem build_builds {token : Option String} (h : Knock.Carries token) (stage : Stage) :
    (p.build o stage token).Builds fun _ => True := by
  refine Builds.ask_bind fun now => Builds.ask_bind fun nonce => ?_
  obtain ⟨datagram, hwrites⟩ := p.who.exists_writes now nonce h
  rw [hwrites.knock_eq]
  exact builds_done trivial

theorem send_builds (stage : Stage) (target : SocketAddress) (datagram : Bytes) :
    (send o stage target datagram).Builds fun _ => True :=
  Builds.ask_bind fun _ => builds_orFail (fun _ _ => nofun) fun _ _ => trivial

theorem firstKnock_builds (target : SocketAddress) :
    (p.firstKnock o target).Builds fun _ => True := by
  refine Builds.enter_bind ((p.build_builds o Knock.carries_none .buildKnock).bind ?_)
  rintro ⟨nonce, datagram⟩ -
  exact Builds.enter_bind ((send_builds o .sendKnock target datagram).bind fun _ _ =>
    builds_done trivial)

/-- A knock can carry the token of a grant that has been waited for. -/
theorem awaitGrant_builds (controller : SocketAddress) (nonce : Nonce) :
    (p.awaitGrant o controller nonce).Builds fun grant => Knock.Carries (some grant.token) := by
  refine Builds.enter_bind (Builds.ask_bind fun outcome =>
    Builds.orFail_bind (fun _ _ => nofun) ?_)
  rintro (- | reply) -
  · exact builds_fail nofun
  · refine Builds.orFail_bind (fun _ _ => nofun) fun grant hopens => Builds.ask_bind fun now => ?_
    by_cases hlate : grant.expiresAt < now
    · simp only [hlate, if_true]
      exact builds_fail nofun
    · simp only [hlate, if_false]
      exact builds_done (Grant.carries_of_decode hopens)

theorem secondKnock_builds {token : String} (h : Knock.Carries (some token)) :
    (p.secondKnock o token).Builds fun _ => True := by
  refine Builds.enter_bind ((p.build_builds o h .sendSecondKnock).bind ?_)
  rintro ⟨nonce, datagram⟩ -
  exact send_builds o .sendSecondKnock p.gatewayKnock datagram

theorem approach_builds : (p.approach o).Builds fun _ => True := by
  unfold approach
  cases p.route with
  | direct => exact (p.firstKnock_builds o p.gatewayKnock).bind fun _ _ => builds_done trivial
  | viaController controller =>
    refine (p.firstKnock_builds o controller).bind fun nonce _ => ?_
    exact (p.awaitGrant_builds o controller nonce).bind fun grant hcarries =>
      p.secondKnock_builds o hcarries

theorem connect_builds : (p.connect o).Builds fun _ => True :=
  Builds.ask_bind fun _ => Builds.enter_bind (Builds.ask_bind fun _ =>
    builds_orFail (fun _ _ => nofun) fun _ _ => trivial)

theorem attempt_builds : (p.attempt o).Builds fun _ => True :=
  (p.approach_builds o).bind fun _ _ => p.connect_builds o

/-- What is sent in an attempt is a knock, with no token or with one that has been granted. -/
theorem Attempted.writes {p : Plan} {contacts : List Contact} (h : p.Attempted contacts)
    {target : SocketAddress} {datagram : Bytes} {outcome : Except String Unit}
    (hsent : .sent target datagram outcome ∈ contacts) :
    ∃ now nonce token, p.who.Writes now nonce token datagram := by
  have hknocking : ∀ {token before nonce}, Knock.Carries token →
      p.Knocking token before nonce datagram →
      ∃ now nonce token, p.who.Writes now nonce token datagram := by
    rintro token before nonce hcarries ⟨now, -, hencode⟩
    exact ⟨now, nonce, token, Credentials.writes_of_knock hcarries hencode⟩
  -- What may be sent depends on what has happened before, and so on where it stands.
  obtain ⟨before, after, hcontacts⟩ := List.append_of_mem hsent
  cases hroute : p.route with
  | direct =>
    obtain ⟨-, nonce, hfirst⟩ := h.eachFollows_directly hroute before _ after hcontacts
    exact hknocking Knock.carries_none hfirst
  | viaController controller =>
    obtain ⟨-, nonce, hfirst⟩ | ⟨-, _, grant, _, nonce, hgranted, -, hsecond⟩ :=
      h.eachFollows hroute before _ after hcontacts
    · exact hknocking Knock.carries_none hfirst
    · obtain ⟨_, _, _, _, _, -, hopens, -⟩ := hgranted
      exact hknocking (Grant.carries_of_decode hopens) hsecond

end Plan

/-- An agent can always send on what it has been granted. Whatever its plan is, and whatever the
outside does, no attempt fails because a knock cannot be written, and every datagram that is sent
is a knock of the agent, which is not too long for any port and reads as it was meant. For every
token that opens in a grant, under any secret, can be written in a knock, by every device at every
time, and so can a knock without a token. -/
theorem Sequencer.never_fails_to_build (s : Sequencer) (o : Outside σ) (outside : σ) :
    (∀ stage cause, (s.run o outside).2.2 ≠ .error ⟨stage, .build cause⟩) ∧
    (∀ target datagram outcome, .sent target datagram outcome ∈ s.contacts o outside →
      ∃ now nonce token, s.plan.who.Writes now nonce token datagram) ∧
    (∀ secret reply answered grant, Grant.decode secret reply answered = .ok grant →
      ∀ (who : Credentials) now nonce, ∃ datagram,
        who.Writes now nonce (some grant.token) datagram) ∧
    ∀ (who : Credentials) now nonce, ∃ datagram, who.Writes now nonce none datagram := by
  refine ⟨?_, ?_, ?_, ?_⟩
  · exact (s.plan.attempt_builds o ⟨outside, []⟩).2
  · intro target datagram outcome hsent
    exact (s.contacts_attempted o outside).writes hsent
  · intro secret reply answered grant hopens who now nonce
    exact who.exists_writes now nonce (Grant.carries_of_decode hopens)
  · intro who now nonce
    exact who.exists_writes now nonce Knock.carries_none

/-- An agent sends on the token that it has been granted. The device with the longest name can
send on the longest token, under its own secret or another. -/
theorem Sequencer.never_fails_to_build_of_grant :
    let longId := String.ofList (List.replicate maxDeviceIdLength 'n')
    let who : Credentials := ⟨⟨longId, by decide +kernel, by decide +kernel⟩,
      ⟨List.replicate 16 7, by decide⟩⟩
    let gatewayKnock := SocketAddress.quad 192 0 2 2 62202
    let nonce : Nonce := ⟨List.replicate 16 0, rfl⟩
    let longest : Grant := ⟨nonce, -1, String.ofList (List.replicate Wire.maxTokenLength 't')⟩
    let o : Outside Unit := {
      now := fun s => (s, 1000)
      nonce := fun s => (s, nonce)
      send := fun _ _ s => (s, .ok ())
      awaitReply := fun _ _ s => (s, .ok (Grant.encode who.secret ⟨nonce, 1030, "token"⟩).toOption)
      pause := fun _ s => s
      dial := fun _ s => (s, .error (.connect "refused")) }
    let s := Sequencer.new
      ⟨who, .viaController (.quad 192 0 2 1 62201), gatewayKnock, .quad 192 0 2 2 8443, 2000, 50⟩
    (∃ datagram, .sent gatewayKnock datagram (.ok ()) ∈ s.contacts o () ∧
      ∃ now nonce token, who.Writes now nonce token datagram) ∧
    ∀ secret : KnockSecret, ∃ reply,
      Grant.decode secret reply nonce = .ok longest ∧
      ∃ datagram, who.Writes 1000 nonce (some longest.token) datagram := by
  intro longId who gatewayKnock nonce longest o s
  obtain ⟨-, hsends, hforwards, -⟩ := s.never_fails_to_build o ()
  refine ⟨?_, fun secret => ?_⟩
  · let second := (who.knock 1000 nonce (some "token")).toOption.getD []
    have hsent : .sent gatewayKnock second (.ok ()) ∈ s.contacts o () := by decide +kernel
    exact ⟨second, hsent, hsends gatewayKnock second (.ok ()) hsent⟩
  · have hfits : 1 ≤ (Text.utf8 longest.token).length ∧
        (Text.utf8 longest.token).length ≤ Wire.maxTokenLength ∧
        Text.isAscii (Text.utf8 longest.token) := by decide +kernel
    obtain ⟨reply, hencode⟩ : ∃ reply, Grant.encode secret longest = .ok reply :=
      Grant.exists_encode_iff.mpr hfits
    have hopens : Grant.decode secret reply nonce = .ok longest := by
      rw [Grant.decode_of_encode hencode, if_neg (not_not_intro rfl)]
    exact ⟨reply, hopens, hforwards secret reply nonce longest hopens who 1000 nonce⟩

end Agent

end Perimeter
