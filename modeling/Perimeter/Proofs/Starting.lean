import Mathlib.Control.Monad.Basic
import Perimeter.Controller.Server
import Perimeter.Gateway.Server
import Perimeter.Proofs.Checks

/-!
# `Perimeter.Proofs.Starting`: what a validated configuration can still come to

A configuration that validates and whose devices make a registry should be fit to start a server
from. Two kinds of numbers in it have no upper bound, and a start breaks down if one of them is
out of range: the allowed difference of the clocks, of which twice as much and five seconds have
to fit a machine word, and how much may be done at a time.

`breaks_down_iff_out_of_range` says that nothing else can go wrong. Each step of a start with
such a configuration `Hinges` on a range, and so does the whole (`Hinges.bind`).
-/

set_option autoImplicit false

namespace Perimeter

/-- A start breaks down if it ends in an error that has no words. -/
def BreaksDown {α : Type} (start : Except StartError α) : Prop :=
  ∃ reason, start = .error reason ∧ reason.message? = none

/-- Knocks are remembered for a time that fits a machine word of seconds, and a controller does
no more at a time than can be done. -/
def Controller.Config.InRange (c : Controller.Config) : Prop :=
  2 * c.security.maxClockSkew.toNat + 5 < 2 ^ 64 ∧
    c.network.maxInflight.toNat ≤ Start.maxPermits

/-- The same for a gateway, which has connections besides. -/
def Gateway.Config.InRange (c : Gateway.Config) : Prop :=
  2 * c.security.maxClockSkew.toNat + 5 < 2 ^ 64 ∧
    c.network.maxInflight.toNat ≤ Start.maxPermits ∧
    c.network.maxConnections.toNat ≤ Start.maxPermits

instance (c : Controller.Config) : Decidable c.InRange := inferInstanceAs (Decidable (_ ∧ _))

instance (c : Gateway.Config) : Decidable c.InRange := inferInstanceAs (Decidable (_ ∧ _ ∧ _))

namespace Start

/-- A step of a start gets to its end if something is in range, and breaks down over one of its
numbers if it is not. -/
inductive Hinges {α : Type} (inRange : Prop) : Except StartError α → Prop where
  | ends (h : inRange) (a : α) : Hinges inRange (.ok a)
  | breaks (h : ¬ inRange) {reason : StartError}
    (hnumber : reason = .retentionOverflow ∨ reason = .permitOverflow) :
    Hinges inRange (.error reason)

variable {α β : Type} {p q : Prop} {x : Except StartError α} {f : α → Except StartError β}

/-- One step after another hinges on both. -/
theorem Hinges.bind (hx : Hinges p x) (hf : ∀ a, Hinges q (f a)) : Hinges (p ∧ q) (x >>= f) := by
  cases hx with
  | breaks h hnumber => exact .breaks (fun hboth => h hboth.1) hnumber
  | ends h a =>
    have hrest := hf a
    rw [Checks.ok_bind]
    generalize f a = y at hrest
    cases hrest with
    | ends h' b => exact .ends ⟨h, h'⟩ b
    | breaks h' hnumber => exact .breaks (fun hboth => h' hboth.2) hnumber

theorem Hinges.ok_iff (h : Hinges p x) : (∃ a, x = .ok a) ↔ p := by
  cases h with
  | ends h a => exact ⟨fun _ => h, fun _ => ⟨a, rfl⟩⟩
  | breaks h => exact ⟨nofun, fun hp => absurd hp h⟩

theorem Hinges.breaksDown_iff (h : Hinges p x) : BreaksDown x ↔ ¬ p := by
  cases h with
  | ends h a => exact ⟨nofun, fun hp => absurd h hp⟩
  | breaks h hnumber =>
    -- There are no words for a number.
    refine ⟨fun _ => h, fun _ => ⟨_, rfl, ?_⟩⟩
    rcases hnumber with rfl | rfl <;> rfl

/-- Nothing but a number can be wrong. -/
theorem Hinges.of_error {reason : StartError} (h : Hinges p x) (herror : x = .error reason) :
    reason = .retentionOverflow ∨ reason = .permitOverflow := by
  cases h with
  | ends h a => cases herror
  | breaks h hnumber =>
    cases herror
    exact hnumber

/-- Putting something together of what a step made changes nothing. -/
theorem Hinges.map (hx : Hinges p x) (g : α → β) : Hinges p (x >>= fun a => pure (g a)) := by
  cases hx with
  | ends h a => exact .ends h (g a)
  | breaks h hnumber => exact .breaks h hnumber

theorem hinges_validator (registry : Registry) (skew : UInt64) (capacity : Nat) :
    Hinges (2 * skew.toNat + 5 < 2 ^ 64) (validator registry skew capacity) := by
  have hfits : (∃ v, validator registry skew capacity = .ok v) ↔ 2 * skew.toNat + 5 < 2 ^ 64 :=
    validator_ok_iff
  -- The range is the one in which there is a validator, so that the test of it splits the cases.
  rw [← hfits]
  unfold validator
  split
  · exact .ends ⟨_, rfl⟩ _
  · exact .breaks nofun (.inl rfl)

theorem hinges_permits (n : UInt64) : Hinges (n.toNat ≤ maxPermits) (permits n) := by
  unfold permits
  split
  · exact .ends ‹_› _
  · exact .breaks ‹_› (.inr rfl)

/-- Where devices make no registry, a start ends in an error in words, and where they make one
the start hinges on its numbers. -/
theorem settled {start : Except StartError α} {made : Except RegistryError Registry}
    (hmade : ∀ registry, made = .ok registry → Hinges p start)
    (hunmade : ∀ cause, made = .error cause → start = .error (.registry cause)) :
    ((∃ a, start = .ok a) ↔ (∃ registry, made = .ok registry) ∧ p) ∧
      (BreaksDown start ↔ (∃ registry, made = .ok registry) ∧ ¬ p) := by
  cases made with
  | ok registry =>
    have hinges := hmade registry rfl
    simp only [hinges.ok_iff, hinges.breaksDown_iff, Except.ok.injEq, exists_eq', true_and,
      and_self]
  | error cause =>
    -- There are words for what is wrong with a registry.
    rw [hunmade cause rfl]
    simp [BreaksDown, StartError.message?]

end Start

namespace Controller.Server

variable {c : Config} {registry : Registry}

/-- With a configuration that validates and a registry, a controller hinges on its numbers. -/
theorem hinges_start (hvalid : c.validate = .ok ())
    (hregistry : Registry.ofEntries c.devices = .ok registry) :
    Start.Hinges c.InRange (start c) := by
  have hsecret : ∃ secret, c.tokenSecret = .ok secret := by
    obtain ⟨secret, hsecret, -⟩ := Checks.bind_eq_ok.mp hvalid
    exact ⟨secret, hsecret⟩
  obtain ⟨secret, hsecret⟩ := hsecret
  -- A secret that validates is long enough, which is all that an issuer asks for.
  have hissuer : ∀ issuer ttl, ∃ made, TokenIssuer.new secret issuer ttl = .ok made := by
    intro issuer ttl
    exact ⟨_, dif_pos (Settings.length_tokenSecret hsecret)⟩
  obtain ⟨issuer, hissuer⟩ := hissuer c.controller.issuer c.security.tokenTtl.toNat
  simp only [start, hvalid, hregistry, hsecret, hissuer, Checks.mapError_ok, Checks.ok_bind]
  exact (Start.hinges_validator ..).bind fun v => (Start.hinges_permits _).map _

end Controller.Server

namespace Gateway.Server

variable {c : Config} {registry : Registry}

/-- A configuration that validates has a secret if tokens are asked for. -/
theorem exists_tokenPolicy (hvalid : c.validate = .ok ()) :
    ∃ tokens, tokenPolicy c = .ok tokens := by
  unfold tokenPolicy
  by_cases hrequire : c.security.requireToken
  · have hsecret : ∃ secret, c.tokenSecret = .ok secret := by
      cases hsecret : c.tokenSecret with
      | ok secret => exact ⟨secret, rfl⟩
      | error cause =>
        -- Whichever check comes first, the configuration does not validate without one.
        simp only [Config.validate, hrequire, hsecret, if_true] at hvalid
        split at hvalid <;> cases hvalid
    obtain ⟨secret, hsecret⟩ := hsecret
    have hlength := Settings.length_tokenSecret hsecret
    simp only [hrequire, if_true, hsecret, TokenIssuer.new, dif_pos hlength,
      Checks.mapError_ok, Checks.ok_bind]
    exact ⟨_, rfl⟩
  · exact ⟨none, if_neg hrequire⟩

/-- With a configuration that validates and a registry, a gateway hinges on its numbers. -/
theorem hinges_start (authority : Option Tls.Authority) (hvalid : c.validate = .ok ())
    (hregistry : Registry.ofEntries c.devices = .ok registry) :
    Start.Hinges c.InRange (start c authority) := by
  obtain ⟨tokens, htokens⟩ := exists_tokenPolicy hvalid
  simp only [start, hvalid, hregistry, htokens, Checks.mapError_ok, Checks.ok_bind]
  exact (Start.hinges_validator ..).bind fun v =>
    (Start.hinges_permits _).bind fun inflight => (Start.hinges_permits _).map _

end Gateway.Server

/-- A configuration that validates can be started from if its devices make a registry, unless a
number in it is out of range. With such a number, and with nothing else, the start breaks down
where it should have ended in an error. This holds of controllers and of gateways, whatever the
configuration says. -/
theorem breaks_down_iff_out_of_range {c : Controller.Config} {g : Gateway.Config}
    (authority : Option Tls.Authority) (hc : c.validate = .ok ()) (hg : g.validate = .ok ()) :
    (((∃ server, Controller.Server.start c = .ok server) ↔
        (∃ registry, Registry.ofEntries c.devices = .ok registry) ∧ c.InRange) ∧
      (BreaksDown (Controller.Server.start c) ↔
        (∃ registry, Registry.ofEntries c.devices = .ok registry) ∧ ¬ c.InRange)) ∧
    ((∃ server, Gateway.Server.start g authority = .ok server) ↔
        (∃ registry, Registry.ofEntries g.devices = .ok registry) ∧ g.InRange) ∧
      (BreaksDown (Gateway.Server.start g authority) ↔
        (∃ registry, Registry.ofEntries g.devices = .ok registry) ∧ ¬ g.InRange) := by
  refine ⟨Start.settled (fun _ => Controller.Server.hinges_start hc) ?_,
    Start.settled (fun _ => Gateway.Server.hinges_start authority hg) ?_⟩
  · intro cause hcause
    simp only [Controller.Server.start, hc, hcause, Checks.mapError_ok, Checks.mapError_error,
      Checks.ok_bind]
    rfl
  · intro cause hcause
    simp only [Gateway.Server.start, hg, hcause, Checks.mapError_ok, Checks.mapError_error,
      Checks.ok_bind]
    rfl

/-- A controller with its settings as usual, and a gateway that allows its clock the greatest
difference that a configuration file can name. -/
theorem breaks_down_iff_out_of_range_of_two :
    let devices : List DeviceEntry :=
      [⟨"dev-1", "11111111111111111111111111111111", none, some "dev-1", []⟩]
    let controller : Controller.Config :=
      { security := { tokenSecretHex := Hex.encode (List.replicate 32 0x42) }, devices }
    let gateway : Gateway.Config :=
      { security := { requireToken := false, maxClockSkew := 9223372036854775807 }
        tls := { clientCaPath := some "ca.pem" }
        devices }
    controller.validate = .ok () ∧ gateway.validate = .ok () ∧
    (∃ server, Controller.Server.start controller = .ok server) ∧
    BreaksDown (Gateway.Server.start gateway none) := by
  intro devices controller gateway
  have hc : controller.validate = .ok () := by decide +kernel
  have hg : gateway.validate = .ok () := by decide +kernel
  have hmade : ∃ registry, Registry.ofEntries devices = .ok registry :=
    ⟨((Registry.ofEntries devices).toOption).getD .empty, by decide +kernel⟩
  obtain ⟨⟨hstarts, -⟩, -, hbreaks⟩ := breaks_down_iff_out_of_range none hc hg
  exact ⟨hc, hg, hstarts.mpr ⟨hmade, by decide⟩, hbreaks.mpr ⟨hmade, by decide⟩⟩

/-- The greatest difference of the clocks that a configuration file can name validates with a
device, and neither server starts with it or says why. -/
theorem breaks_down_of_greatest_skew :
    let devices : List DeviceEntry :=
      [⟨"dev-1", "11111111111111111111111111111111", none, some "dev-1", []⟩]
    let controller : Controller.Config :=
      { security :=
          { tokenSecretHex := Hex.encode (List.replicate 32 0x42)
            maxClockSkew := 9223372036854775807 }
        devices }
    let gateway : Gateway.Config :=
      { security := { requireToken := false, maxClockSkew := 9223372036854775807 }
        tls := { clientCaPath := some "ca.pem" }
        devices }
    controller.validate = .ok () ∧ gateway.validate = .ok () ∧
    (∃ registry, Registry.ofEntries devices = .ok registry) ∧
    Controller.Server.start controller = .error .retentionOverflow ∧
    Gateway.Server.start gateway none = .error .retentionOverflow ∧
    StartError.retentionOverflow.message? = none := by
  intro devices controller gateway
  have hcontroller :
      (fun _ => ()) <$> Controller.Server.start controller = .error .retentionOverflow := by
    decide +kernel
  have hgateway :
      (fun _ => ()) <$> Gateway.Server.start gateway none = .error .retentionOverflow := by
    decide +kernel
  exact ⟨by decide +kernel, by decide +kernel,
    ⟨((Registry.ofEntries devices).toOption).getD .empty, by decide +kernel⟩,
    Checks.map_eq_error.mp hcontroller, Checks.map_eq_error.mp hgateway, rfl⟩

end Perimeter
