import Perimeter.Gateway.Gate
import Perimeter.Token
import Perimeter.Validation

/-!
# `Perimeter.Gateway.Doorkeeper`: which knocks open the gate

A knock that passed the checks of `Perimeter.Validation` still has to be worth an
admission here. The device must be allowed to reach the service behind the
gateway. Where tokens are asked for, the knock must carry one that verifies, was
issued to the same device, names the service, and was not presented before.

The number of a token is recorded last and for as long as the token could verify,
so a token that is refused for another reason is not used up. Behind that point the knock
is never refused, but to admit it can still break down.

* `gate_consider_of_error`: a refusal leaves the gate alone.
-/

set_option autoImplicit false

namespace Perimeter

/-- Why a knock is not admitted. -/
inductive AdmitError where
  | serviceNotPermitted (device : DeviceId) (service : String)
  | missingToken
  | token (cause : Token.Error)
  | subjectMismatch (subject : String) (device : DeviceId)
  | outOfScope (service : String)
  | tokenReused (id : Uuid)
  | usedTokensFull (id : Uuid)
  /-- It broke down over the time that the token or the address would be remembered for. -/
  | outOfRange
deriving DecidableEq

/-- The error in words. There are none for a breakdown. -/
def AdmitError.message? : AdmitError → Option String
  | .serviceNotPermitted device service =>
    some s!"device {device.text} may not reach service {Text.quoted service}"
  | .missingToken => some "knock carries no token"
  | .token cause => cause.message?.map fun words => s!"token rejected: {words}"
  | .subjectMismatch subject device =>
    some s!"token subject {Text.quoted subject} does not match knocking device {device.text}"
  | .outOfScope service => some s!"token scope does not include service {Text.quoted service}"
  | .tokenReused id => some s!"token {id.text} was already used"
  | .usedTokensFull id => some s!"used-token list is full, token {id.text} cannot be recorded"
  | .outOfRange => none

/-- Whether the knock was not refused, but broke the check down. -/
def AdmitError.isBreakdown : AdmitError → Bool
  | .token .outOfRange => true
  | .outOfRange => true
  | _ => false

/-- How tokens are checked: with what, and which have been presented. -/
structure TokenPolicy where
  verifier : TokenIssuer
  used : Store Uuid Unit

namespace TokenPolicy

/-- The number of tokens remembered unless a configuration says otherwise. -/
def defaultCapacity : Nat := 100000

/-- A policy to which no token has been presented yet. -/
def new (verifier : TokenIssuer) (capacity : Nat) : TokenPolicy :=
  ⟨verifier, Store.empty capacity .refuseNew Store.defaultSweepEvery⟩

/-- How long a token must be remembered, in milliseconds: to the end of the second
in which it last verifies. -/
def retention (claims : Token.Claims) (now : Int64) : Nat :=
  -- A difference that is no machine word makes an end that is no instant either.
  ((claims.expiresAt.toInt - now.toInt).toNat + 1) * secondMs

/-- What a token must say besides verifying. -/
def examine (p : TokenPolicy) (token : String) (device : DeviceId) (service : String)
    (now : Int64) : Except AdmitError Token.Claims := do
  let claims ← (p.verifier.verify token now).mapError .token
  if claims.subject ≠ device.text then
    throw (.subjectMismatch claims.subject device)
  if !claims.allows service then
    throw (.outOfScope service)
  return claims

/-- Checks a token and records that it was presented. -/
def check (p : TokenPolicy) (clock : Clock) (token : String) (device : DeviceId)
    (service : String) : TokenPolicy × Except AdmitError Unit :=
  match p.examine token device service clock.unixSeconds with
  | .error reason => (p, .error reason)
  | .ok claims =>
    -- Nothing can refuse the knock behind this point, so a number is recorded only for an
    -- admission.
    let (used, outcome) := p.used.insertIfAbsent clock.instant claims.id ()
      (retention claims clock.unixSeconds)
    let after := { p with used }
    match outcome with
    | .stored => (after, .ok ())
    | .present => (after, .error (.tokenReused claims.id))
    | .full => (after, .error (.usedTokensFull claims.id))
    | .outOfRange => (after, .error .outOfRange)

/-- Forgets the tokens that could not verify any more. -/
def sweep (p : TokenPolicy) (clock : Clock) : TokenPolicy :=
  { p with used := p.used.sweep clock.instant }

end TokenPolicy

/-- What decides on validated knocks. -/
structure Doorkeeper where
  gate : AdmissionGate
  /-- The service behind the gateway. -/
  service : String
  /-- Nothing where knocks need no token. -/
  tokens : Option TokenPolicy
  /-- The number of knocks admitted. -/
  admitted : Nat
  /-- The number of knocks refused. -/
  refused : Nat

namespace Doorkeeper

/-- A doorkeeper that has seen no knock yet. -/
def new (gate : AdmissionGate) (service : String) (tokens : Option TokenPolicy) : Doorkeeper :=
  ⟨gate, service, tokens, 0, 0⟩

/-- Checks the token of a knock where one is asked for. -/
def checkToken (d : Doorkeeper) (clock : Clock) (knock : ValidatedKnock) :
    Option TokenPolicy × Except AdmitError Unit :=
  match d.tokens with
  | none => (none, .ok ())
  | some policy => match knock.token with
    | none => (some policy, .error .missingToken)
    | some token =>
      let (after, verdict) := policy.check clock token knock.device.id d.service
      (some after, verdict)

/-- Admits the address that a knock came from, if the knock is worth it. -/
def consider (d : Doorkeeper) (clock : Clock) (knock : ValidatedKnock) (source : IpAddress) :
    Doorkeeper × Except AdmitError Unit :=
  if !knock.device.permits d.service then
    (d, .error (.serviceNotPermitted knock.device.id d.service))
  else match d.checkToken clock knock with
    | (tokens, .error reason) => ({ d with tokens }, .error reason)
    | (tokens, .ok ()) => match d.gate.letIn clock source knock.device with
      | some gate => ({ d with tokens, gate }, .ok ())
      -- The number of the token has been recorded by now.
      | none => ({ d with tokens }, .error .outOfRange)

/-- Admits and counts. A breakdown is counted nowhere. -/
def onKnock (d : Doorkeeper) (clock : Clock) (knock : ValidatedKnock) (source : IpAddress) :
    Doorkeeper :=
  match d.consider clock knock source with
  | (after, .ok ()) => { after with admitted := after.admitted + 1 }
  | (after, .error reason) =>
    if reason.isBreakdown then after else { after with refused := after.refused + 1 }

/-- Forgets what has expired, in the gate and among the tokens. -/
def sweep (d : Doorkeeper) (clock : Clock) : Doorkeeper :=
  { d with gate := d.gate.sweep clock, tokens := d.tokens.map (·.sweep clock) }

theorem gate_consider_of_error {d : Doorkeeper} {clock : Clock} {knock : ValidatedKnock}
    {source : IpAddress} {reason : AdmitError}
    (h : (d.consider clock knock source).2 = .error reason) :
    (d.consider clock knock source).1.gate = d.gate := by
  unfold consider at *
  split
  · rfl
  · split
    · rfl
    · split
      · simp_all
      · rfl

end Doorkeeper

end Perimeter
