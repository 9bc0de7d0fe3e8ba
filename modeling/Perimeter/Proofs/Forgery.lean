import Perimeter.Controller.Server
import Perimeter.Gateway.Server
import Perimeter.Proofs.Gateway.Admission
import Perimeter.Proofs.Token.Claims
import Perimeter.Proofs.Token.Forged
import Perimeter.Proofs.Validation.AnyToken

/-!
# `Perimeter.Proofs.Forgery`: forged claims are not looked at

Whoever does not have the secret can still write any claims under any header and ask what becomes
of the token: at the gateway with a knock, at the controller with a request. An answer that
depended on the claims would say something about them. It does not: a forgery is refused with
the verdict on its header, wherever it is presented and whenever
(`Doorkeeper.consider_of_forged`, `TokenApi.respond_of_forged`).

`Gateway.Server.knock_of_forged` is about a gateway as a whole: of two knocks that differ in
forged tokens alone, either leaves the gateway as the other would. A controller does not look at
tokens in knocks at all (`Controller.Server.knock_withToken`).
-/

set_option autoImplicit false

namespace Perimeter

open TokenIssuer (forgedVerdict)

variable {header : Bytes} {token token' : String}

/-! ### At the gateway -/

/-- A doorkeeper refuses a knock with a forged token, and is as it was before. -/
theorem Doorkeeper.consider_of_forged {d : Doorkeeper} {policy : TokenPolicy}
    {knock : ValidatedKnock} (hpolicy : d.tokens = some policy) (htoken : knock.token = some token)
    (hforged : policy.verifier.Forged header token) (clock : Clock) (source : IpAddress) :
    d.consider clock knock source =
      (d, .error (if knock.device.permits d.service then .token (forgedVerdict header)
        else .serviceNotPermitted knock.device.id d.service)) := by
  by_cases hpermits : knock.device.permits d.service
  · have hexamine : policy.examine token knock.device.id d.service clock.unixSeconds =
        .error (.token (forgedVerdict header)) :=
      TokenPolicy.examine_of_verify_error (TokenIssuer.verify_of_forged hforged _)
    -- What fails the examination is not put on record, so that the policy is as it was.
    rw [consider, checkToken_of_token hpolicy htoken, TokenPolicy.check_of_examine_error hexamine]
    simp only [hpermits, Bool.not_true, Bool.false_eq_true, if_false, if_true, ← hpolicy]
  · simp [consider, hpermits]

/-- A forged token is read as it is. -/
theorem tokenRead_of_forged {t : TokenIssuer} (h : t.Forged header token) :
    Knock.tokenRead (some token) = some token := by
  have hne : token ≠ "" := by
    rintro rfl
    obtain ⟨payload, given, htoken, -⟩ := h
    have hmem : Token.dot ∈ Text.utf8 "" := by
      rw [htoken]
      simp
    cases hmem
  simp [Knock.tokenRead, Option.filter, hne]

/-- In place of a forged token, another one under the same header does the same. A doorkeeper
that asks for no tokens does not mind either. -/
theorem Doorkeeper.consider_withToken {d : Doorkeeper} {knock : ValidatedKnock}
    (hforged : ∀ policy, d.tokens = some policy →
      policy.verifier.Forged header token ∧ policy.verifier.Forged header token')
    (htoken : knock.token = Knock.tokenRead (some token)) (clock : Clock) (source : IpAddress) :
    d.consider clock (knock.withToken (Knock.tokenRead (some token'))) source =
      d.consider clock knock source := by
  cases hpolicy : d.tokens with
  | none =>
    simp only [consider, checkToken_of_none hpolicy]
    rfl
  | some policy =>
    obtain ⟨h, h'⟩ := hforged policy hpolicy
    rw [tokenRead_of_forged h] at htoken
    rw [consider_of_forged hpolicy htoken h,
      consider_of_forged hpolicy (tokenRead_of_forged h') h']
    rfl

/-- Two knocks that differ in forged tokens alone leave the gateway in the same state. -/
theorem Gateway.Server.knock_of_forged {s : Gateway.Server} {knock : Knock} {secret : KnockSecret}
    {datagram datagram' : Bytes} (hsecret : s.port.validator.KnowsSecret knock.device secret)
    (hforged : ∀ policy, s.doorkeeper.tokens = some policy →
      policy.verifier.Forged header token ∧ policy.verifier.Forged header token')
    (h : Knock.encode secret (knock.withToken (some token)) = .ok datagram)
    (h' : Knock.encode secret (knock.withToken (some token')) = .ok datagram')
    (clock : Clock) (source : IpAddress) :
    s.knock clock source datagram' = s.knock clock source datagram := by
  have hread : ∀ k, (s.port.receive clock 0 datagram).2 = some k →
      k.token = Knock.tokenRead (some token) := fun k => KnockPort.token_of_receive h
  rw [Server.knock, Server.knock, KnockPort.receive_withToken hsecret h h']
  generalize s.port.receive clock 0 datagram = received at hread
  obtain ⟨port, outcome⟩ := received
  cases outcome with
  | none => rfl
  | some k =>
    have hsame := Doorkeeper.consider_withToken hforged (hread k rfl) clock source
    simp only [Option.map_some, Doorkeeper.onKnock, hsame]

/-! ### At the controller -/

/-- A controller does not look at the token of a knock. -/
theorem Controller.Server.knock_withToken {s : Controller.Server} {knock : Knock}
    {secret : KnockSecret} {given given' : Option String} {datagram datagram' : Bytes}
    (hsecret : s.port.validator.KnowsSecret knock.device secret)
    (h : Knock.encode secret (knock.withToken given) = .ok datagram)
    (h' : Knock.encode secret (knock.withToken given') = .ok datagram')
    (clock : Clock) (id : Uuid) :
    s.knock clock id datagram' = s.knock clock id datagram := by
  have hsame : ∀ k token, s.desk.onKnock clock.unixSeconds id (k.withToken token) =
      s.desk.onKnock clock.unixSeconds id k := by
    -- A grant is made of the device and the nonce.
    intro k token
    simp only [GrantDesk.onKnock, GrantDesk.grant, GrantDesk.grantFor, ValidatedKnock.withToken]
    rfl
  rw [Server.knock, Server.knock, KnockPort.receive_withToken hsecret h h']
  obtain ⟨port, outcome⟩ := s.port.receive clock 0 datagram
  cases outcome with
  | none => rfl
  | some k => simp only [Option.map_some, hsame]

/-- The answer to a question about a forged token. -/
theorem TokenApi.tokenResponse_of_forged {t : TokenIssuer} {r : Request}
    (htoken : bearerToken r = .ok token) (hforged : t.Forged header token) (now : Int64) :
    tokenResponse t now r = (Refusal.token (forgedVerdict header)).reason?.map fun reason =>
      .json 401 (Response.single "error" reason) := by
  have hrefused : introspect t now r = .error (.token (forgedVerdict header)) := by
    rw [introspect, htoken, Checks.ok_bind, TokenIssuer.verify_of_forged hforged]
    rfl
  rw [tokenResponse, hrefused]

/-- Two requests that differ in forged tokens alone are answered the same, whoever is asked and
whenever. -/
theorem TokenApi.respond_of_forged {t t' : TokenIssuer} {r r' : Request}
    (hmethod : r'.method = r.method) (hpath : r'.path = r.path)
    (htoken : bearerToken r = .ok token) (htoken' : bearerToken r' = .ok token')
    (hforged : t.Forged header token) (hforged' : t'.Forged header token') (now now' : Int64) :
    respond t' now' r' = respond t now r := by
  have hget : ∀ resource, get t' now' r' resource = get t now r resource
    | .health => rfl
    | .token => (tokenResponse_of_forged htoken' hforged' now').trans
        (tokenResponse_of_forged htoken hforged now).symm
  simp only [respond, hmethod, hpath, hget]

/-! ### Everywhere -/

/-- The claims in a forged token have no influence on what becomes of it.

Two forgeries with the same header get the same verdict, whatever their claims and signatures
are, whoever verifies them and whenever. The verdict is about the header: it cannot be read, it
asks for another algorithm, or it is good and only the signature is not. An error that says
something about the claims, and with a header that can be read also one about how they are
written, comes only with a token that is signed.

So nothing can be asked about forged claims. Of two knocks that differ in the forgeries alone,
both are refused by the doorkeeper for the same reason, at any times, and both leave the gateway
as it is after the other. The controller answers both as if they had no token, and two requests
that differ in the forgeries alone get the same answer, at any times. -/
theorem forged_claims_have_no_influence :
    (∀ (t t' : TokenIssuer) header token token', t.Forged header token →
      t'.Forged header token' → ∀ now now',
        t.verify token now = .error (forgedVerdict header) ∧
        t'.verify token' now' = .error (forgedVerdict header)) ∧
    (∀ header, forgedVerdict header = .malformed .base64 ∨ forgedVerdict header = .malformed .json ∨
      (∃ algorithm, forgedVerdict header = .unsupportedAlgorithm algorithm) ∨
      forgedVerdict header = .badSignature) ∧
    (∀ (t : TokenIssuer) token now reason, t.verify token now = .error reason →
      (TokenIssuer.OfClaims reason → t.Signed token) ∧
      ∀ parts algorithm cause, Token.Parts.ofBytes? (Text.utf8 token) = some parts →
        TokenIssuer.readPart Token.Header.read? parts.header = .ok algorithm →
        reason = .malformed cause → t.Signed token) ∧
    (∀ (d : Doorkeeper) policy (k k' : ValidatedKnock) header token token',
      d.tokens = some policy → policy.verifier.Forged header token →
      policy.verifier.Forged header token' → k.token = some token → k'.token = some token' →
      k.device = k'.device → ∀ clock clock' source source', ∃ reason,
        d.consider clock k source = (d, .error reason) ∧
        d.consider clock' k' source' = (d, .error reason)) ∧
    (∀ (s : Gateway.Server) (knock : Knock) secret header token token' datagram datagram',
      s.port.validator.KnowsSecret knock.device secret →
      (∀ policy, s.doorkeeper.tokens = some policy →
        policy.verifier.Forged header token ∧ policy.verifier.Forged header token') →
      Knock.encode secret (knock.withToken (some token)) = .ok datagram →
      Knock.encode secret (knock.withToken (some token')) = .ok datagram' →
      ∀ clock source, s.knock clock source datagram' = s.knock clock source datagram) ∧
    (∀ (s : Controller.Server) (knock : Knock) secret token token' datagram datagram',
      s.port.validator.KnowsSecret knock.device secret →
      Knock.encode secret (knock.withToken token) = .ok datagram →
      Knock.encode secret (knock.withToken token') = .ok datagram' →
      ∀ clock id, s.knock clock id datagram' = s.knock clock id datagram) ∧
    ∀ (s s' : Controller.Server) (r r' : Request) header token token', r'.method = r.method →
      r'.path = r.path → TokenApi.bearerToken r = .ok token → TokenApi.bearerToken r' = .ok token' →
      s.desk.issuer.Forged header token → s'.desk.issuer.Forged header token' →
      ∀ clock clock', s'.respond clock' r' = s.respond clock r := by
  refine ⟨?verdict, ?ofHeader, ?ofClaims, ?considered, ?admitted, ?granted, ?asked⟩
  case verdict =>
    intro t t' header token token' hforged hforged' now now'
    exact ⟨TokenIssuer.verify_of_forged hforged now, TokenIssuer.verify_of_forged hforged' now'⟩
  case ofHeader =>
    intro header
    rcases TokenIssuer.forgedVerdict_cases header with
      ⟨-, hmalformed⟩ | ⟨algorithm, -, -, hother⟩ | ⟨-, hbad⟩
    · exact hmalformed.imp_right .inl
    · exact .inr (.inr (.inl ⟨algorithm, hother⟩))
    · exact .inr (.inr (.inr hbad))
  case ofClaims =>
    intro t token now reason h
    refine ⟨TokenIssuer.signed_of_claims_error h, ?_⟩
    rintro parts algorithm cause hparts hheader rfl
    exact TokenIssuer.signed_of_malformed_claims hparts hheader h
  case considered =>
    intro d policy k k' header token token' hpolicy hforged hforged' htoken htoken' hdevice
      clock clock' source source'
    refine ⟨_, Doorkeeper.consider_of_forged hpolicy htoken hforged clock source, ?_⟩
    rw [hdevice]
    exact Doorkeeper.consider_of_forged hpolicy htoken' hforged' clock' source'
  case admitted =>
    intro s knock secret header token token' datagram datagram' hsecret hforged h h'
    exact Gateway.Server.knock_of_forged hsecret hforged h h'
  case granted =>
    intro s knock secret token token' datagram datagram' hsecret h h'
    exact Controller.Server.knock_withToken hsecret h h'
  case asked =>
    intro s s' r r' header token token' hmethod hpath htoken htoken' hforged hforged' clock clock'
    exact TokenApi.respond_of_forged hmethod hpath htoken htoken' hforged hforged' _ _

/-- Two forgeries under a good header, one without claims and one with something in their place that
cannot be read: a gateway that asks for tokens and a controller cannot tell one from the other. A
token that is told that it has expired is signed. -/
theorem forged_claims_have_no_influence_of_good_header :
    let t : TokenIssuer := ⟨List.replicate 32 7, by decide, "controller", 120⟩
    let claims : Token.Claims := ⟨"controller", "tablet", 1000, 1120, ["ssh"], ⟨Octets.zero 16⟩⟩
    let header := Base64Url.encode Token.Header.issued
    let empty := Text.ofAscii (Token.message header [] ++ Token.dot :: [])
    let broken := Text.ofAscii
      (Token.message header (Text.utf8 "?") ++ Token.dot :: Text.utf8 "AAAA")
    let device : Device :=
      ⟨⟨"tablet", by decide, by decide⟩, ⟨List.replicate 16 7, by decide⟩, .commonName "tablet",
        ["ssh"]⟩
    let knock : Knock := ⟨device.id, 1000, ⟨List.replicate 16 0, rfl⟩, none⟩
    let port : KnockPort := .new (.new (Registry.empty.upsert device) 30000 10) 1
    let gateway : Gateway.Server := {
      port := port
      doorkeeper := .new (.new 30000 10) "ssh" (some (.new t 10))
      authority := none
      counters := {}
      maxConnections := 10
      pending := 0
      held := 0 }
    let controller : Controller.Server := ⟨port, .new t⟩
    let asking := fun token : String => (⟨"GET", "/api/v1/token",
      [("Authorization", Text.utf8 "Bearer " ++ Text.utf8 token)]⟩ : Request)
    (t.Forged header empty ∧ t.Forged header broken ∧
      t.verify empty 1000 = .error .badSignature ∧
      t.verify broken 5000 = .error .badSignature) ∧
    (t.verify (t.sign claims) 5000 = .error (.expired 1120 5000) ∧ t.Signed (t.sign claims)) ∧
    (∃ datagram datagram',
      Knock.encode device.secret (knock.withToken (some empty)) = .ok datagram ∧
      Knock.encode device.secret (knock.withToken (some broken)) = .ok datagram' ∧
      ∀ clock source, gateway.knock clock source datagram' = gateway.knock clock source datagram) ∧
    TokenApi.bearerToken (asking empty) = .ok empty ∧
    TokenApi.bearerToken (asking broken) = .ok broken ∧
    ∀ clock clock', controller.respond clock' (asking broken) =
      controller.respond clock (asking empty) := by
  intro t claims header empty broken device knock port gateway controller asking
  obtain ⟨hverdict, -, hofClaims, -, hadmitted, -, hasked⟩ := forged_claims_have_no_influence
  -- Neither has as many letters behind the last dot as a signature has.
  have hforged : t.Forged header empty :=
    ⟨[], [], Text.utf8_ofAscii (by decide +kernel), by simp, by simp, fun heq =>
      absurd (congrArg List.length heq) (by rw [Token.length_signature]; decide)⟩
  have hforged' : t.Forged header broken :=
    ⟨_, Text.utf8 "AAAA", Text.utf8_ofAscii (by decide +kernel), by decide, by decide, fun heq =>
      absurd (congrArg List.length heq) (by rw [Token.length_signature]; decide)⟩
  have hheader : forgedVerdict header = .badSignature := by decide +kernel
  have hbad := hverdict t t header empty broken hforged hforged' 1000 5000
  rw [hheader] at hbad
  have hexpired : t.verify (t.sign claims) 5000 = .error (.expired 1120 5000) :=
    (TokenIssuer.verify_sign rfl (Token.Claims.read?_write claims)).trans (by decide)
  have hsecret : port.validator.KnowsSecret knock.device device.secret := by
    intro found hfound
    have hknown : port.validator.registry.lookup knock.device = some device := by decide
    cases hfound.symm.trans hknown
    rfl
  obtain ⟨datagram, h⟩ : ∃ datagram,
      Knock.encode device.secret (knock.withToken (some empty)) = .ok datagram :=
    Knock.exists_encode_iff.mpr ⟨by decide +kernel, by decide +kernel⟩
  obtain ⟨datagram', h'⟩ : ∃ datagram',
      Knock.encode device.secret (knock.withToken (some broken)) = .ok datagram' :=
    Knock.exists_encode_iff.mpr ⟨by decide +kernel, by decide +kernel⟩
  refine ⟨⟨hforged, hforged', hbad⟩, ⟨hexpired, ?_⟩, ⟨datagram, datagram', h, h', ?_⟩, ?_⟩
  · exact (hofClaims t (t.sign claims) 5000 _ hexpired).1 trivial
  · refine hadmitted gateway knock device.secret header empty broken _ _ hsecret ?_ h h'
    rintro policy ⟨⟩
    exact ⟨hforged, hforged'⟩
  · have htoken : TokenApi.bearerToken (asking empty) = .ok empty := by decide +kernel
    have htoken' : TokenApi.bearerToken (asking broken) = .ok broken := by decide +kernel
    have hpath : ∀ r : Request, r.path = String.ofList (Request.pathOf r.target.toList) :=
      fun _ => rfl
    have hsame : (asking broken).path = (asking empty).path := by rw [hpath, hpath]
    exact ⟨htoken, htoken', hasked controller controller (asking empty) (asking broken) header
      empty broken rfl hsame htoken htoken' hforged hforged'⟩

end Perimeter
