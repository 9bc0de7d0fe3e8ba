import Perimeter.Controller.TokenApi
import Perimeter.Proofs.Gateway.Admission
import Perimeter.Proofs.Token.Genuine

/-!
# `Perimeter.Proofs.Introspection`: what the controller says of a token and what the gateway does

A token can be shown to the controller, which answers with its claims, and to the gateway, which
admits with it. The one takes it from a header behind the name of a scheme and drops the white
space around it, the other takes it from a knock as it stands. They have different times to live
and different words for a refusal.

Neither matters. What verifies has no octet that a header could not show and no white space
(`TokenIssuer.plain_of_verify`, `TokenIssuer.trim_of_verify`), and all that verification looks
at is the secret and the name of the issuer (`TokenIssuer.verify_congr`). So the controller
answers with claims exactly if the gateway has nothing against the token itself, and then the
gateway goes on with these claims (`claims_told_iff_verified`). In the last minute that a machine
can count, a genuine token gets no answer at all (`unanswered_of_last_minute`).

`TokenApi.Bears` says when a request bears a token, without the order of the checks, and
`TokenPolicy.weigh` what the gateway makes of claims.
-/

set_option autoImplicit false

namespace Perimeter

/-! ### The token of a request -/

/-- The first header of a name has a value. Letter case counts for nothing in names. -/
def Request.FirstHeader (r : Request) (name : String) (value : Bytes) : Prop :=
  ∃ before written after, r.headers = before ++ (written, value) :: after ∧
    written.toLower = name ∧ ∀ h ∈ before, h.1.toLower ≠ name

theorem Request.header?_eq_some_iff {r : Request} {name : String} {value : Bytes} :
    r.header? name = some value ↔ r.FirstHeader name value := by
  simp only [header?, Option.map_eq_some_iff, List.find?_eq_some_iff_append, FirstHeader,
    decide_eq_true_eq, Bool.not_eq_true', decide_eq_false_iff_not]
  constructor
  · rintro ⟨⟨written, found⟩, ⟨hname, before, after, hheaders, hbefore⟩, rfl⟩
    exact ⟨before, written, after, hheaders, hname, hbefore⟩
  · rintro ⟨before, written, after, hheaders, hname, hbefore⟩
    exact ⟨(written, value), ⟨hname, before, after, hheaders, hbefore⟩, rfl⟩

theorem Request.FirstHeader.eq {r : Request} {name : String} {value value' : Bytes}
    (h : r.FirstHeader name value) (h' : r.FirstHeader name value') : value = value' := by
  rw [← header?_eq_some_iff] at h h'
  exact Option.some.inj (h.symm.trans h')

namespace TokenApi

variable {r : Request} {token : String}

/-- A request bears a token: the first header for authorization shows nothing but visible ASCII,
spaces and tabs, it begins with the name of the scheme, and the token is the rest without the
white space around it. -/
def Bears (r : Request) (token : String) : Prop :=
  ∃ value rest, r.FirstHeader "authorization" value ∧
    (∀ b ∈ value, 0x20 ≤ b ∧ b < 0x7F ∨ b = 0x09) ∧
    value = Text.utf8 ("Bearer " ++ rest) ∧ token = Text.trim rest ∧ token ≠ ""

theorem isVisible_iff {b : UInt8} : isVisible b ↔ 0x20 ≤ b ∧ b < 0x7F ∨ b = 0x09 := by
  simp [isVisible]

/-- Behind the name of the scheme stands the token. -/
theorem tokenIn?_append (rest : String) :
    tokenIn? ("Bearer " ++ rest) =
      if Text.trim rest = "" then none else some (Text.trim rest) := by
  have hprefix : scheme.toList.isPrefixOf ("Bearer " ++ rest).toList := by
    rw [List.isPrefixOf_iff_prefix, String.toList_append]
    exact List.prefix_append _ _
  have hrest : String.ofList (("Bearer " ++ rest).toList.drop scheme.length) = rest := by
    rw [String.toList_append, show scheme.length = "Bearer ".toList.length by decide,
      List.drop_left, String.ofList_toList]
  simp only [tokenIn?, hprefix, if_true, hrest]

theorem tokenIn?_eq_some_iff {value : String} :
    tokenIn? value = some token ↔
      ∃ rest, value = "Bearer " ++ rest ∧ token = Text.trim rest ∧ token ≠ "" := by
  constructor
  · intro h
    have hprefix : scheme.toList.isPrefixOf value.toList := by
      by_contra hother
      simp [tokenIn?, hother] at h
    obtain ⟨rest, hrest⟩ := List.isPrefixOf_iff_prefix.mp hprefix
    have hvalue : value = "Bearer " ++ String.ofList rest := by
      rw [← String.toList_inj, ← hrest]
      simp [scheme]
    rw [hvalue, tokenIn?_append] at h
    split at h
    · cases h
    · rename_i hne
      cases h
      exact ⟨_, hvalue, rfl, hne⟩
  · rintro ⟨rest, rfl, rfl, hne⟩
    rw [tokenIn?_append, if_neg hne]

theorem isAscii_of_visible {value : Bytes} (h : ∀ b ∈ value, isVisible b) :
    Text.isAscii value := by
  have hlow : ∀ b, isVisible b → b < 128 := forall_octet (by decide +kernel)
  rw [Text.isAscii, List.all_eq_true]
  intro b hb
  exact decide_eq_true (hlow b (h b hb))

/-- The token that is found in a request is the one that it bears. -/
theorem bearerToken_eq_ok_iff : bearerToken r = .ok token ↔ Bears r token := by
  simp only [bearerToken_ok_iff, Request.header?_eq_some_iff, Bears, tokenIn?_eq_some_iff,
    List.all_eq_true, ← isVisible_iff]
  constructor
  · rintro ⟨value, hheader, hvisible, rest, hvalue, htoken⟩
    refine ⟨value, rest, hheader, hvisible, ?_, htoken⟩
    rw [← hvalue, Text.utf8_ofAscii (isAscii_of_visible hvisible)]
  · rintro ⟨value, rest, hheader, hvisible, hvalue, htoken⟩
    refine ⟨value, hheader, hvisible, rest, Text.utf8_injective ?_, htoken⟩
    rw [← hvalue, Text.utf8_ofAscii (isAscii_of_visible hvisible)]

/-- Claims are told to whoever bears a token that verifies as them. -/
theorem introspect_eq_ok_iff {issuer : TokenIssuer} {now : Int64} {claims : Token.Claims} :
    introspect issuer now r = .ok claims ↔
      ∃ token, Bears r token ∧ issuer.verify token now = .ok claims := by
  simp only [introspect, Checks.bind_eq_ok, Checks.mapError_eq_ok, bearerToken_eq_ok_iff]

theorem bearerToken_ne_token (r : Request) (cause : Token.Error) :
    bearerToken r ≠ .error (.token cause) := by
  unfold bearerToken
  repeat' split
  all_goals simp

/-- To find the claims breaks down if the verification of the token does. -/
theorem introspect_outOfRange_iff {issuer : TokenIssuer} {now : Int64} :
    introspect issuer now r = .error (.token .outOfRange) ↔
      ∃ token, Bears r token ∧ issuer.verify token now = .error .outOfRange := by
  simp only [← bearerToken_eq_ok_iff, introspect]
  cases hbearer : bearerToken r with
  | error refusal =>
    have hne : refusal ≠ .token .outOfRange := fun heq =>
      bearerToken_ne_token r .outOfRange (hbearer.trans (congrArg Except.error heq))
    simpa [bind, Except.bind] using hne
  | ok token =>
    rw [Checks.ok_bind]
    cases hverify : issuer.verify token now <;> simp [Except.mapError, hverify]

/-- Every refusal has words but a breakdown. -/
theorem Refusal.reason?_eq_none_iff {refusal : Refusal} :
    refusal.reason? = none ↔ refusal = .token .outOfRange := by
  cases refusal with
  | token cause => cases cause <;> simp [reason?]
  | missingHeader => simp [reason?]
  | unreadableHeader => simp [reason?]
  | noBearerToken => simp [reason?]

end TokenApi

/-! ### What verification looks at -/

namespace TokenIssuer

open Token

variable {t t' : TokenIssuer} {token : String} {claims : Claims} {now : Int64}

/-- Whoever has the same secret and the same name verifies the same tokens. -/
theorem verify_congr (hsecret : t'.secret = t.secret) (hissuer : t'.issuer = t.issuer)
    (token : String) (now : Int64) : t'.verify token now = t.verify token now := by
  unfold verify check
  rw [hsecret, hissuer]

/-- A token that verifies is letters and dots, so that any header can show it and none of it is
white space. -/
theorem plain_of_verify (h : t.verify token now = .ok claims) :
    ∀ b ∈ Text.utf8 token,
      TokenApi.isVisible b ∧ Text.isBlank (Char.ofNat b.toNat) = false := by
  have hletter : ∀ b, (Base64Url.value? b).isSome →
      TokenApi.isVisible b ∧ Text.isBlank (Char.ofNat b.toNat) = false :=
    forall_octet (by decide +kernel)
  obtain ⟨header, payload, htoken, -, -⟩ := vouches_iff_compact.mp (verify_ok_iff.mp h).1
  intro b hb
  simp only [htoken, compact, message, signature, List.mem_append, List.mem_cons] at hb
  rcases hb with (hb | rfl | hb) | rfl | hb
  · exact hletter b (Base64Url.isSome_value?_of_mem_encode hb)
  · decide
  · exact hletter b (Base64Url.isSome_value?_of_mem_encode hb)
  · decide
  · exact hletter b (Base64Url.isSome_value?_of_mem_encode hb)

theorem trim_of_verify (h : t.verify token now = .ok claims) : Text.trim token = token := by
  have hplain := plain_of_verify h
  have hascii : Text.isAscii (Text.utf8 token) :=
    TokenApi.isAscii_of_visible fun b hb => (hplain b hb).1
  have hsame : Text.ofAscii (Text.utf8 token) = token :=
    Text.utf8_injective (Text.utf8_ofAscii hascii)
  have hblank : ∀ c ∈ token.toList, Text.isBlank c = false := by
    intro c hc
    rw [← hsame, Text.ofAscii, String.toList_ofList, List.mem_map] at hc
    obtain ⟨b, hb, rfl⟩ := hc
    exact (hplain b hb).2
  rw [Text.trim, Text.trimList_of_edges (fun c hc => hblank c (List.mem_of_head? hc))
    (fun c hc => hblank c (List.mem_of_getLast? hc)), String.ofList_toList]

/-- The empty text does not verify. -/
theorem ne_empty_of_verify (h : t.verify token now = .ok claims) : token ≠ "" := by
  rintro rfl
  cases h

end TokenIssuer

/-! ### At the gateway -/

namespace TokenPolicy

open Token

variable {p : TokenPolicy} {clock : Clock} {token : String} {claims : Claims}

/-- What a policy makes of the claims of a token that has verified: they have to be the device's
and to name the service, and their number must not have been used. -/
def weigh (p : TokenPolicy) (clock : Clock) (claims : Claims) (device : DeviceId)
    (service : String) : TokenPolicy × Except AdmitError Unit :=
  if claims.subject ≠ device.text then (p, .error (.subjectMismatch claims.subject device))
  else if !claims.allows service then (p, .error (.outOfScope service))
  else
    let (used, outcome) := p.used.insertIfAbsent clock.instant claims.id ()
      (retention claims clock.unixSeconds)
    ({ p with used }, match outcome with
      | .stored => .ok ()
      | .present => .error (.tokenReused claims.id)
      | .full => .error (.usedTokensFull claims.id)
      | .outOfRange => .error .outOfRange)

/-- Of a token that verifies only the claims are looked at. -/
theorem check_of_verify (h : p.verifier.verify token clock.unixSeconds = .ok claims)
    (device : DeviceId) (service : String) :
    p.check clock token device service = p.weigh clock claims device service := by
  unfold weigh
  split
  next hsubject =>
    refine check_of_examine_error ?_
    simp only [examine, h, Checks.mapError_ok, Checks.ok_bind, if_pos hsubject]
    rfl
  next hsubject =>
    split
    next hscope =>
      refine check_of_examine_error ?_
      simp only [examine, h, Checks.mapError_ok, Checks.ok_bind, if_neg hsubject, if_pos hscope]
      rfl
    next hscope =>
      have hexamine : p.examine token device service clock.unixSeconds = .ok claims :=
        examine_ok_iff.mpr ⟨h, not_not.mp hsubject, by simpa using hscope⟩
      simp only [check, hexamine]
      split <;> simp_all

/-- A token that does not verify is refused for that. -/
theorem check_of_verify_error {cause : Error}
    (h : p.verifier.verify token clock.unixSeconds = .error cause) (device : DeviceId)
    (service : String) :
    p.check clock token device service = (p, .error (.token cause)) :=
  check_of_examine_error (examine_of_verify_error h)

/-- Nothing is said against the token itself once it has verified. -/
theorem weigh_ne_token (p : TokenPolicy) (clock : Clock) (claims : Claims) (device : DeviceId)
    (service : String) (cause : Error) :
    (p.weigh clock claims device service).2 ≠ .error (.token cause) := by
  unfold weigh
  split
  · simp
  · split
    · simp
    · dsimp only
      split <;> simp

/-- A policy has nothing against a token itself exactly if it verifies. -/
theorem verifies_iff (p : TokenPolicy) (clock : Clock) (token : String) (device : DeviceId)
    (service : String) :
    (∃ claims, p.verifier.verify token clock.unixSeconds = .ok claims) ↔
      ∀ cause, (p.check clock token device service).2 ≠ .error (.token cause) := by
  cases hverify : p.verifier.verify token clock.unixSeconds with
  | error cause => simp [check_of_verify_error hverify]
  | ok claims => simp [check_of_verify hverify, weigh_ne_token]

end TokenPolicy

/-! ### Both -/

namespace TokenApi

variable {issuer : TokenIssuer} {now : Int64} {r : Request} {token : String}
  {claims : Token.Claims}

/-- A request presents a token that has no white space around it: the request bears the token, or
the token stands directly behind the name of the scheme, fit to stand there or not. -/
def Presents (r : Request) (token : String) : Prop :=
  Bears r token ∨ Text.trim token = token ∧
    r.FirstHeader "authorization" (Text.utf8 ("Bearer " ++ token))

/-- A request for claims is answered with them or turned away, or there is no answer. -/
theorem respond_cases (issuer : TokenIssuer) (now : Int64) (hmethod : r.method = "GET")
    (hpath : r.path = "/api/v1/token") :
    (∃ claims, introspect issuer now r = .ok claims ∧
      respond issuer now r = some (.json 200 claims.write)) ∨
    (∃ refusal reason, introspect issuer now r = .error refusal ∧
      refusal ≠ .token .outOfRange ∧
      respond issuer now r = some (.json 401 (Response.single "error" reason))) ∨
    introspect issuer now r = .error (.token .outOfRange) ∧ respond issuer now r = none := by
  have hrespond : respond issuer now r = tokenResponse issuer now r := by
    simp [respond, hpath, hmethod, Resource.at?, get]
  rw [hrespond, tokenResponse]
  cases introspect issuer now r with
  | ok claims => exact .inl ⟨claims, rfl, rfl⟩
  | error refusal =>
    cases hreason : refusal.reason? with
    | none =>
      obtain rfl := Refusal.reason?_eq_none_iff.mp hreason
      exact .inr (.inr ⟨rfl, rfl⟩)
    | some reason =>
      refine .inr (.inl ⟨refusal, reason, rfl, ?_, by simp only [hreason, Option.map_some]⟩)
      rw [Ne, ← Refusal.reason?_eq_none_iff, hreason]
      exact nofun

/-- The claims in an answer are those of a token that the request bears. -/
theorem respond_eq_claims_iff (hmethod : r.method = "GET") (hpath : r.path = "/api/v1/token") :
    respond issuer now r = some (.json 200 claims.write) ↔
      ∃ token, Bears r token ∧ issuer.verify token now = .ok claims := by
  rw [← introspect_eq_ok_iff]
  rcases respond_cases issuer now hmethod hpath with
    ⟨told, htold, hrespond⟩ | ⟨refusal, reason, hrefused, -, hrespond⟩ | ⟨hbroke, hrespond⟩
  · rw [htold, hrespond, Except.ok.injEq, Option.some.injEq]
    constructor
    · intro hsame
      -- Claims are read again from how they are written.
      have hwrite : told.write = claims.write := congrArg Response.body hsame
      have hread := Token.Claims.read?_write told
      rw [hwrite, Token.Claims.read?_write] at hread
      exact (Option.some.inj hread).symm
    · rintro rfl
      rfl
  · rw [hrefused, hrespond, Option.some.injEq]
    constructor
    · intro hsame
      cases congrArg Response.status hsame
    · nofun
  · rw [hbroke, hrespond]
    exact ⟨nofun, nofun⟩

/-- There is no answer if a genuine token is borne in the last minute that a machine can count. -/
theorem respond_eq_none_iff (hmethod : r.method = "GET") (hpath : r.path = "/api/v1/token") :
    respond issuer now r = none ↔
      (∃ token claims, Bears r token ∧ issuer.Genuine token claims) ∧ 2 ^ 63 ≤ now.toInt + 60 := by
  have hbroke : respond issuer now r = none ↔
      introspect issuer now r = .error (.token .outOfRange) := by
    rcases respond_cases issuer now hmethod hpath with
      ⟨told, htold, hrespond⟩ | ⟨refusal, reason, hrefused, hother, hrespond⟩ | ⟨hbroke, hrespond⟩
    · simp [htold, hrespond]
    · simp [hrefused, hrespond, hother]
    · simp [hbroke, hrespond]
  rw [hbroke, introspect_outOfRange_iff]
  simp only [TokenIssuer.breaksDown_iff]
  constructor
  · rintro ⟨token, hbears, ⟨claims, hgenuine⟩, hover⟩
    exact ⟨⟨token, claims, hbears, hgenuine⟩, hover⟩
  · rintro ⟨⟨token, claims, hbears, hgenuine⟩, hover⟩
    exact ⟨token, hbears, ⟨claims, hgenuine⟩, hover⟩

/-- A token that verifies is borne by whatever request presents it. -/
theorem Presents.bears (h : Presents r token) (hverify : issuer.verify token now = .ok claims) :
    Bears r token := by
  rcases h with hbears | ⟨htrim, hheader⟩
  · exact hbears
  · refine ⟨_, token, hheader, fun b hb => ?_, rfl, htrim.symm,
      TokenIssuer.ne_empty_of_verify hverify⟩
    rw [← isVisible_iff]
    have hscheme : ∀ b ∈ Text.utf8 "Bearer ", isVisible b := by decide +kernel
    rw [Text.utf8_append, List.mem_append] at hb
    exact hb.elim (hscheme b) fun hb => (TokenIssuer.plain_of_verify hverify b hb).1

/-- No other token is borne than the one presented. -/
theorem Presents.eq_of_bears {borne : String} (h : Presents r token) (hborne : Bears r borne) :
    borne = token := by
  rcases h with hbears | ⟨htrim, hheader⟩
  · rw [← bearerToken_eq_ok_iff] at hborne hbears
    exact Except.ok.inj (hborne.symm.trans hbears)
  · obtain ⟨value, rest, hfirst, -, hvalue, hborne, -⟩ := hborne
    have hrest : "Bearer " ++ token = "Bearer " ++ rest :=
      Text.utf8_injective ((Request.FirstHeader.eq hheader hfirst).trans hvalue)
    rw [String.append_right_inj] at hrest
    rw [hborne, ← hrest, htrim]

theorem Presents.verifies_iff (h : Presents r token) :
    (∃ borne, Bears r borne ∧ issuer.verify borne now = .ok claims) ↔
      issuer.verify token now = .ok claims := by
  constructor
  · rintro ⟨borne, hborne, hverify⟩
    rwa [h.eq_of_bears hborne] at hverify
  · exact fun hverify => ⟨token, h.bears hverify, hverify⟩

/-- The controller and the gateway agree on tokens. A request for claims is answered with claims
exactly if the first header for authorization bears a token that verifies as them, and any other
request that is answered is turned away. There is no answer exactly if the token is genuine and the
time is in the last minute that a machine can count.

Let a request present a token, and let a gateway have the same secret and the same name of the
issuer, whatever its time to live is. Then the controller answers with claims exactly if the
gateway's policy has nothing against the token itself, and these are the claims that the policy
goes on with. -/
theorem claims_told_iff_verified (hmethod : r.method = "GET") (hpath : r.path = "/api/v1/token") :
    (∀ claims : Token.Claims, respond issuer now r = some (.json 200 claims.write) ↔
      ∃ token, Bears r token ∧ issuer.verify token now = .ok claims) ∧
    (respond issuer now r = none ↔
      (∃ token claims, Bears r token ∧ issuer.Genuine token claims) ∧
        2 ^ 63 ≤ now.toInt + 60) ∧
    (∀ answer, respond issuer now r = some answer →
      (∀ claims : Token.Claims, answer ≠ .json 200 claims.write) → answer.status = 401) ∧
    ∀ token, Presents r token → ∀ (p : TokenPolicy) (clock : Clock) device service,
      p.verifier.secret = issuer.secret → p.verifier.issuer = issuer.issuer →
      clock.unixSeconds = now →
      ((∃ claims : Token.Claims, respond issuer now r = some (.json 200 claims.write)) ↔
        ∀ cause, (p.check clock token device service).2 ≠ .error (.token cause)) ∧
      ∀ claims, respond issuer now r = some (.json 200 claims.write) →
        p.check clock token device service = p.weigh clock claims device service := by
  have hiff : ∀ claims : Token.Claims, respond issuer now r = some (.json 200 claims.write) ↔
      ∃ token, Bears r token ∧ issuer.verify token now = .ok claims :=
    fun claims => respond_eq_claims_iff hmethod hpath
  refine ⟨hiff, respond_eq_none_iff hmethod hpath, fun answer hanswer hother => ?_, ?_⟩
  · rcases respond_cases issuer now hmethod hpath with
      ⟨claims, -, htold⟩ | ⟨refusal, reason, -, -, hrefused⟩ | ⟨-, hnone⟩
    · cases hanswer.symm.trans htold
      exact absurd rfl (hother claims)
    · cases hanswer.symm.trans hrefused
      rfl
    · cases hanswer.symm.trans hnone
  · rintro token hpresents p clock device service hsecret hissuer rfl
    have htold : ∀ claims : Token.Claims,
        respond issuer clock.unixSeconds r = some (.json 200 claims.write) ↔
          p.verifier.verify token clock.unixSeconds = .ok claims := by
      intro claims
      rw [hiff, hpresents.verifies_iff, TokenIssuer.verify_congr hsecret hissuer]
    refine ⟨?_, fun claims h => TokenPolicy.check_of_verify ((htold claims).mp h) device service⟩
    rw [← p.verifies_iff clock token device service]
    exact exists_congr htold

/-- A token in the first of two headers for authorization, and something in its place that is no
token. The gateway that shares the secret lets its tokens live longer. -/
theorem claims_told_iff_verified_of_two :
    let t : TokenIssuer := ⟨List.replicate 32 7, by decide, "controller", 120⟩
    let claims : Token.Claims := ⟨"controller", "tablet", 1000, 1120, ["ssh"], ⟨Octets.zero 16⟩⟩
    let token := t.sign claims
    let asking (token : String) : Request := ⟨"GET", "/api/v1/token?verbose",
      [("Host", Text.utf8 "localhost"), ("AUTHORIZATION", Text.utf8 ("Bearer " ++ token)),
        ("authorization", Text.utf8 "Basic dGFibGV0")]⟩
    let p := TokenPolicy.new { t with ttl := 600 } 10
    let clock := Clock.startingAt 1000
    let tablet : DeviceId := ⟨"tablet", by decide, by decide⟩
    (∀ token, (asking token).method = "GET" ∧ (asking token).path = "/api/v1/token") ∧
    clock.unixSeconds = 1000 ∧ Presents (asking token) token ∧ Presents (asking "a.b") "a.b" ∧
    respond t 1000 (asking token) = some (.json 200 claims.write) ∧
    p.check clock token tablet "ssh" = p.weigh clock claims tablet "ssh" ∧
    (∃ answer, respond t 1000 (asking "a.b") = some answer ∧ answer.status = 401) ∧
    ∃ cause, (p.check clock "a.b" tablet "ssh").2 = .error (.token cause) := by
  intro t claims token asking p clock tablet
  have hverify : t.verify token 1000 = .ok claims :=
    (TokenIssuer.verify_sign rfl (Token.Claims.read?_write claims)).trans (by decide)
  have hpath : String.ofList (Request.pathOf "/api/v1/token?verbose".toList) = "/api/v1/token" := by
    decide +kernel
  have hpresents : ∀ token, Text.trim token = token → Presents (asking token) token := by
    intro token htrim
    exact .inr ⟨htrim, [_], "AUTHORIZATION", [_], rfl, by decide +kernel, by decide +kernel⟩
  have hgood := hpresents token (TokenIssuer.trim_of_verify hverify)
  have hbad := hpresents "a.b" (by decide)
  obtain ⟨htold, -, -, hagrees⟩ :=
    @claims_told_iff_verified t 1000 (asking token) rfl hpath
  have hanswer : respond t 1000 (asking token) = some (.json 200 claims.write) :=
    (htold claims).mpr ⟨token, Presents.bears hgood hverify, hverify⟩
  obtain ⟨-, hnone, hrefused, hagrees'⟩ :=
    @claims_told_iff_verified t 1000 (asking "a.b") rfl hpath
  have hcheck : (p.check clock "a.b" tablet "ssh").2 =
      .error (.token (.malformed .notThreeParts)) :=
    congrArg Prod.snd (TokenPolicy.check_of_verify_error (p := p) (by decide) tablet "ssh")
  obtain ⟨answer, hanswer'⟩ : ∃ answer, respond t 1000 (asking "a.b") = some answer :=
    Option.ne_none_iff_exists'.mp fun h => absurd (hnone.mp h).2 (by decide)
  refine ⟨fun _ => ⟨rfl, hpath⟩, by decide, hgood, hbad, hanswer,
    (hagrees token hgood p clock tablet "ssh" rfl rfl (by decide)).2 claims hanswer,
    ⟨answer, hanswer', hrefused answer hanswer' fun claims htold => ?_⟩, _, hcheck⟩
  obtain ⟨hiff, -⟩ := hagrees' "a.b" hbad p clock tablet "ssh" rfl rfl (by decide)
  exact hiff.mp ⟨claims, htold ▸ hanswer'⟩ _ hcheck

/-- Eleven seconds before the end of the machine's time somebody asks for the claims of a token that
was issued then for ten seconds. There is no answer, neither with the claims nor with a refusal. -/
theorem unanswered_of_last_minute :
    let t : TokenIssuer := ⟨List.replicate 32 0x42, by decide, "sdp-controller", 10⟩
    let now : Int64 := 9223372036854775797
    let claims : Token.Claims :=
      ⟨"sdp-controller", "dev-1", now, 9223372036854775807, ["ssh"], ⟨Octets.zero 16⟩⟩
    let request : Request := ⟨"GET", "/api/v1/token",
      [("authorization", Text.utf8 ("Bearer " ++ t.sign claims))]⟩
    Bears request (t.sign claims) ∧ t.Genuine (t.sign claims) claims ∧
      (∀ claims', t.verify (t.sign claims) now ≠ .ok claims') ∧ respond t now request = none := by
  intro t now claims request
  have hgenuine : t.Genuine (t.sign claims) claims := TokenIssuer.genuine_sign (by decide) rfl
  -- A minute earlier the token verifies, so that any request that presents it bears it.
  have hearlier : t.verify (t.sign claims) 9223372036854775740 = .ok claims :=
    (TokenIssuer.verify_sign rfl (Token.Claims.read?_write claims)).trans (by decide)
  have hpresents : Presents request (t.sign claims) :=
    .inr ⟨TokenIssuer.trim_of_verify hearlier, [], "authorization", [], rfl, by decide +kernel,
      nofun⟩
  have hbears := hpresents.bears hearlier
  have hpath : request.path = "/api/v1/token" := by
    show String.ofList (Request.pathOf "/api/v1/token".toList) = _
    decide +kernel
  refine ⟨hbears, hgenuine, fun claims' hok => ?_,
    (respond_eq_none_iff rfl hpath).mpr ⟨⟨_, claims, hbears, hgenuine⟩, by decide⟩⟩
  have hbroke : t.verify (t.sign claims) now = .error .outOfRange :=
    TokenIssuer.breaksDown_iff.mpr ⟨⟨claims, hgenuine⟩, by decide⟩
  cases hbroke.symm.trans hok

end TokenApi

end Perimeter
