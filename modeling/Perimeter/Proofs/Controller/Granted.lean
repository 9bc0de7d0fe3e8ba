import Perimeter.Proofs.Controller.Answer
import Perimeter.Proofs.Enrolment
import Perimeter.Proofs.Token.Size

/-!
# `Perimeter.Proofs.Controller.Granted`: which devices can be granted anything

A device may be enrolled with any number of services, and its token names them all. A grant has
room for a token of 1024 characters. So there are devices that are known, served and never
granted anything: their knocks count, and nobody hears of them.

What becomes of a knock at the desk is one of four things (`GrantDesk.grant_cases`): there are
no services, or the expiry of a token would be out of range, or a grant is issued, or the token is
too long. Which of the last two it is can be told from the texts in the device's entry before any
token is made (`GrantDesk.granted_iff_fits`), and if they are short enough, the device is granted
something at every time that leaves room for an expiry (`GrantDesk.exists_grant_of_short`). From
outside, a token that is too long looks as if there were no services
(`Controller.Server.answers_iff`).

The desk counts knocks without services and those that are granted something. The others are in
neither count (`GrantDesk.counts_serve`).
-/

set_option autoImplicit false

namespace Perimeter

/-! ### Tokens that are too long -/

/-- A token that is too long is refused for its length. -/
theorem Wire.checkToken_of_long {token : String} {least : Nat}
    (h : maxTokenLength < (Text.utf8 token).length) :
    checkToken token least = .error (.malformed (.tokenLength (Text.utf8 token).length least)) :=
  if_pos (.inr h)

/-- A grant with such a token cannot be written. -/
theorem Grant.encode_of_long {secret : KnockSecret} {grant : Grant}
    (h : Wire.maxTokenLength < (Text.utf8 grant.token).length) :
    encode secret grant =
      .error (.malformed (.tokenLength (Text.utf8 grant.token).length 1)) := by
  rw [encode, Wire.checkToken_of_long h]
  rfl

/-! ### The issuer of a configuration -/

namespace Controller

variable {c : Config} {issuer : TokenIssuer}

/-- An issuer that a configuration makes. -/
def Config.Issues (c : Config) (issuer : TokenIssuer) : Prop :=
  ∃ secret, c.tokenSecret = .ok secret ∧
    TokenIssuer.new secret c.controller.issuer c.security.tokenTtl.toNat = .ok issuer

theorem Config.Issues.ttl_le (h : c.Issues issuer) : issuer.ttl ≤ TokenIssuer.maxTtl := by
  obtain ⟨secret, -, hnew⟩ := h
  unfold TokenIssuer.new at hnew
  split at hnew
  · cases hnew
    exact Nat.min_le_right _ _
  · cases hnew

/-- A controller that starts has an issuer of its configuration. -/
theorem Server.issues_of_start {s : Server} (h : start c = .ok s) : c.Issues s.desk.issuer := by
  simp only [start, Checks.bind_eq_ok, Checks.mapError_eq_ok, Checks.pure_eq_ok] at h
  obtain ⟨-, -, registry, -, validator, -, secret, hsecret, issuer, hnew, inflight, -, rfl⟩ := h
  exact ⟨secret, hsecret, hnew⟩

end Controller

namespace GrantDesk

variable {desk : GrantDesk} {now : Int64} {id : Uuid} {k : ValidatedKnock}

/-! ### What becomes of a knock -/

/-- Without services a knock is refused. With services no token can be issued if its expiry is out
of range, and otherwise the token decides: if it is not too long, the knock is granted, and else
there is an error that says how long it is. -/
theorem grant_cases (desk : GrantDesk) (now : Int64) (id : Uuid) (k : ValidatedKnock) :
    let token := desk.issuer.tokenFor k.device now id
    (k.device.services = [] ∧
      desk.grant now id k = ({ desk with refused := desk.refused + 1 }, .ok none)) ∨
    (k.device.services ≠ [] ∧ 2 ^ 63 ≤ now.toInt + desk.issuer.ttl ∧
      desk.grant now id k = (desk, .error (.token .outOfRange))) ∨
    (k.device.services ≠ [] ∧ now.toInt + desk.issuer.ttl < 2 ^ 63 ∧
      token.length ≤ Wire.maxTokenLength ∧
      ∃ reply, Grant.encode k.device.secret (desk.grantOf now id k) = .ok reply ∧
        desk.grant now id k = ({ desk with issued := desk.issued + 1 }, .ok (some reply))) ∨
    (k.device.services ≠ [] ∧ now.toInt + desk.issuer.ttl < 2 ^ 63 ∧
      Wire.maxTokenLength < token.length ∧
      desk.grant now id k =
        (desk, .error (.encode (.malformed (.tokenLength token.length 1))))) := by
  intro token
  by_cases hnone : k.device.services = []
  · refine .inl ⟨hnone, ?_⟩
    simp [grant, hnone]
  have hserved : k.device.services.isEmpty = false := by simpa using hnone
  have hgrant := desk.grantFor_eq now id k
  by_cases hfits : now.toInt + desk.issuer.ttl < 2 ^ 63
  · rw [if_pos hfits] at hgrant
    rcases Nat.lt_or_ge Wire.maxTokenLength token.length with hlong | hshort
    · refine .inr (.inr (.inr ⟨hnone, hfits, hlong, ?_⟩))
      have hoctets : (Text.utf8 token).length = token.length :=
        (TokenIssuer.utf8_tokenFor desk.issuer k.device now id).1
      have hencode : Grant.encode k.device.secret (desk.grantOf now id k) =
          .error (.malformed (.tokenLength (Text.utf8 token).length 1)) :=
        Grant.encode_of_long (hoctets.symm ▸ hlong)
      simp only [grant, hserved, hgrant, hencode, hoctets]
      rfl
    · refine .inr (.inr (.inl ⟨hnone, hfits, hshort, ?_⟩))
      have hanswered : ∃ reply, (desk.grant now id k).2 = .ok (some reply) :=
        (grant_of_served hnone hfits hshort).imp fun _ h => h.1
      obtain ⟨reply, hanswer⟩ := hanswered
      obtain ⟨-, -, hencode⟩ := grant_eq_some_iff.mp hanswer
      refine ⟨reply, hencode, ?_⟩
      simp only [grant, hserved, hgrant, hencode]
      rfl
  · refine .inr (.inl ⟨hnone, Int.not_lt.mp hfits, ?_⟩)
    rw [if_neg hfits] at hgrant
    simp only [grant, hserved, hgrant]
    rfl

/-- One of the two counts has grown by one, and nothing else has changed. -/
def CountsOne (desk after : GrantDesk) : Prop :=
  after = { desk with issued := desk.issued + 1 } ∨
    after = { desk with refused := desk.refused + 1 }

/-- A knock that is not answered with an error is counted, and counted once. -/
theorem countsOne_of_ok {answer : Option Bytes} (h : (desk.grant now id k).2 = .ok answer) :
    desk.CountsOne (desk.grant now id k).1 ∧ desk.CountsOne (desk.onKnock now id k).1 := by
  rw [onKnock_eq, and_self]
  rcases desk.grant_cases now id k with
    ⟨-, hgrant⟩ | ⟨-, -, hgrant⟩ | ⟨-, -, -, reply, -, hgrant⟩ | ⟨-, -, -, hgrant⟩
  · exact .inr (congrArg Prod.fst hgrant)
  · rw [hgrant] at h
    cases h
  · exact .inl (congrArg Prod.fst hgrant)
  · rw [hgrant] at h
    cases h

/-! ### Devices that can be granted something -/

/-- Who is granted something: a device with services whose claims are short enough, at a time that
leaves room for the expiry. -/
theorem exists_grant_iff :
    (∃ reply, (desk.grant now id k).2 = .ok (some reply)) ↔
      k.device.services ≠ [] ∧ now.toInt + desk.issuer.ttl < 2 ^ 63 ∧
        desk.issuer.claimsLength k.device now ≤ TokenIssuer.maxClaimsLength := by
  rw [← TokenIssuer.length_tokenFor_le_iff id]
  constructor
  · rintro ⟨reply, hanswer⟩
    rcases desk.grant_cases now id k with
      ⟨-, hgrant⟩ | ⟨-, -, hgrant⟩ | ⟨hserved, hfits, hshort, -⟩ | ⟨-, -, -, hgrant⟩
    · rw [hgrant] at hanswer
      cases hanswer
    · rw [hgrant] at hanswer
      cases hanswer
    · exact ⟨hserved, hfits, hshort⟩
    · rw [hgrant] at hanswer
      cases hanswer
  · rintro ⟨hserved, hfits, hshort⟩
    exact (grant_of_served hserved hfits hshort).imp fun _ h => h.1

/-- A device with services is granted something at every time that leaves room for the expiry, if
the texts in its entry leave room for the times in the claims. -/
theorem exists_grant_of_short (hserved : k.device.services ≠ [])
    (hshort : 125 + (Json.quote desk.issuer.issuer).length +
      (Json.quote k.device.id.text).length +
      (k.device.services.map fun service => (Json.quote service).length).sum +
      (k.device.services.length - 1) ≤ TokenIssuer.maxClaimsLength) (now : Int64) (id : Uuid)
    (hfits : now.toInt + desk.issuer.ttl < 2 ^ 63) :
    ∃ reply, (desk.grant now id k).2 = .ok (some reply) ∧
      Grant.decode k.device.secret reply k.nonce = .ok (desk.grantOf now id k) :=
  grant_of_served hserved hfits ((TokenIssuer.length_tokenFor_le_iff id).mpr
    ((TokenIssuer.claimsLength_le _ _ _).trans hshort))

/-- Which enrolled devices can be granted something. Take a device with services, as an entry of
a configuration describes it, the issuer of a controller's configuration, a time at which the
expiry of a token does not overflow, and a knock of the device. Then a token is issued.

The token fits a grant exactly if its claims take 707 octets at most. If it does, the knock is
answered with a grant that the device can read: the token, and the time to live after the issue.
If not, there is an error that says how long the token is, and no answer. Of all knocks, those
that do not end in this error are counted once, as issued or as refused. -/
theorem granted_iff_fits {c : Controller.Config} {issuer : TokenIssuer} {entry : DeviceEntry}
    {device : Device} (hissuer : c.Issues issuer) (hentry : entry.toDevice = .ok device)
    (hserved : entry.services ≠ []) (htime : now.toInt + issuer.ttl < 2 ^ 63)
    (hdesk : desk.issuer = issuer) (hdevice : k.device = device) (id : Uuid) :
    ∃ token claims, issuer.issue device now id = .ok (token, claims) ∧
    (token.length = (4 * issuer.claimsLength device now + 2) / 3 + 81 ∧
      (token.length ≤ Wire.maxTokenLength ↔ issuer.claimsLength device now ≤ 707)) ∧
    (token.length ≤ Wire.maxTokenLength →
      ∃ reply expiresAt,
        desk.grant now id k = ({ desk with issued := desk.issued + 1 }, .ok (some reply)) ∧
        desk.onKnock now id k = ({ desk with issued := desk.issued + 1 }, some reply) ∧
        Grant.decode device.secret reply k.nonce = .ok ⟨k.nonce, expiresAt, token⟩ ∧
        expiresAt.toInt = now.toInt + issuer.ttl) ∧
    (Wire.maxTokenLength < token.length →
      (desk.grant now id k).2 = .error (.encode (.malformed (.tokenLength token.length 1))) ∧
      (desk.onKnock now id k).2 = none) ∧
    ∀ (now' : Int64) (id' : Uuid) (k' : ValidatedKnock) (answer : Option Bytes),
      (desk.grant now' id' k').2 = .ok answer →
        desk.CountsOne (desk.grant now' id' k').1 ∧
        desk.CountsOne (desk.onKnock now' id' k').1 := by
  obtain ⟨-, -, hservices⟩ := DeviceEntry.parts_of_toDevice hentry
  rw [← hservices] at hserved
  subst hdesk hdevice
  refine ⟨_, _, TokenIssuer.issue_ok_iff.mpr ⟨htime, rfl⟩,
    ⟨TokenIssuer.length_tokenFor_eq _ _ _ id, TokenIssuer.length_tokenFor_le_iff id⟩, ?_⟩
  rw [onKnock_eq desk now id k]
  rcases desk.grant_cases now id k with
    ⟨hnone, -⟩ | ⟨-, hover, -⟩ | ⟨-, -, hshort, reply, hencode, hgrant⟩ | ⟨-, -, hlong, hgrant⟩
  · exact absurd hnone hserved
  · exact absurd htime (Int.not_lt.mpr hover)
  · refine ⟨fun _ => ?_, fun hlong => absurd hlong (Nat.not_lt.mpr hshort),
      fun _ _ _ _ hok => countsOne_of_ok hok⟩
    refine ⟨reply, (desk.issuer.claimsFor k.device now id).expiresAt, hgrant, ?_, ?_, ?_⟩
    · rw [hgrant]
      rfl
    · rw [Grant.decode_of_encode hencode]
      exact if_neg (not_not_intro rfl)
    · exact TokenIssuer.toInt_expiresAt _ id hissuer.ttl_le htime
  · refine ⟨fun hshort => absurd hlong (Nat.not_lt.mpr hshort), fun _ => ?_,
      fun _ _ _ _ hok => countsOne_of_ok hok⟩
    rw [hgrant]
    exact ⟨rfl, rfl⟩

/-- A device with one service under a configuration that gives nothing but the secret. -/
theorem granted_iff_fits_of_one_service :
    let config : Controller.Config := { security := { tokenSecretHex :=
      "4242424242424242424242424242424242424242424242424242424242424242" } }
    let issuer : TokenIssuer := ⟨List.replicate 32 0x42, by decide, "sdp-controller", 120⟩
    let entry : DeviceEntry := ⟨"tablet", "07070707070707070707070707070707", none,
      some "tablet", ["ssh"]⟩
    let device : Device :=
      ⟨⟨"tablet", by decide, by decide⟩, ⟨List.replicate 16 7, by decide⟩, .commonName "tablet",
        ["ssh"]⟩
    let knock : ValidatedKnock := ⟨device, ⟨List.replicate 16 0, rfl⟩, 1700000000, none⟩
    let id : Uuid := ⟨Octets.zero 16⟩
    config.Issues issuer ∧ entry.toDevice = .ok device ∧ entry.services ≠ [] ∧
      (1700000000 : Int64).toInt + issuer.ttl < 2 ^ 63 ∧
      ∃ reply, (GrantDesk.new issuer).grant 1700000000 id knock =
        (⟨issuer, 1, 0⟩, .ok (some reply)) := by
  intro config issuer entry device knock id
  have hissuer : config.Issues issuer := ⟨List.replicate 32 0x42, by decide +kernel, by decide⟩
  have hentry : entry.toDevice = .ok device := by decide +kernel
  have htime : (1700000000 : Int64).toInt + issuer.ttl < 2 ^ 63 := by decide
  have hdesk : (GrantDesk.new issuer).issuer = issuer := rfl
  have hdevice : knock.device = device := rfl
  obtain ⟨_, _, hissue, ⟨-, hfits⟩, hgranted, -⟩ :=
    granted_iff_fits hissuer hentry (by decide) htime hdesk hdevice id
  obtain ⟨reply, -, hgrant, -⟩ := hgranted (hfits.mpr (by decide +kernel))
  exact ⟨hissuer, hentry, by decide, htime, reply, hgrant⟩

/-- A device with a hundred services. Its knock counts, and its token of 1971 characters does not
fit a grant. -/
theorem token_too_long_of_hundred_services :
    let config : Controller.Config := { security := { tokenSecretHex :=
      "4242424242424242424242424242424242424242424242424242424242424242" } }
    let issuer : TokenIssuer := ⟨List.replicate 32 0x42, by decide, "sdp-controller", 120⟩
    let entry : DeviceEntry := ⟨"dev-1", "11111111111111111111111111111111", none, some "dev-1",
      (List.range 100).map fun n => s!"service-{n}"⟩
    let id : Uuid := ⟨Octets.zero 16⟩
    ∃ device datagram knock, config.Issues issuer ∧ entry.toDevice = .ok device ∧
      entry.services ≠ [] ∧ (1700000000 : Int64).toInt + issuer.ttl < 2 ^ 63 ∧
      (let v := Validator.ofNanoseconds (Registry.empty.upsert device) 30000000000 10
       (v.validate (.startingAt 1700000000) datagram).2 = .ok knock) ∧ knock.device = device ∧
      (GrantDesk.new issuer).grant 1700000000 id knock =
        (GrantDesk.new issuer, .error (.encode (.malformed (.tokenLength 1971 1)))) := by
  intro config issuer entry id
  let device : Device := ⟨⟨"dev-1", by decide, by decide⟩, ⟨List.replicate 16 0x11, by decide⟩,
    .commonName "dev-1", entry.services⟩
  let nonce : Nonce := ⟨List.replicate 16 1, rfl⟩
  let datagram := (Knock.encode device.secret ⟨device.id, 1700000000, nonce, none⟩).toOption.getD []
  let knock : ValidatedKnock := ⟨device, nonce, 1700000000, none⟩
  have hentry : entry.toDevice = .ok device := by decide +kernel
  have hserved : device.services ≠ [] := by decide +kernel
  have hlength : ((GrantDesk.new issuer).issuer.tokenFor knock.device 1700000000 id).length =
      1971 := by
    rw [TokenIssuer.length_tokenFor_eq]
    decide +kernel
  refine ⟨device, datagram, knock, ⟨List.replicate 32 0x42, by decide +kernel, by decide⟩, hentry,
    hserved, by decide, by decide +kernel, rfl, ?_⟩
  rcases (GrantDesk.new issuer).grant_cases 1700000000 id knock with
    ⟨hnone, -⟩ | ⟨-, hover, -⟩ | ⟨-, -, hshort, -⟩ | ⟨-, -, -, hgrant⟩
  · exact absurd hnone hserved
  · exact absurd hover (by decide)
  · exact absurd hshort (by rw [hlength]; decide)
  · rw [hgrant, hlength]

/-! ### A desk at work -/

/-- A knock at a desk, with the time and the number for a token. -/
structure Call where
  now : Int64
  id : Uuid
  knock : ValidatedKnock

/-- A knock of a device without services. -/
def Call.isUnserved (call : Call) : Bool := call.knock.device.services.isEmpty

/-- A knock of a device with services whose token can be issued and fits a grant. -/
def Call.fits (issuer : TokenIssuer) (call : Call) : Bool :=
  !call.isUnserved && call.now.toInt + issuer.ttl < 2 ^ 63 &&
    issuer.claimsLength call.knock.device call.now ≤ TokenIssuer.maxClaimsLength

/-- The desk after some knocks. -/
def serve (desk : GrantDesk) (calls : List Call) : GrantDesk :=
  calls.foldl (fun desk call => (desk.onKnock call.now call.id call.knock).1) desk

/-- What a knock changes at a desk: one of the counts, or nothing. -/
theorem onKnock_fst_eq (desk : GrantDesk) (call : Call) :
    (desk.onKnock call.now call.id call.knock).1 =
      { desk with
        issued := desk.issued + (call.fits desk.issuer).toNat
        refused := desk.refused + call.isUnserved.toNat } := by
  have hlength : (desk.issuer.tokenFor call.knock.device call.now call.id).length ≤
      Wire.maxTokenLength ↔ desk.issuer.claimsLength call.knock.device call.now ≤
        TokenIssuer.maxClaimsLength := TokenIssuer.length_tokenFor_le_iff call.id
  rw [onKnock_eq]
  rcases desk.grant_cases call.now call.id call.knock with
    ⟨hnone, hgrant⟩ | ⟨hserved, hover, hgrant⟩ | ⟨hserved, hfits, hshort, reply, -, hgrant⟩ |
      ⟨hserved, -, hlong, hgrant⟩
  · simp [hgrant, Call.fits, Call.isUnserved, hnone]
  · have hsome : call.isUnserved = false := by simpa [Call.isUnserved] using hserved
    simp only [hgrant, Call.fits, hsome, Int.not_lt.mpr hover, decide_false, Bool.and_false,
      Bool.false_and, Bool.toNat_false, Nat.add_zero]
  · have hsome : call.isUnserved = false := by simpa [Call.isUnserved] using hserved
    simp only [hgrant, Call.fits, hsome, hfits, hlength.mp hshort, decide_true, Bool.not_false,
      Bool.and_self, Bool.toNat_true, Bool.toNat_false, Nat.add_zero]
  · have hsome : call.isUnserved = false := by simpa [Call.isUnserved] using hserved
    have hnot : ¬ desk.issuer.claimsLength call.knock.device call.now ≤
        TokenIssuer.maxClaimsLength := fun h => absurd (hlength.mpr h) (Nat.not_le.mpr hlong)
    simp [hgrant, Call.fits, hsome, hnot]

/-- The counts of a desk are the numbers of knocks that were granted and of those without
services. A knock with a token that cannot be issued or does not fit is in neither. -/
theorem counts_serve (desk : GrantDesk) (calls : List Call) :
    desk.serve calls =
      { desk with
        issued := desk.issued + calls.countP (·.fits desk.issuer)
        refused := desk.refused + calls.countP (·.isUnserved) } := by
  induction calls generalizing desk with
  | nil => rfl
  | cons call rest ih =>
    show (desk.onKnock call.now call.id call.knock).1.serve rest = _
    rw [ih, onKnock_fst_eq]
    simp only [List.countP_cons, mk.injEq, true_and]
    cases call.fits desk.issuer <;> cases call.isUnserved <;> simp <;> omega

end GrantDesk

/-- Of the datagrams that give a knock, a controller answers exactly those of devices with
services whose claims are short enough, at times that leave room for the expiry of a token. -/
theorem Controller.Server.answers_iff {s : Server} {clock : Clock} {id : Uuid} {datagram : Bytes}
    {k : ValidatedKnock} (hreceive : (s.port.receive clock 0 datagram).2 = some k) :
    (∃ reply, (s.knock clock id datagram).2 = some reply) ↔
      k.device.services ≠ [] ∧ clock.unixSeconds.toInt + s.desk.issuer.ttl < 2 ^ 63 ∧
        s.desk.issuer.claimsLength k.device clock.unixSeconds ≤ TokenIssuer.maxClaimsLength := by
  simp only [knock_eq_some_iff, hreceive, Option.some.injEq, exists_eq_left',
    GrantDesk.onKnock_eq_some_iff]
  exact GrantDesk.exists_grant_iff

end Perimeter
