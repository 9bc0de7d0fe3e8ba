import Perimeter.Proofs.Wire.Grant
import Perimeter.Proofs.Wire.Knock

/-!
# `Perimeter.Proofs.Wire.Covered`: what a tag is a tag of

A device has one secret for its knocks and for the grants sent to it, so a tag could be carried
from one message to another wherever both are made of the same octets. That two fields of each
format have any length is no way to do so, and neither is that a grant looks like a knock up to
its second octet: the octets that a tag covers tell what the message says
(`Message.says_same_of_covered_eq`), and those of a grant open with a context of their own
(`Message.knock_ne_grant`).

`covered` is defined on datagrams, without their formats. What stands before the tag is covered,
behind the context of the kind.
-/

set_option autoImplicit false

namespace Perimeter.Wire

/-- What a tag of a kind covers besides the datagram: a grant's opens with a context. -/
def Kind.context : Kind → Bytes
  | .knock => []
  | .grant => Grant.context

/-- The tag of a datagram: its last octets. -/
def tagOn (datagram : Bytes) : Bytes := datagram.drop (datagram.length - tagLength)

/-- What the tag of a datagram covers: all that stands before it, behind the context. -/
def covered (kind : Kind) (datagram : Bytes) : Bytes :=
  kind.context ++ datagram.take (datagram.length - tagLength)

/-- A message of either kind. -/
inductive Message where
  | knock (knock : Knock)
  | grant (grant : Grant)

namespace Message

/-- The kind of a message. -/
def kind : Message → Kind
  | knock _ => .knock
  | grant _ => .grant

/-- The datagram of a message, authenticated with the device's secret. -/
def encode (secret : KnockSecret) : Message → Except Error Bytes
  | knock k => k.encode secret
  | grant g => g.encode secret

/-- Whether a datagram is accepted as a message: it reads as a knock and bears the secret's tag,
or it opens as a grant. -/
def AcceptedAs (secret : KnockSecret) (datagram : Bytes) : Message → Prop
  | knock k => ∃ received, Knock.decode datagram = .ok received ∧ received.knock = k ∧
      tagHolds secret received.authenticated received.tag
  | grant g => Grant.decode secret datagram g.nonce = .ok g

/-- Whether two messages say the same. To a knock, no token and the empty token are the same. -/
def SaysSame : Message → Message → Prop
  | knock k, knock k' => k.device = k'.device ∧ k.timestamp = k'.timestamp ∧ k.nonce = k'.nonce ∧
      k.token.getD "" = k'.token.getD ""
  | grant g, grant g' => g = g'
  | _, _ => False

/-- The octets of a message before its tag. -/
def body : Message → Bytes
  | knock k => k.body
  | grant g => g.body

variable {m m' : Message} {secret secret' : KnockSecret} {datagram datagram' : Bytes}

/-- What is made of a message ends in the tag of what it covers. -/
theorem encode_eq_body_append (h : m.encode secret = .ok datagram) :
    datagram = m.body ++ (tagOf secret (m.kind.context ++ m.body)).bytes := by
  cases m with
  | knock k => exact (Knock.encode_eq_ok_iff_body.mp h).2.symm
  | grant g => exact (Grant.encode_eq_ok_iff_body.mp h).2.symm

theorem covered_of_encode (h : m.encode secret = .ok datagram) :
    covered m.kind datagram = m.kind.context ++ m.body := by
  rw [encode_eq_body_append h, covered, List.length_append, Octets.length_eq, tagLength,
    Nat.add_sub_cancel, List.take_left]

/-- The tag of a datagram is that of what it covers. -/
theorem tagOn_of_encode (h : m.encode secret = .ok datagram) :
    tagOn datagram = (Hmac.tag secret.bytes (covered m.kind datagram)).bytes := by
  rw [covered_of_encode h, encode_eq_body_append h, tagOn, List.length_append, Octets.length_eq,
    tagLength, Nat.add_sub_cancel, List.drop_left]
  rfl

/-- What is accepted as a message is what the secret makes of it. -/
theorem encode_of_acceptedAs (h : m.AcceptedAs secret datagram) :
    m.encode secret = .ok datagram := by
  cases m with
  | knock k =>
    obtain ⟨received, hdecode, rfl, htag⟩ := h
    exact Knock.encode_of_decode hdecode htag
  | grant g => exact (Grant.decode_ok h).1

/-! ### What the octets tell -/

/-- A knock's octets tell what it says. -/
theorem knock_of_body_eq {k k' : Knock} (h : k.encode secret = .ok datagram)
    (h' : k'.encode secret' = .ok datagram') (hbody : k.body = k'.body) :
    SaysSame (knock k) (knock k') := by
  have hcheck := (Knock.encode_eq_ok_iff_body.mp h).1
  have hcheck' := (Knock.encode_eq_ok_iff_body.mp h').1
  -- Behind the same octets and one tag, both are read.
  let tag : Tag := Octets.zero 32
  have hread := (Knock.layout_body k tag (checkToken_ok_iff.mp hcheck).2.1).decode_eq hcheck
  have hread' := (Knock.layout_body k' tag (checkToken_ok_iff.mp hcheck').2.1).decode_eq hcheck'
  rw [hbody, hread'] at hread
  have hsame : k'.asRead = k.asRead := congrArg Knock.Received.knock (Except.ok.inj hread)
  refine ⟨(congrArg Knock.device hsame).symm, (congrArg Knock.timestamp hsame).symm,
    (congrArg Knock.nonce hsame).symm, Text.utf8_injective ?_⟩
  show k.tokenBytes = k'.tokenBytes
  rw [← k.tokenBytes_asRead, ← k'.tokenBytes_asRead, hsame]

/-- A grant's octets tell what it says. -/
theorem grant_of_body_eq {g g' : Grant} (h : g.encode secret = .ok datagram)
    (h' : g'.encode secret' = .ok datagram') (hbody : g.body = g'.body) : g = g' := by
  have hcheck := (Grant.encode_eq_ok_iff_body.mp h).1
  have hcheck' := (Grant.encode_eq_ok_iff_body.mp h').1
  -- Under one secret both make the same datagram, which opens to either.
  have hencode : g.encode secret = .ok (g.body ++ (tagOf secret (Grant.context ++ g.body)).bytes) :=
    Grant.encode_eq_ok_iff_body.mpr ⟨hcheck, rfl⟩
  have hencode' : g'.encode secret =
      .ok (g.body ++ (tagOf secret (Grant.context ++ g.body)).bytes) :=
    Grant.encode_eq_ok_iff_body.mpr ⟨hcheck', by rw [hbody]⟩
  have hopen := Grant.decode_of_encode hencode g.nonce
  rw [if_neg (not_not_intro rfl), Grant.decode_of_encode hencode' g.nonce,
    Checks.error_if_eq_ok] at hopen
  exact (Except.ok.inj hopen.2).symm

/-- A knock opens with its version and a grant with its context. -/
theorem knock_ne_grant (k : Knock) (g : Grant) : k.body ≠ Grant.context ++ g.body := by
  intro h
  have hhead : some version = Grant.context.head? := by
    have hcontext : Grant.context ≠ [] := by decide
    rw [← List.head?_append_of_ne_nil _ hcontext, ← h]
    rfl
  exact absurd hhead (by decide)

/-- Two messages of which the same is covered say the same. -/
theorem says_same_of_covered_eq (h : m.encode secret = .ok datagram)
    (h' : m'.encode secret' = .ok datagram')
    (hcovered : covered m.kind datagram = covered m'.kind datagram') : m.SaysSame m' := by
  rw [covered_of_encode h, covered_of_encode h'] at hcovered
  cases m with
  | knock k =>
    cases m' with
    | knock k' => exact knock_of_body_eq h h' hcovered
    | grant g' => exact knock_ne_grant k g' hcovered
  | grant g =>
    cases m' with
    | knock k' => exact knock_ne_grant k' g hcovered.symm
    | grant g' => exact grant_of_body_eq h h' (List.append_cancel_left hcovered)

/-- What a tag covers is unambiguous, within each kind of message and across both. The tag of a
message that can be sent is the keyed digest of what its datagram covers, and two messages of
which the same is covered say the same: both are knocks of one device with one time, one nonce and
one token, or both are one grant. What a knock covers is never what a grant covers.

So under one secret a datagram that bears the tag made for a message is accepted as that message
alone, unless two different strings of octets have the same keyed digest. -/
theorem tag_vouches_for_one_message :
    (∀ (m : Message) secret datagram, m.encode secret = .ok datagram →
      tagOn datagram = (Hmac.tag secret.bytes (covered m.kind datagram)).bytes) ∧
    (∀ (m m' : Message) secret secret' datagram datagram', m.encode secret = .ok datagram →
      m'.encode secret' = .ok datagram' →
      covered m.kind datagram = covered m'.kind datagram' → m.SaysSame m') ∧
    (∀ (k : Knock) (g : Grant) secret secret' datagram datagram',
      k.encode secret = .ok datagram → g.encode secret' = .ok datagram' →
      covered .knock datagram ≠ covered .grant datagram') ∧
    ∀ (m m' : Message) secret datagram datagram', m.encode secret = .ok datagram →
      m'.AcceptedAs secret datagram' → tagOn datagram' = tagOn datagram →
      m.SaysSame m' ∨
        covered m.kind datagram ≠ covered m'.kind datagram' ∧
        Hmac.tag secret.bytes (covered m.kind datagram) =
          Hmac.tag secret.bytes (covered m'.kind datagram') := by
  refine ⟨?tagged, ?told, ?apart, ?accepted⟩
  case tagged =>
    intro m secret datagram
    exact tagOn_of_encode
  case told =>
    intro m m' secret secret' datagram datagram'
    exact says_same_of_covered_eq
  case apart =>
    intro k g secret secret' datagram datagram' hknock hgrant hcovered
    have hsame : (Message.knock k).SaysSame (.grant g) :=
      says_same_of_covered_eq hknock hgrant hcovered
    exact hsame
  case accepted =>
    intro m m' secret datagram datagram' h haccepted htag
    have h' := encode_of_acceptedAs haccepted
    by_cases hcovered : covered m.kind datagram = covered m'.kind datagram'
    · exact .inl (says_same_of_covered_eq h h' hcovered)
    · refine .inr ⟨hcovered, ?_⟩
      rw [tagOn_of_encode h, tagOn_of_encode h'] at htag
      exact Octets.ext htag.symm

/-- A knock with the empty token and one without say the same, and so does whoever sends either.
The grant that answers them has the same secret, and another tag or a collision. -/
theorem tag_vouches_for_one_message_of_empty_token :
    let secret : KnockSecret := ⟨List.replicate 16 7, by decide⟩
    let k : Knock := ⟨⟨"tablet", by decide, by decide⟩, -1, ⟨List.replicate 16 0, rfl⟩, none⟩
    let empty : Knock := { k with token := some "" }
    let g : Grant := ⟨k.nonce, -1, "a.b.c"⟩
    ∃ datagram granted, (knock empty).encode secret = .ok datagram ∧
      (knock k).encode secret = .ok datagram ∧ (grant g).encode secret = .ok granted ∧
      (knock k).AcceptedAs secret datagram ∧
      tagOn datagram = (Hmac.tag secret.bytes (covered .knock datagram)).bytes ∧
      (knock empty).SaysSame (knock k) ∧ covered .knock datagram ≠ covered .grant granted ∧
      (tagOn granted = tagOn datagram → Hmac.tag secret.bytes (covered .knock datagram) =
        Hmac.tag secret.bytes (covered .grant granted)) := by
  intro secret k empty g
  obtain ⟨htagged, htold, hapart, haccepted⟩ := tag_vouches_for_one_message
  obtain ⟨datagram, hempty⟩ : ∃ datagram, (knock empty).encode secret = .ok datagram :=
    Knock.exists_encode_iff.mpr ⟨by decide, by decide⟩
  obtain ⟨granted, hgranted⟩ : ∃ granted, (grant g).encode secret = .ok granted :=
    Grant.exists_encode_iff.mpr ⟨by decide, by decide, by decide⟩
  have hsame : empty.asRead = k := by decide
  have hnone : (knock k).encode secret = .ok datagram := by
    rw [← hsame]
    exact (Knock.encode_asRead secret empty).trans hempty
  have hread : (knock k).AcceptedAs secret datagram := by
    obtain ⟨received, hdecode, hknock, htag⟩ := Knock.encode_eq_ok_iff.mp hnone
    have hk : k.asRead = k := by decide
    exact ⟨received, hdecode, hknock.trans hk, htag⟩
  have hopens : (grant g).AcceptedAs secret granted := by
    show Grant.decode secret granted g.nonce = .ok g
    rw [Grant.decode_of_encode hgranted, if_neg (not_not_intro rfl)]
  have hsays : (knock empty).SaysSame (knock k) := htold _ _ _ _ _ _ hempty hnone rfl
  have hne : covered .knock datagram ≠ covered .grant granted := hapart k g _ _ _ _ hnone hgranted
  have htagEq := htagged _ _ _ hempty
  refine ⟨datagram, granted, hempty, hnone, hgranted, hread, htagEq, hsays, hne, fun htag => ?_⟩
  exact ((haccepted _ (grant g) _ _ _ hnone hopens htag).resolve_left id).2

end Message

end Perimeter.Wire
