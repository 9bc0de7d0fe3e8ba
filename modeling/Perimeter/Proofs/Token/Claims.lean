import Perimeter.Proofs.Json.Spelling
import Perimeter.Token.Claims

/-!
# `Perimeter.Proofs.Token.Claims`: what an object claims

Claims are read from the members of an object. `Json.Tells` is a member that must be there and
stand only once, and `Claims.Told` puts together all that an object has to tell: then it reads
as the claims, and otherwise as nothing (`read?_eq_some_iff`).

* `read?_write`: claims are read as they were written, whatever their texts hold.
-/

set_option autoImplicit false

namespace Perimeter

namespace Json

variable {α : Type} {members : List (String × Value)} {name : String} {read : Value → Option α}
  {a : α} {v : Value}

/-- How often a name stands among members. -/
def occurrences (members : List (String × Value)) (name : String) : Nat :=
  (members.map Prod.fst).count name

/-- A name stands once among members, and its value reads as something. -/
def Tells (members : List (String × Value)) (name : String) (read : Value → Option α) (a : α) :
    Prop :=
  occurrences members name = 1 ∧ ∃ v, (name, v) ∈ members ∧ read v = some a

/-- A name stands at most once among members, and if it does, its value is as it must be. -/
def Allows (members : List (String × Value)) (name : String) (check : Value → Bool) : Prop :=
  occurrences members name ≤ 1 ∧ ∀ v, (name, v) ∈ members → check v

theorem occurrences_eq : occurrences members name =
    (members.filter fun m => m.1 = name).length := by
  rw [occurrences, List.count, List.countP_map, List.countP_eq_length_filter]
  rfl

theorem mem_filter_name :
    (name, v) ∈ members.filter (fun m => m.1 = name) ↔ (name, v) ∈ members := by
  rw [List.mem_filter]
  simp

theorem required?_eq_some_iff :
    required? members name = some v ↔ occurrences members name = 1 ∧ (name, v) ∈ members := by
  rw [occurrences_eq, ← mem_filter_name, required?]
  have hnames : ∀ m ∈ members.filter (fun m => m.1 = name), m.1 = name :=
    fun m hm => of_decide_eq_true (List.mem_filter.mp hm).2
  generalize members.filter (fun m => m.1 = name) = found at hnames ⊢
  match found with
  | [] => simp
  | [(label, value)] =>
    obtain rfl : label = name := hnames _ List.mem_cons_self
    simp [eq_comm]
  | _ :: _ :: _ => simp

/-- What is read from a member that must be there comes before what is made of it. -/
theorem required?_bind_eq_some_iff {β : Type} {f : α → Option β} {b : β} :
    (do f (← read (← required? members name))) = some b ↔
      ∃ a, Tells members name read a ∧ f a = some b := by
  constructor
  · intro h
    obtain ⟨v, hv, h⟩ := Option.bind_eq_some_iff.mp h
    obtain ⟨a, ha, h⟩ := Option.bind_eq_some_iff.mp h
    obtain ⟨honce, hmem⟩ := required?_eq_some_iff.mp hv
    exact ⟨a, ⟨honce, v, hmem, ha⟩, h⟩
  · rintro ⟨a, ⟨honce, v, hmem, ha⟩, h⟩
    rw [required?_eq_some_iff.mpr ⟨honce, hmem⟩, Option.bind_eq_bind, Option.bind_some, ha]
    exact h

theorem allows_iff {check : Value → Bool} (hnull : check .null) :
    (∃ v, optional? members name = some v ∧ check v) ↔ Allows members name check := by
  have hmem : ∀ v, (name, v) ∈ members ↔ (name, v) ∈ members.filter (fun m => m.1 = name) :=
    fun v => mem_filter_name.symm
  have hnames : ∀ m ∈ members.filter (fun m => m.1 = name), m.1 = name :=
    fun m hm => of_decide_eq_true (List.mem_filter.mp hm).2
  simp only [Allows, occurrences_eq, optional?, hmem]
  generalize members.filter (fun m => m.1 = name) = found at hnames ⊢
  match found with
  | [] => simp [hnull]
  | [(label, value)] =>
    obtain rfl : label = name := hnames _ List.mem_cons_self
    simp
  | _ :: _ :: _ => simp

end Json

namespace Token.Claims

open Json (Tells Allows)

variable {claims : Claims} {text : Bytes}

/-- Members tell all that claims say: each of the six stands once and is of its type, and the
audience and the start of validity are passed over if they are well formed. -/
structure Told (claims : Claims) (members : List (String × Json.Value)) : Prop where
  issuer : Tells members "iss" Json.Value.text? claims.issuer
  subject : Tells members "sub" Json.Value.text? claims.subject
  issuedAt : Tells members "iat" Json.Value.int64? claims.issuedAt
  expiresAt : Tells members "exp" Json.Value.int64? claims.expiresAt
  scope : Tells members "scope" Json.Value.texts? claims.scope
  id : ∃ text, Tells members "jti" Json.Value.text? text ∧ Uuid.ofText? text = some claims.id
  audience : Allows members "aud" Json.Value.isSound
  start : Allows members "nbf" isStart

/-- A text reads as claims if it is an object whose members tell them. -/
theorem read?_eq_some_iff :
    read? text = some claims ↔ ∃ v members, Json.parse text = some v ∧
      v.members? = some members ∧ claims.Told members := by
  unfold read?
  constructor
  · intro h
    obtain ⟨v, hv, h⟩ := Option.bind_eq_some_iff.mp h
    obtain ⟨members, hmembers, h⟩ := Option.bind_eq_some_iff.mp h
    -- One member after the other, in the order in which they are read.
    obtain ⟨issuer, hissuer, h⟩ := Json.required?_bind_eq_some_iff.mp h
    obtain ⟨subject, hsubject, h⟩ := Json.required?_bind_eq_some_iff.mp h
    obtain ⟨issuedAt, hissuedAt, h⟩ := Json.required?_bind_eq_some_iff.mp h
    obtain ⟨expiresAt, hexpiresAt, h⟩ := Json.required?_bind_eq_some_iff.mp h
    obtain ⟨scope, hscope, h⟩ := Json.required?_bind_eq_some_iff.mp h
    obtain ⟨number, hnumber, h⟩ := Json.required?_bind_eq_some_iff.mp h
    obtain ⟨id, hid, h⟩ := Option.bind_eq_some_iff.mp h
    obtain ⟨audience, haudience, h⟩ := Option.bind_eq_some_iff.mp h
    obtain ⟨start, hstart, h⟩ := Option.bind_eq_some_iff.mp h
    by_cases hwell : audience.isSound && isStart start
    · rw [if_pos hwell] at h
      cases h
      obtain ⟨hsound, hfits⟩ := Bool.and_eq_true_iff.mp hwell
      exact ⟨v, members, hv, hmembers, hissuer, hsubject, hissuedAt, hexpiresAt, hscope,
        ⟨number, hnumber, hid⟩, (Json.allows_iff rfl).mp ⟨audience, haudience, hsound⟩,
        (Json.allows_iff rfl).mp ⟨start, hstart, hfits⟩⟩
    · rw [if_neg hwell] at h
      cases h
  · rintro ⟨v, members, hv, hmembers, h⟩
    obtain ⟨number, hnumber, hid⟩ := h.id
    obtain ⟨audience, haudience, hsound⟩ := (Json.allows_iff rfl).mpr h.audience
    obtain ⟨start, hstart, hfits⟩ := (Json.allows_iff rfl).mpr h.start
    refine Option.bind_eq_some_iff.mpr ⟨v, hv, Option.bind_eq_some_iff.mpr ⟨members, hmembers, ?_⟩⟩
    refine Json.required?_bind_eq_some_iff.mpr ⟨_, h.issuer, ?_⟩
    refine Json.required?_bind_eq_some_iff.mpr ⟨_, h.subject, ?_⟩
    refine Json.required?_bind_eq_some_iff.mpr ⟨_, h.issuedAt, ?_⟩
    refine Json.required?_bind_eq_some_iff.mpr ⟨_, h.expiresAt, ?_⟩
    refine Json.required?_bind_eq_some_iff.mpr ⟨_, h.scope, ?_⟩
    refine Json.required?_bind_eq_some_iff.mpr ⟨_, hnumber, ?_⟩
    refine Option.bind_eq_some_iff.mpr ⟨_, hid, ?_⟩
    refine Option.bind_eq_some_iff.mpr ⟨_, haudience, ?_⟩
    refine Option.bind_eq_some_iff.mpr ⟨_, hstart, ?_⟩
    rw [hsound, hfits]
    rfl

/-- The members of the object that claims are written as. -/
def members (claims : Claims) : List (String × Json.Value) := [
  ("iss", .string (Json.escaped claims.issuer)),
  ("sub", .string (Json.escaped claims.subject)),
  ("iat", .number (Json.integer claims.issuedAt)),
  ("exp", .number (Json.integer claims.expiresAt)),
  ("scope", .array (claims.scope.map fun s => .string (Json.escaped s))),
  ("jti", .string (Json.escaped claims.id.text))]

theorem parse_write (claims : Claims) :
    Json.parse claims.write =
      some (.object (claims.members.map fun m => (Json.escaped m.1, m.2))) := by
  refine (Json.spells_object ?_).parse_eq
  have hscope : Json.Spells (Json.array (claims.scope.map Json.quote))
      (.array (claims.scope.map fun s => .string (Json.escaped s))) := by
    refine Json.spells_array ?_
    rw [List.forall₂_map_left_iff, List.forall₂_map_right_iff, List.forall₂_same]
    exact fun s _ => Json.spells_quote s
  exact .cons ⟨rfl, Json.spells_quote _⟩ (.cons ⟨rfl, Json.spells_quote _⟩
    (.cons ⟨rfl, Json.spells_integer _⟩ (.cons ⟨rfl, Json.spells_integer _⟩
      (.cons ⟨rfl, hscope⟩ (.cons ⟨rfl, Json.spells_quote _⟩ .nil)))))

theorem occurrences_members (claims : Claims) (name : String) :
    Json.occurrences claims.members name =
      ["iss", "sub", "iat", "exp", "scope", "jti"].count name := rfl

/-- Claims are told by the members that they are written as. -/
theorem told_members (claims : Claims) : claims.Told claims.members where
  issuer := ⟨by rw [occurrences_members]; decide, _, .head _, Json.textOf?_escaped _⟩
  subject := ⟨by rw [occurrences_members]; decide, _, .tail _ (.head _), Json.textOf?_escaped _⟩
  issuedAt := ⟨by rw [occurrences_members]; decide, _, .tail _ (.tail _ (.head _)),
    Json.int64Of?_integer _⟩
  expiresAt := ⟨by rw [occurrences_members]; decide, _, .tail _ (.tail _ (.tail _ (.head _))),
    Json.int64Of?_integer _⟩
  scope := ⟨by rw [occurrences_members]; decide, _,
    .tail _ (.tail _ (.tail _ (.tail _ (.head _)))), Json.texts?_escaped _⟩
  id := ⟨claims.id.text, ⟨by rw [occurrences_members]; decide, _,
    .tail _ (.tail _ (.tail _ (.tail _ (.tail _ (.head _))))), Json.textOf?_escaped _⟩,
    claims.id.ofText?_text⟩
  audience := ⟨by rw [occurrences_members]; decide, fun v hv => by simp [members] at hv⟩
  start := ⟨by rw [occurrences_members]; decide, fun v hv => by simp [members] at hv⟩

/-- Claims are read as they were written. -/
theorem read?_write (claims : Claims) : read? claims.write = some claims :=
  read?_eq_some_iff.mpr ⟨_, _, claims.parse_write, Json.members?_escaped _, claims.told_members⟩

end Token.Claims

end Perimeter
