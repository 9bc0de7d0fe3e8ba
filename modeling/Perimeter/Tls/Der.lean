import Perimeter.Bytes

/-!
# `Perimeter.Tls.Der`: tagged data

Certificates are nested elements, each with a tag, a length and a content. Readers
take the front of a string of octets and give back what they read with the rest.
What stands in a content behind the expected parts is passed over.

A length in more octets than it needs is accepted. A length that is left open is not.

* `length_element?`: an element takes up octets, so lists of elements end.
-/

set_option autoImplicit false

namespace Perimeter.Tls

/-- The classes of tags. -/
inductive TagClass where
  | universal
  | application
  | context
  | privateUse
deriving DecidableEq

/-- An element. -/
structure Element where
  tagClass : TagClass
  constructed : Bool
  number : Nat
  content : Bytes
deriving DecidableEq

namespace Der

/-- A reader of the front of some octets. -/
abbrev Reader (α : Type) := Bytes → Option (α × Bytes)

/-- The tag numbers that certificates use. -/
def integer : Nat := 2
def bitString : Nat := 3
def octetString : Nat := 4
def objectIdentifier : Nat := 6
def utf8String : Nat := 12
def sequence : Nat := 16
def set : Nat := 17
def numericString : Nat := 18
def printableString : Nat := 19
def ia5String : Nat := 22
def utcTime : Nat := 23
def generalizedTime : Nat := 24

/-- The class in the first octet of a tag. -/
def classOf (b : UInt8) : TagClass :=
  if b < 0x40 then .universal
  else if b < 0x80 then .application
  else if b < 0xC0 then .context
  else .privateUse

/-- Reads a tag number of several octets, of which there may be so many. -/
def longNumber (acc : Nat) : Nat → Reader Nat
  | 0, _ => none
  | _ + 1, [] => none
  | left + 1, b :: rest =>
    let n := acc * 128 + (b % 128).toNat
    if b < 128 then some (n, rest) else longNumber n left rest

/-- The most octets of a tag number behind the first octet of the tag. -/
def maxNumberOctets : Nat := 5

/-- Reads a tag. -/
def tag? : Reader (TagClass × Bool × Nat)
  | [] => none
  | b :: rest =>
    let constructed := (b &&& 0x20) ≠ 0
    if b % 32 = 31 then do
      let (number, rest) ← longNumber 0 maxNumberOctets rest
      return ((classOf b, constructed, number % 2 ^ 32), rest)
    else some ((classOf b, constructed, (b % 32).toNat), rest)

/-- Reads a length. -/
def length? : Reader Nat
  | [] => none
  | b :: rest =>
    if b < 128 then some (b.toNat, rest)
    else
      -- Zero would leave the length open, and 127 is kept for later.
      let count := (b - 128).toNat
      let octets := rest.take count
      let n := ofBigEndian octets
      if count = 0 ∨ count = 127 ∨ octets.length < count ∨ 2 ^ 64 ≤ n then none
      else some (n, rest.drop count)

/-- Reads an element of any kind. -/
def element? : Reader Element := fun bs => do
  let ((tagClass, constructed, number), rest) ← tag? bs
  let (n, rest) ← length? rest
  if rest.length < n then none
  else return (⟨tagClass, constructed, number, rest.take n⟩, rest.drop n)

/-- Reads an element of a tag number. -/
def tagged? (number : Nat) : Reader Element := fun bs => do
  let (e, rest) ← element? bs
  if e.number = number then return (e, rest) else none

/-- Reads the content of an element of a tag number. -/
def within? {α : Type} (number : Nat) (inner : Bytes → Option α) : Reader α := fun bs => do
  let (e, rest) ← tagged? number bs
  return (← inner e.content, rest)

/-- Reads parts as long as there are any, `fuel` of them at most, and gives the rest. -/
def manyUpTo {α : Type} (part : Reader α) : Nat → Bytes → List α × Bytes
  | 0, bs => ([], bs)
  | fuel + 1, bs => match part bs with
    | none => ([], bs)
    | some (a, rest) =>
      let (more, rest) := manyUpTo part fuel rest
      (a :: more, rest)

/-- Reads parts as long as there are any. Every part takes up an octet at least, so
there are no more parts than octets. -/
def many {α : Type} (part : Reader α) (bs : Bytes) : List α × Bytes := manyUpTo part bs.length bs

theorem length_longNumber {acc left n : Nat} {bs rest : Bytes}
    (h : longNumber acc left bs = some (n, rest)) : rest.length < bs.length := by
  induction left generalizing acc bs with
  | zero => simp [longNumber] at h
  | succ left ih =>
    cases bs with
    | nil => simp [longNumber] at h
    | cons b more =>
      simp only [longNumber] at h
      split at h
      · simp_all
      · have := ih h
        simp only [List.length_cons]
        omega

theorem length_tag? {bs rest : Bytes} {t : TagClass × Bool × Nat} (h : tag? bs = some (t, rest)) :
    rest.length < bs.length := by
  cases bs with
  | nil => simp [tag?] at h
  | cons b more =>
    simp only [tag?] at h
    split at h
    · obtain ⟨⟨n, r⟩, hn, hr⟩ := Option.bind_eq_some_iff.mp h
      have := length_longNumber hn
      simp_all
      omega
    · simp_all

theorem length_length? {bs rest : Bytes} {n : Nat} (h : length? bs = some (n, rest)) :
    rest.length < bs.length := by
  cases bs with
  | nil => simp [length?] at h
  | cons b more =>
    simp only [length?] at h
    split at h
    · simp_all
    · split at h
      · simp at h
      · simp only [Option.some.injEq, Prod.mk.injEq] at h
        rw [← h.2]
        simp only [List.length_drop, List.length_cons]
        omega

theorem length_element? {bs rest : Bytes} {e : Element} (h : element? bs = some (e, rest)) :
    rest.length < bs.length := by
  obtain ⟨⟨t, r⟩, ht, h⟩ := Option.bind_eq_some_iff.mp h
  obtain ⟨⟨n, r'⟩, hl, h⟩ := Option.bind_eq_some_iff.mp h
  have h1 := length_tag? ht
  have h2 := length_length? hl
  dsimp only at h
  split at h
  · simp at h
  · simp only [Option.pure_def, Option.some.injEq, Prod.mk.injEq] at h
    rw [← h.2]
    simp only [List.length_drop]
    omega

end Der

end Perimeter.Tls
