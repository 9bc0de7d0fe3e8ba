import Perimeter.Bytes

/-!
# `Perimeter.Text.Utf8`: text as octets

Text is kept as `String`, whose octets are UTF-8 by construction. This module
goes back and forth between the two and, when octets are not UTF-8, says where
the first fault lies and how long it is.

* `ofUtf8?_utf8`: text is read back from its octets.
* `utf8_of_ofUtf8?`: octets that read as text are the octets of that text.
* `utf8_ofAscii`: the same of octets read one character each.
-/

set_option autoImplicit false

namespace Perimeter.Text

/-- The UTF-8 octets of a text. -/
def utf8 (s : String) : Bytes := s.toByteArray.data.toList

/-- The text that octets spell, if they are UTF-8. -/
def ofUtf8? (bs : Bytes) : Option String :=
  String.fromUTF8? ⟨bs.toArray⟩

/-- The text of octets read one character each. Right for ASCII alone, where a
character and its octet have one number. -/
def ofAscii (bs : Bytes) : String :=
  String.ofList (bs.map fun b => Char.ofNat b.toNat)

/-- Octets below 128. -/
def isAscii (bs : Bytes) : Bool := bs.all (· < 128)

theorem ofUtf8?_utf8 (s : String) : ofUtf8? (utf8 s) = some s := by
  have h : (⟨(utf8 s).toArray⟩ : ByteArray) = s.toByteArray := by
    simp [utf8]
  rw [ofUtf8?, h, String.fromUTF8?, dif_pos s.isValidUTF8]
  rfl

/-- Different texts have different octets. -/
theorem utf8_injective {s t : String} (h : utf8 s = utf8 t) : s = t := by
  have hread := ofUtf8?_utf8 s
  rw [h, ofUtf8?_utf8] at hread
  exact (Option.some.inj hread).symm

theorem utf8_of_ofUtf8? {bs : Bytes} {s : String} (h : ofUtf8? bs = some s) : utf8 s = bs := by
  unfold ofUtf8? String.fromUTF8? at h
  split at h
  · injection h with h
    subst h
    simp [utf8, String.fromUTF8]
  · cases h

theorem utf8_append (s t : String) : utf8 (s ++ t) = utf8 s ++ utf8 t := by
  simp [utf8, String.toByteArray_append]

theorem utf8_ofList (cs : List Char) :
    utf8 (String.ofList cs) = cs.flatMap String.utf8EncodeChar := by
  simp [utf8, List.utf8Encode]

private theorem utf8EncodeChar_octet (b : UInt8) (h : b < 128) :
    String.utf8EncodeChar (Char.ofNat b.toNat) = [b] :=
  forall_octet (p := fun b => b < 128 → String.utf8EncodeChar (Char.ofNat b.toNat) = [b])
    (by decide +kernel) b h

/-- ASCII octets are the octets of their text. -/
theorem utf8_ofAscii {bs : Bytes} (h : isAscii bs) : utf8 (ofAscii bs) = bs := by
  rw [ofAscii, utf8_ofList, List.flatMap_map]
  induction bs with
  | nil => rfl
  | cons b rest ih =>
    simp only [isAscii, List.all_cons, Bool.and_eq_true, decide_eq_true_eq] at h
    rw [List.flatMap_cons, utf8EncodeChar_octet b h.1, ih h.2]
    rfl

/-- Where octets stop being UTF-8: all before `index` is fine, and the fault is
`length` octets long, or `none` when the octets end inside a sequence. -/
structure Fault where
  index : Nat
  length : Option Nat
deriving DecidableEq

namespace Fault

/-- The fault in words. -/
def message (f : Fault) : String :=
  match f.length with
  | some n => s!"invalid utf-8 sequence of {n} bytes from index {f.index}"
  | none => s!"incomplete utf-8 byte sequence from index {f.index}"

/-- The octets that may follow a lead octet, position by position, each as an
inclusive range. The second octet of a sequence is limited further after some
leads: no overlong form, no surrogate and nothing above U+10FFFF. -/
def followers (lead : UInt8) : Option (List (UInt8 × UInt8)) :=
  if lead < 0x80 then some []
  else if lead < 0xC2 then none
  else if lead < 0xE0 then some [(0x80, 0xBF)]
  else if lead = 0xE0 then some [(0xA0, 0xBF), (0x80, 0xBF)]
  else if lead = 0xED then some [(0x80, 0x9F), (0x80, 0xBF)]
  else if lead < 0xF0 then some [(0x80, 0xBF), (0x80, 0xBF)]
  else if lead = 0xF0 then some [(0x90, 0xBF), (0x80, 0xBF), (0x80, 0xBF)]
  else if lead < 0xF4 then some [(0x80, 0xBF), (0x80, 0xBF), (0x80, 0xBF)]
  else if lead = 0xF4 then some [(0x80, 0x8F), (0x80, 0xBF), (0x80, 0xBF)]
  else none

/-- The first fault of the octets that follow a text of `start` octets and, when
`expected` is not empty, an unfinished sequence of `seen` octets. -/
def findFrom (start seen : Nat) (expected : List (UInt8 × UInt8)) : Bytes → Option Fault
  | [] => match expected with
    | [] => none
    | _ :: _ => some ⟨start, none⟩
  | b :: rest => match expected with
    | (low, high) :: more =>
      if low ≤ b ∧ b ≤ high then
        match more with
        | [] => findFrom (start + seen + 1) 0 [] rest
        | _ :: _ => findFrom start (seen + 1) more rest
      else some ⟨start, some seen⟩
    | [] => match followers b with
      | none => some ⟨start, some 1⟩
      | some [] => findFrom (start + 1) 0 [] rest
      | some more => findFrom start 1 more rest

/-- The first fault, or `none` for UTF-8. -/
def find (bs : Bytes) : Option Fault := findFrom 0 0 [] bs

end Fault

end Perimeter.Text
