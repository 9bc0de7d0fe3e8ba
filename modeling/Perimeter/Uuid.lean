import Perimeter.Hex

/-!
# `Perimeter.Uuid`: unique identifiers

A token carries a number of 128 bits by which the gateway knows it again. It is
written as thirty-two lower-case digits in five groups, and read in that form, in
braces, after `urn:uuid:`, or as thirty-two digits without groups, letters of
either case everywhere.

* `groups`: where the hyphens stand.
* `ofText?_text`: what is written is read back.
-/

set_option autoImplicit false

namespace Perimeter

/-- A unique identifier. -/
structure Uuid where
  octets : Octets 16
deriving DecidableEq

namespace Uuid

/-- Sixteen random octets marked as a random identifier. -/
def ofRandom (random : Octets 16) : Uuid :=
  let marked := random.bytes.mapIdx fun i b =>
    if i = 6 then b % 16 + 0x40 else if i = 8 then b % 64 + 0x80 else b
  ⟨⟨marked, by rw [List.length_mapIdx, random.length_eq]⟩⟩

/-- The lengths of the groups of digits. -/
def groups : List Nat := [8, 4, 4, 4, 12]

/-- Puts a hyphen between groups of the given lengths. -/
def hyphenate : List Nat → List Char → List Char
  | [], cs => cs
  | [_], cs => cs
  | n :: rest, cs => cs.take n ++ '-' :: hyphenate rest (cs.drop n)

/-- Takes the hyphens out between groups of the given lengths, if they are there. -/
def unhyphenate? : List Nat → List Char → Option (List Char)
  | [], cs => if cs = [] then some [] else none
  | [n], cs => if cs.length = n then some cs else none
  | n :: rest, cs =>
    match cs.drop n with
    | '-' :: after => (unhyphenate? rest after).map (cs.take n ++ ·)
    | _ => none

/-- The lower-case form in five groups. -/
def text (u : Uuid) : String :=
  String.ofList (hyphenate groups (Hex.encode u.octets.bytes).toList)

/-- The identifier of thirty-two digits. -/
def ofDigits? (cs : List Char) : Option Uuid :=
  match Hex.decode (Text.utf8 (String.ofList cs)) with
  | .ok bs => (Octets.ofBytes? 16 bs).map (⟨·⟩)
  | .error _ => none

/-- What stands before the five groups in a name of the scheme `urn`, in lower case. -/
def urn : List Char := "urn:uuid:".toList

/-- Reads an identifier in any of its forms. -/
def ofText? (s : String) : Option Uuid :=
  let cs := s.toList
  if cs.length = 32 then ofDigits? cs
  else if cs.length = 36 then unhyphenate? groups cs >>= ofDigits?
  else if cs.length = 38 ∧ cs.head? = some '\x7b' ∧ cs.getLast? = some '\x7d' then
    unhyphenate? groups (cs.drop 1).dropLast >>= ofDigits?
  else if cs.length = 45 ∧ (cs.take 9).map Char.toLower = urn then
    unhyphenate? groups (cs.drop 9) >>= ofDigits?
  else none

theorem length_hyphenate (n : Nat) (ns : List Nat) (cs : List Char)
    (h : (n :: ns).foldr (· + ·) 0 ≤ cs.length) :
    (hyphenate (n :: ns) cs).length = cs.length + ns.length := by
  induction ns generalizing n cs with
  | nil => rfl
  | cons m ns ih =>
    rw [List.foldr_cons] at h
    have hrest := ih m (cs.drop n) (by rw [List.length_drop]; omega)
    rw [hyphenate, List.length_append, List.length_cons, hrest, List.length_take,
      List.length_drop, List.length_cons]
    · omega
    · exact nofun

/-- Hyphens that were put between groups are taken out again. -/
theorem unhyphenate?_hyphenate (n : Nat) (ns : List Nat) (cs : List Char)
    (h : cs.length = (n :: ns).foldr (· + ·) 0) :
    unhyphenate? (n :: ns) (hyphenate (n :: ns) cs) = some cs := by
  induction ns generalizing n cs with
  | nil =>
    have hlength : cs.length = n := by simpa using h
    simp [unhyphenate?, hyphenate, hlength]
  | cons m ns ih =>
    rw [List.foldr_cons] at h
    have hfront : (cs.take n).length = n := by
      rw [List.length_take]
      omega
    have hrest := ih m (cs.drop n) (by rw [List.length_drop]; omega)
    rw [hyphenate, unhyphenate?, List.drop_left' hfront]
    · show (unhyphenate? (m :: ns) _).map _ = _
      rw [hrest, List.take_left' hfront]
      exact congrArg some (List.take_append_drop n cs)
    · exact nofun
    · exact nofun

theorem length_encode_octets (u : Uuid) : (Hex.encode u.octets.bytes).toList.length = 32 := by
  rw [Hex.encode, Text.ofAscii, String.toList_ofList, List.length_map, Hex.length_encodeBytes,
    u.octets.length_eq]

theorem toList_text (u : Uuid) :
    u.text.toList = hyphenate groups (Hex.encode u.octets.bytes).toList :=
  String.toList_ofList

/-- The five groups are of 32 digits and four hyphens. -/
theorem length_text (u : Uuid) : u.text.toList.length = 36 := by
  have hdigits := u.length_encode_octets
  rw [toList_text, groups, length_hyphenate _ _ _ (by rw [hdigits]; decide), hdigits]
  rfl

/-- An identifier is read back from its form in five groups. -/
theorem ofText?_text (u : Uuid) : ofText? u.text = some u := by
  have hlength := u.length_text
  have hgroups : unhyphenate? groups u.text.toList =
      some (Hex.encode u.octets.bytes).toList := by
    rw [toList_text]
    exact unhyphenate?_hyphenate _ _ _ u.length_encode_octets
  rw [ofText?]
  show (if _ then _ else if _ then _ else _) = _
  rw [if_neg (by omega), if_pos hlength, hgroups, Option.bind_eq_bind, Option.bind_some, ofDigits?,
    String.ofList_toList, Hex.decode_utf8_encode]
  show (Octets.ofBytes? 16 u.octets.bytes).map _ = _
  rw [Octets.ofBytes?_bytes]
  rfl

end Uuid

end Perimeter
