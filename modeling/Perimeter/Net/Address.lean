import Perimeter.Bytes

/-!
# `Perimeter.Net.Address`: addresses of machines and of their ports

Addresses are read and written as text: four decimal numbers between points, or
eight hexadecimal groups between colons of which one run of zeros may be left out.
A socket address adds a port, and brackets around an address of the second kind.

Reading is by functions that take the front of a list of characters and give back
what they read with the rest.

* `SocketAddress.parse?`, `SocketAddress.text`: the two directions.
-/

set_option autoImplicit false

namespace Perimeter

/-- The address of a machine. The two kinds differ even where one maps into the other. -/
inductive IpAddress where
  | v4 (octets : Octets 4)
  /-- Eight groups of sixteen bits. -/
  | v6 (octets : Octets 16)
deriving DecidableEq

/-- An address with a port. -/
structure SocketAddress where
  ip : IpAddress
  port : UInt16
  /-- The zone of an address of eight groups, zero if none is given. -/
  zone : UInt32
deriving DecidableEq

/-- The port of a machine whose address has four numbers. -/
def SocketAddress.quad (a b c d : UInt8) (port : UInt16) : SocketAddress :=
  ⟨.v4 ⟨[a, b, c, d], rfl⟩, port, 0⟩

namespace Net

/-- The value of a digit in a base of ten or sixteen. -/
def digit? (base : Nat) (c : Char) : Option Nat :=
  let n := c.toNat
  if 0x30 ≤ n ∧ n ≤ 0x39 then some (n - 0x30)
  else if base = 16 ∧ 0x61 ≤ n ∧ n ≤ 0x66 then some (n - 0x57)
  else if base = 16 ∧ 0x41 ≤ n ∧ n ≤ 0x46 then some (n - 0x37)
  else none

/-- How a number may be written. -/
structure NumberForm where
  base : Nat
  maxDigits : Option Nat
  /-- Whether further digits may follow a leading zero. -/
  leadingZeros : Bool
  most : Nat

/-- One of four numbers of an address. -/
def octetForm : NumberForm := ⟨10, some 3, false, 255⟩

/-- One of eight groups of an address. -/
def groupForm : NumberForm := ⟨16, some 4, true, 0xFFFF⟩

/-- A port. -/
def portForm : NumberForm := ⟨10, none, true, 0xFFFF⟩

/-- A zone. -/
def zoneForm : NumberForm := ⟨10, none, true, 0xFFFFFFFF⟩

/-- Reads a number, taking all digits that stand in front. -/
def number? (form : NumberForm) (cs : List Char) : Option (Nat × List Char) :=
  let isDigit c := (digit? form.base c).isSome
  let digits := cs.takeWhile isDigit
  let value := digits.foldl (fun n c => n * form.base + (digit? form.base c).getD 0) 0
  if digits.isEmpty then none
  else if form.maxDigits.any (· < digits.length) then none
  else if !form.leadingZeros && digits.head? = some '0' && 1 < digits.length then none
  else if form.most < value then none
  else some (value, cs.dropWhile isDigit)

/-- Reads a given character. -/
def char? (c : Char) : List Char → Option (List Char)
  | [] => none
  | d :: rest => if d = c then some rest else none

/-- Reads four numbers between points. -/
def ipv4? (cs : List Char) : Option (Octets 4 × List Char) := do
  let (a, cs) ← number? octetForm cs
  let (b, cs) ← number? octetForm (← char? '.' cs)
  let (c, cs) ← number? octetForm (← char? '.' cs)
  let (d, cs) ← number? octetForm (← char? '.' cs)
  return (⟨[UInt8.ofNat a, UInt8.ofNat b, UInt8.ofNat c, UInt8.ofNat d], rfl⟩, cs)

/-- Reads a colon unless what follows is the first of its list. -/
def separator? (first : Bool) (cs : List Char) : Option (List Char) :=
  if first then some cs else char? ':' cs

/-- The groups of two octets each. -/
def groupsOf : Bytes → List Nat
  | a :: b :: rest => (a.toNat * 256 + b.toNat) :: groupsOf rest
  | _ => []

/-- Reads up to so many groups. Four numbers between points may end the list in place
of two groups, and the answer says whether they did. -/
def groups (first : Bool) : Nat → List Char → List Nat × Bool × List Char
  | 0, cs => ([], false, cs)
  | left + 1, cs =>
    -- Four numbers take up two groups, of which there have to be two.
    let embedded := if left = 0 then none else separator? first cs >>= ipv4?
    match embedded with
    | some (octets, rest) => (groupsOf octets.bytes, true, rest)
    | none => match separator? first cs >>= number? groupForm with
      | none => ([], false, cs)
      | some (g, rest) =>
        let (more, dotted, rest) := groups false left rest
        (g :: more, dotted, rest)

/-- The octets of groups. -/
def groupBytes (gs : List Nat) : Bytes := gs.flatMap (bigEndian 2)

/-- Reads eight groups. Two colons in a row stand for at least one group of zeros. -/
def ipv6? (cs : List Char) : Option (Octets 16 × List Char) := do
  let (front, dotted, rest) := groups true 8 cs
  if front.length = 8 then
    return (← Octets.ofBytes? 16 (groupBytes front), rest)
  else if dotted then none
  else
    -- Two colons stand for a group at least, so seven are left for front and back.
    let rest ← char? ':' (← char? ':' rest)
    let (back, _, rest) := groups true (7 - front.length) rest
    let zeros := List.replicate (8 - front.length - back.length) 0
    return (← Octets.ofBytes? 16 (groupBytes (front ++ zeros ++ back)), rest)

/-- Reads an address of either kind. -/
def ip? (cs : List Char) : Option (IpAddress × List Char) :=
  match ipv4? cs with
  | some (octets, rest) => some (.v4 octets, rest)
  | none => (ipv6? cs).map fun r => (.v6 r.1, r.2)

/-- Reads a colon and a port. -/
def port? (cs : List Char) : Option (UInt16 × List Char) := do
  let (n, rest) ← number? portForm (← char? ':' cs)
  return (UInt16.ofNat n, rest)

/-- Reads a zone if one is there. -/
def zone? (cs : List Char) : Option (UInt32 × List Char) :=
  match char? '%' cs with
  | none => some (0, cs)
  | some rest => (number? zoneForm rest).map fun r => (UInt32.ofNat r.1, r.2)

/-- Reads an address of four numbers with its port. -/
def socketV4? (cs : List Char) : Option (SocketAddress × List Char) := do
  let (octets, rest) ← ipv4? cs
  let (port, rest) ← port? rest
  return (⟨.v4 octets, port, 0⟩, rest)

/-- Reads an address of eight groups in brackets with its port. -/
def socketV6? (cs : List Char) : Option (SocketAddress × List Char) := do
  let (octets, rest) ← ipv6? (← char? '[' cs)
  let (zone, rest) ← zone? rest
  let (port, rest) ← port? (← char? ']' rest)
  return (⟨.v6 octets, port, zone⟩, rest)

/-- What was read, if nothing is left. -/
def whole {α : Type} (read : Option (α × List Char)) : Option α :=
  match read with
  | some (a, []) => some a
  | _ => none

/-- A run of groups of zeros. -/
structure ZeroRun where
  start : Nat
  length : Nat

/-- The first of the longest runs of zeros, given the run that reaches up to the index
and the longest one so far. -/
def longestRun (index : Nat) (current longest : ZeroRun) : List Nat → ZeroRun
  | [] => longest
  | g :: rest =>
    if g = 0 then
      let grown : ZeroRun := ⟨if current.length = 0 then index else current.start,
        current.length + 1⟩
      longestRun (index + 1) grown (if longest.length < grown.length then grown else longest) rest
    else longestRun (index + 1) ⟨0, 0⟩ longest rest

/-- A group in lower-case digits without leading zeros. -/
def groupText (g : Nat) : String := String.ofList (Nat.toDigits 16 g)

/-- Groups between colons. -/
def groupsText (gs : List Nat) : String := ":".intercalate (gs.map groupText)

/-- Octets as decimal numbers between points. -/
def dotted (bs : Bytes) : String := ".".intercalate (bs.map fun b => toString b.toNat)

/-- Eight groups as text. The longest run of two zeros or more is left out, and an
address that maps one of four numbers shows these. -/
def ipv6Text (octets : Octets 16) : String :=
  let gs := groupsOf octets.bytes
  if gs.take 6 = [0, 0, 0, 0, 0, 0xFFFF] then "::ffff:" ++ dotted (octets.bytes.drop 12)
  else
    let run := longestRun 0 ⟨0, 0⟩ ⟨0, 0⟩ gs
    if 1 < run.length then
      groupsText (gs.take run.start) ++ "::" ++ groupsText (gs.drop (run.start + run.length))
    else groupsText gs

end Net

namespace IpAddress

/-- Reads an address. -/
def parse? (s : String) : Option IpAddress := Net.whole (Net.ip? s.toList)

/-- The address as text. -/
def text : IpAddress → String
  | v4 octets => Net.dotted octets.bytes
  | v6 octets => Net.ipv6Text octets

end IpAddress

namespace SocketAddress

/-- Reads an address with its port. -/
def parse? (s : String) : Option SocketAddress :=
  let cs := s.toList
  match Net.socketV4? cs with
  | some r => Net.whole (some r)
  | none => Net.whole (Net.socketV6? cs)

/-- The address with its port as text. -/
def text (a : SocketAddress) : String :=
  match a.ip with
  | .v4 octets => s!"{Net.dotted octets.bytes}:{a.port.toNat}"
  | .v6 octets =>
    let zone := if a.zone = 0 then "" else s!"%{a.zone.toNat}"
    s!"[{Net.ipv6Text octets}{zone}]:{a.port.toNat}"

end SocketAddress

end Perimeter
