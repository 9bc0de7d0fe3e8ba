import Perimeter.Net.Address
import Perimeter.Proofs.Digits

/-!
# `Perimeter.Proofs.Net.Address`: an address is read from its text

An address of eight groups has three forms (`ipv6Text_cases`): with four numbers at the end, with
two colons for the longest run of zeros, and in full. The reader knows of none of them. It reads
groups as long as there are any, and only then looks for two colons, so what has to be shown is
where groups end: before anything that is `NoGroup` (`groups_groupChars`). That the run which is
left out has nothing but zeros is `covers_longestRun_all`.

The zone of an address is written unless it is zero. Since an address of four numbers is never
read with a zone, every address that has been read is read again from its text
(`SocketAddress.parse?_text_of_parse?`).
-/

set_option autoImplicit false

namespace Perimeter.Net

open Digits

/-! ### Numbers -/

/-- Whether a character is a digit of a base. -/
def isDigit (base : Nat) (c : Char) : Bool := (digit? base c).isSome

theorem knows_ten : Knows (digit? 10) 10 := by
  unfold Knows
  decide

theorem knows_sixteen : Knows (digit? 16) 16 := by
  unfold Knows
  decide

theorem isDigit_sixteen_of_ten {c : Char} (h : isDigit 10 c) : isDigit 16 c := by
  simp only [isDigit, digit?] at h ⊢
  split at h
  · simp [*]
  · simp at h

theorem number?_toDigits {form : NumberForm} {n : Nat} {rest : List Char} (hbase : 1 < form.base)
    (hknows : Knows (digit? form.base) form.base)
    (hshort : ∀ m ∈ form.maxDigits, 0 < m ∧ n < form.base ^ m)
    (hle : n ≤ form.most) (hrest : Stops (isDigit form.base) rest) :
    number? form (Nat.toDigits form.base n ++ rest) = some (n, rest) := by
  have hdigits : ∀ c ∈ Nat.toDigits form.base n, isDigit form.base c := by
    intro c hc
    exact isSome_of_mem_toDigits hbase hknows hc
  have htake := takeWhile_append hdigits hrest
  have hdrop := dropWhile_append hdigits hrest
  unfold isDigit at htake hdrop
  have hlong : ¬form.maxDigits.any (· < (Nat.toDigits form.base n).length) := by
    cases hmax : form.maxDigits with
    | none => simp
    | some m =>
      obtain ⟨hpos, hlt⟩ := hshort m hmax
      simpa using (Nat.length_toDigits_le_iff hbase hpos).mpr hlt
  have hzero : ¬(!form.leadingZeros && (Nat.toDigits form.base n).head? = some '0' &&
      1 < (Nat.toDigits form.base n).length) := by
    intro h
    simp only [Bool.and_eq_true, decide_eq_true_eq] at h
    obtain rfl := toDigits_of_head_zero hbase h.1.2
    simp at h
  rw [number?]
  simp only [htake, hdrop, foldl_toDigits hbase hknows]
  rw [if_neg (by simp), if_neg hlong, if_neg hzero, if_neg (by omega)]

theorem number?_of_stops {form : NumberForm} {rest : List Char}
    (h : Stops (isDigit form.base) rest) : number? form rest = none := by
  rw [number?]
  have htake := h.takeWhile
  unfold isDigit at htake
  simp [htake]

theorem number?_octet {n : Nat} {rest : List Char} (h : n < 256)
    (hrest : Stops (isDigit 10) rest) :
    number? octetForm (Nat.toDigits 10 n ++ rest) = some (n, rest) := by
  refine number?_toDigits (by decide) knows_ten ?_ (by show n ≤ 255; omega) hrest
  simp only [octetForm, Option.mem_some_iff, forall_eq']
  omega

theorem number?_group {n : Nat} {rest : List Char} (h : n < 65536)
    (hrest : Stops (isDigit 16) rest) :
    number? groupForm (Nat.toDigits 16 n ++ rest) = some (n, rest) := by
  refine number?_toDigits (by decide) knows_sixteen ?_ (by show n ≤ 65535; omega) hrest
  simp only [groupForm, Option.mem_some_iff, forall_eq']
  omega

theorem number?_port (port : UInt16) {rest : List Char} (hrest : Stops (isDigit 10) rest) :
    number? portForm (Nat.toDigits 10 port.toNat ++ rest) = some (port.toNat, rest) := by
  have hlt := port.toNat_lt
  exact number?_toDigits (by decide) knows_ten nofun (by show _ ≤ 65535; omega) hrest

theorem number?_zone (zone : UInt32) {rest : List Char} (hrest : Stops (isDigit 10) rest) :
    number? zoneForm (Nat.toDigits 10 zone.toNat ++ rest) = some (zone.toNat, rest) := by
  have hlt := zone.toNat_lt
  exact number?_toDigits (by decide) knows_ten nofun (by show _ ≤ 4294967295; omega) hrest

theorem dropWhile_of_number? {form : NumberForm} {n : Nat} {cs rest : List Char}
    (h : number? form cs = some (n, rest)) : cs.dropWhile (isDigit form.base) = rest := by
  simp only [number?, Option.ite_none_left_eq_some, Option.some.injEq, Prod.mk.injEq] at h
  exact h.2.2.2.2.2

/-! ### Four numbers between points -/

theorem toList_dotted (a b c d : UInt8) :
    (dotted [a, b, c, d]).toList = Nat.toDigits 10 a.toNat ++ '.' :: (Nat.toDigits 10 b.toNat ++
      '.' :: (Nat.toDigits 10 c.toNat ++ '.' :: Nat.toDigits 10 d.toNat)) := by
  simp [dotted]

theorem stops_dot (rest : List Char) : Stops (isDigit 10) ('.' :: rest) := stops_cons (by decide)

/-- Four numbers are read from their text. -/
theorem ipv4?_dotted (octets : Octets 4) {rest : List Char} (hrest : Stops (isDigit 10) rest) :
    ipv4? ((dotted octets.bytes).toList ++ rest) = some (octets, rest) := by
  obtain ⟨bytes, hlength⟩ := octets
  match bytes, hlength with
  | [a, b, c, d], _ =>
    have hlt := fun x : UInt8 => x.toNat_lt
    simp only [toList_dotted, List.append_assoc, List.cons_append]
    simp [ipv4?, number?_octet, hlt, hrest, stops_dot, char?]

theorem ipv4?_of_stops {rest : List Char} (h : Stops (isDigit 16) rest) : ipv4? rest = none := by
  have hnumber : number? octetForm rest = none :=
    number?_of_stops (h.mono fun _ => isDigit_sixteen_of_ten)
  simp [ipv4?, hnumber]

/-- Four numbers are not read where digits of groups end with no point behind them. -/
theorem ipv4?_of_no_dot {digits rest : List Char} (hdigits : ∀ c ∈ digits, isDigit 16 c)
    (hrest : Stops (isDigit 16) rest) (hdot : Stops (· = '.') rest) :
    ipv4? (digits ++ rest) = none := by
  have hten : Stops (isDigit 10) rest := hrest.mono fun _ => isDigit_sixteen_of_ten
  cases hread : number? octetForm (digits ++ rest) with
  | none => simp [ipv4?, hread]
  | some read =>
    obtain ⟨n, behind⟩ := read
    -- What is left begins with a digit of a group or with what follows the digits.
    have hbehind : char? '.' behind = none := by
      rw [← dropWhile_of_number? hread]
      cases hhead : (digits ++ rest).dropWhile (isDigit octetForm.base) with
      | nil => rfl
      | cons c behind =>
        refine if_neg fun hc => ?_
        subst c
        have hleft : '.' ∈ ((digits ++ rest).dropWhile (isDigit 10)).head? :=
          congrArg List.head? hhead
        rcases mem_of_mem_head_dropWhile hten hleft with hin | hnext
        · exact absurd (hdigits _ hin) (by decide)
        · exact absurd (hdot _ hnext) (by decide)
    simp [ipv4?, hread, hbehind]

/-! ### Groups between colons -/

/-- Groups as characters, with a colon in front of all but the first of a list. -/
def groupChars (first : Bool) : List Nat → List Char
  | [] => []
  | g :: gs => (if first then [] else [':']) ++ (Nat.toDigits 16 g ++ groupChars false gs)

theorem toList_groupsText (gs : List Nat) : (groupsText gs).toList = groupChars true gs := by
  induction gs with
  | nil => rfl
  | cons g gs ih =>
    cases gs with
    | nil => simp [groupsText, groupText, groupChars]
    | cons h gs =>
      have hcons : groupsText (g :: h :: gs) = groupText g ++ (":" ++ groupsText (h :: gs)) :=
        String.intercalate_cons_cons.trans String.append_assoc
      rw [hcons, String.toList_append, String.toList_append, ih]
      simp [groupText, groupChars]

/-- No group follows, neither at once nor behind a colon, and no point. -/
structure NoGroup (rest : List Char) : Prop where
  stops : Stops (isDigit 16) rest
  noDot : Stops (· = '.') rest
  behind : ∀ rest', rest = ':' :: rest' → Stops (isDigit 16) rest'

/-- Whatever needs a digit in front is not read. -/
theorem NoGroup.separator?_bind {rest : List Char} (h : NoGroup rest) (first : Bool) {β : Type}
    {scan : List Char → Option β} (hscan : ∀ cs, Stops (isDigit 16) cs → scan cs = none) :
    separator? first rest >>= scan = none := by
  cases first with
  | true => exact hscan rest h.stops
  | false =>
    cases rest with
    | nil => rfl
    | cons c rest =>
      by_cases hc : c = ':'
      · subst hc
        simpa [separator?, char?] using hscan rest (h.behind rest rfl)
      · simp [separator?, char?, hc]

/-- Behind a group there is no digit and no point. -/
theorem stops_groupChars {p : Char → Bool} {rest : List Char} (hcolon : p ':' = false)
    (hrest : Stops p rest) (gs : List Nat) : Stops p (groupChars false gs ++ rest) := by
  cases gs with
  | nil => exact hrest
  | cons g gs => exact stops_cons hcolon

/-- Groups are read from their text. -/
theorem groups_groupChars {rest : List Char} (hrest : NoGroup rest) (first : Bool) (left : Nat)
    (gs : List Nat) (hlt : ∀ g ∈ gs, g < 65536) (hleft : gs.length ≤ left) :
    groups first left (groupChars first gs ++ rest) = (gs, false, rest) := by
  induction gs generalizing first left with
  | nil =>
    cases left with
    | zero => rfl
    | succ left =>
      have hnumbers : separator? first rest >>= ipv4? = none :=
        hrest.separator?_bind first fun _ => ipv4?_of_stops
      have hgroup : separator? first rest >>= number? groupForm = none :=
        hrest.separator?_bind first fun _ h => number?_of_stops h
      simp [groups, groupChars, hgroup, hnumbers]
  | cons g gs ih =>
    cases left with
    | zero => simp at hleft
    | succ left =>
      have hstops : Stops (isDigit 16) (groupChars false gs ++ rest) :=
        stops_groupChars (by decide) hrest.stops gs
      have hnoDot : Stops (· = '.') (groupChars false gs ++ rest) :=
        stops_groupChars (by decide) hrest.noDot gs
      have hseparator : separator? first (groupChars first (g :: gs) ++ rest) =
          some (Nat.toDigits 16 g ++ (groupChars false gs ++ rest)) := by
        cases first <;> simp [separator?, groupChars, char?]
      have hnumbers : ipv4? (Nat.toDigits 16 g ++ (groupChars false gs ++ rest)) = none :=
        ipv4?_of_no_dot (fun c hc => isSome_of_mem_toDigits (by decide) knows_sixteen hc) hstops
          hnoDot
      have hgroup := number?_group (hlt g (List.mem_cons_self ..)) hstops
      have hmore := ih false left (fun g' h => hlt g' (List.mem_cons_of_mem g h))
        (Nat.le_of_succ_le_succ hleft)
      simp [groups, hseparator, hgroup, hnumbers, hmore]

/-! ### The octets of groups -/

theorem groupBytes_groupsOf : ∀ {bs : Bytes}, bs.length % 2 = 0 → groupBytes (groupsOf bs) = bs
  | [], _ => rfl
  | [_], h => absurd h (by simp)
  | a :: b :: rest, h => by
    have hrest : groupBytes (groupsOf rest) = rest := by
      refine groupBytes_groupsOf ?_
      simp only [List.length_cons] at h
      omega
    have hpair : bigEndian 2 (a.toNat * 256 + b.toNat) = [a, b] := by
      have hvalue : ofBigEndian [a, b] = a.toNat * 256 + b.toNat := by simp [ofBigEndian]
      rw [← hvalue]
      exact bigEndian_ofBigEndian [a, b]
    simpa [groupsOf, groupBytes, hpair] using hrest

theorem length_groupsOf : ∀ bs : Bytes, (groupsOf bs).length = bs.length / 2
  | [] => rfl
  | [_] => by simp [groupsOf]
  | a :: b :: rest => by
    rw [groupsOf, List.length_cons, length_groupsOf rest]
    simp only [List.length_cons]
    omega

theorem lt_of_mem_groupsOf : ∀ {bs : Bytes}, ∀ g ∈ groupsOf bs, g < 65536
  | [], g, h => absurd h (by simp [groupsOf])
  | [_], g, h => absurd h (by simp [groupsOf])
  | a :: b :: rest, g, h => by
    have ha := a.toNat_lt
    have hb := b.toNat_lt
    rcases List.mem_cons.mp h with rfl | h
    · omega
    · exact lt_of_mem_groupsOf g h

theorem groupsOf_drop_two (n : Nat) :
    ∀ bs : Bytes, groupsOf (bs.drop (2 * n)) = (groupsOf bs).drop n := by
  induction n with
  | zero => intro bs; rfl
  | succ n ih =>
    intro bs
    match bs with
    | [] => simp [groupsOf]
    | [_] => simp [Nat.mul_add, groupsOf]
    | a :: b :: rest => simpa [Nat.mul_add, groupsOf] using ih rest

/-! ### The run of zeros that is left out -/

/-- A run of groups has nothing but zeros. -/
def ZeroRun.Covers (run : ZeroRun) (gs : List Nat) : Prop :=
  ∃ front back, gs = front ++ List.replicate run.length 0 ++ back ∧ front.length = run.start

theorem ZeroRun.Covers.append {run : ZeroRun} {gs : List Nat} (h : run.Covers gs)
    (more : List Nat) : run.Covers (gs ++ more) := by
  obtain ⟨front, back, rfl, hstart⟩ := h
  exact ⟨front, back ++ more, by simp, hstart⟩

/-- What is found is a run of zeros, if what has been found before is one and if zeros reach up to
the index. -/
theorem covers_longestRun (seen : List Nat) {gs : List Nat} {current longest : ZeroRun}
    (hcurrent : ∃ front, seen = front ++ List.replicate current.length 0 ∧
      (current.length ≠ 0 → front.length = current.start))
    (hlongest : longest.Covers seen) :
    (longestRun seen.length current longest gs).Covers (seen ++ gs) := by
  induction gs generalizing seen current longest with
  | nil => simpa [longestRun] using hlongest
  | cons g gs ih =>
    have hseen : seen ++ g :: gs = seen ++ [g] ++ gs := by simp
    have hlength : seen.length + 1 = (seen ++ [g]).length := by simp
    rw [longestRun, hseen, hlength]
    split
    · subst g
      obtain ⟨front, hfront, hstart⟩ := hcurrent
      generalize hgrown : (⟨if current.length = 0 then seen.length else current.start,
        current.length + 1⟩ : ZeroRun) = grown
      have hzeros : seen ++ [0] = front ++ List.replicate grown.length 0 := by
        rw [← hgrown, List.replicate_succ', hfront, List.append_assoc]
      have hgrownStart : front.length = grown.start := by
        rw [← hgrown]
        show _ = if _ then _ else _
        split
        · rw [hfront]
          simp [*]
        · exact hstart ‹_›
      refine ih _ ⟨front, hzeros, fun _ => hgrownStart⟩ ?_
      split
      · exact ⟨front, [], by rw [hzeros, List.append_nil], hgrownStart⟩
      · exact hlongest.append [0]
    · exact ih _ ⟨seen ++ [g], by simp, by simp⟩ (hlongest.append [g])

theorem covers_longestRun_all (gs : List Nat) : (longestRun 0 ⟨0, 0⟩ ⟨0, 0⟩ gs).Covers gs :=
  covers_longestRun [] ⟨[], rfl, by simp⟩ ⟨[], [], rfl, rfl⟩

/-! ### Addresses of eight groups -/

theorem noGroup_cons {c : Char} {rest : List Char} (hdigit : isDigit 16 c = false) (hdot : c ≠ '.')
    (hcolon : c ≠ ':') : NoGroup (c :: rest) where
  stops := stops_cons hdigit
  noDot := stops_cons (by simpa using hdot)
  behind _ h := absurd (List.cons.inj h).1 hcolon

theorem noGroup_colons (rest : List Char) : NoGroup (':' :: ':' :: rest) where
  stops := stops_cons (by decide)
  noDot := stops_cons (by decide)
  behind rest' h := by
    obtain rfl := (List.cons.inj h).2
    exact stops_cons (by decide)

theorem groups_colons (left : Nat) (rest : List Char) :
    groups true left (':' :: ':' :: rest) = ([], false, ':' :: ':' :: rest) :=
  groups_groupChars (noGroup_colons rest) true left [] (by simp) (Nat.zero_le left)

/-- Four numbers behind a group are read as two groups. -/
theorem groups_dotted {g : Nat} (hg : g < 65536) (octets : Octets 4) {rest : List Char}
    (hrest : Stops (isDigit 10) rest) :
    groups true 7 (Nat.toDigits 16 g ++ ':' :: ((dotted octets.bytes).toList ++ rest)) =
      (g :: groupsOf octets.bytes, true, rest) := by
  have hcolon : ∀ p : Char → Bool, p ':' = false →
      Stops p (':' :: ((dotted octets.bytes).toList ++ rest)) := fun p hp => stops_cons hp
  have hnumbers : ipv4? (Nat.toDigits 16 g ++ ':' :: ((dotted octets.bytes).toList ++ rest)) =
      none :=
    ipv4?_of_no_dot (fun c hc => isSome_of_mem_toDigits (by decide) knows_sixteen hc)
      (hcolon (isDigit 16) (by decide)) (hcolon (· = '.') (by decide))
  have hgroup := number?_group hg (hcolon (isDigit 16) (by decide))
  have hmore := ipv4?_dotted octets hrest
  simp [groups, separator?, char?, hnumbers, hgroup, hmore]

section
variable {rest : List Char}

theorem ipv6?_of_groups {gs : List Nat} (hlength : gs.length = 8) (hlt : ∀ g ∈ gs, g < 65536)
    (hrest : NoGroup rest) :
    ipv6? (groupChars true gs ++ rest) =
      (Octets.ofBytes? 16 (groupBytes gs)).map fun octets => (octets, rest) := by
  rw [ipv6?, groups_groupChars hrest true 8 gs hlt (by omega)]
  cases hoctets : Octets.ofBytes? 16 (groupBytes gs) <;> simp [hlength, hoctets]

/-- The groups that two colons stand for are zeros, as many as are missing. -/
theorem ipv6?_of_colons {front back : List Nat} {n : Nat}
    (hlength : front.length + n + back.length = 8) (hn : 0 < n)
    (hlt : ∀ g ∈ front ++ back, g < 65536) (hrest : NoGroup rest) :
    ipv6? (groupChars true front ++ ':' :: ':' :: (groupChars true back ++ rest)) =
      (Octets.ofBytes? 16 (groupBytes (front ++ List.replicate n 0 ++ back))).map
        fun octets => (octets, rest) := by
  have hfront := groups_groupChars (noGroup_colons (groupChars true back ++ rest)) true 8
    front (fun g h => hlt g (List.mem_append_left _ h)) (by omega)
  have hback := groups_groupChars hrest true (7 - front.length) back
    (fun g h => hlt g (List.mem_append_right _ h)) (by omega)
  have hzeros : 8 - front.length - back.length = n := by omega
  have hshort : front.length ≠ 8 := by omega
  rw [ipv6?, hfront]
  cases hoctets : Octets.ofBytes? 16 (groupBytes (front ++ List.replicate n 0 ++ back)) <;>
    simp_all [char?]

theorem ipv6?_of_dotted (octets : Octets 4) (hrest : Stops (isDigit 10) rest) :
    ipv6? ("::ffff:".toList ++ (dotted octets.bytes).toList ++ rest) =
      (Octets.ofBytes? 16 (groupBytes ([0, 0, 0, 0, 0, 0xFFFF] ++ groupsOf octets.bytes))).map
        fun octets => (octets, rest) := by
  have htext : "::ffff:".toList ++ (dotted octets.bytes).toList ++ rest =
      ':' :: ':' :: (Nat.toDigits 16 0xFFFF ++ ':' :: ((dotted octets.bytes).toList ++ rest)) := by
    have hgroup : Nat.toDigits 16 0xFFFF = ['f', 'f', 'f', 'f'] := by decide
    have hfront : "::ffff:".toList = [':', ':', 'f', 'f', 'f', 'f', ':'] := by decide
    rw [hgroup, hfront]
    simp
  have hgroups := groups_dotted (g := 0xFFFF) (by decide) octets hrest
  have hlength : (groupsOf octets.bytes).length = 2 := by
    rw [length_groupsOf, octets.length_eq]
  rw [htext, ipv6?, groups_colons]
  cases hoctets : Octets.ofBytes? 16 (groupBytes ([0, 0, 0, 0, 0, 0xFFFF] ++
    groupsOf octets.bytes)) <;> simp_all [char?]

end

/-- The three ways to write an address of eight groups: with four numbers at the end, with two
colons for zeros, or in full. -/
theorem ipv6Text_cases (octets : Octets 16) :
    (∃ last : Octets 4, groupsOf octets.bytes = [0, 0, 0, 0, 0, 0xFFFF] ++ groupsOf last.bytes ∧
      ipv6Text octets = "::ffff:" ++ dotted last.bytes) ∨
    (∃ front n back, 0 < n ∧ groupsOf octets.bytes = front ++ List.replicate n 0 ++ back ∧
      ipv6Text octets = groupsText front ++ "::" ++ groupsText back) ∨
    ipv6Text octets = groupsText (groupsOf octets.bytes) := by
  by_cases hmapped : (groupsOf octets.bytes).take 6 = [0, 0, 0, 0, 0, 0xFFFF]
  · refine .inl ⟨⟨octets.bytes.drop 12, by rw [List.length_drop, octets.length_eq]⟩, ?_, ?_⟩
    · rw [groupsOf_drop_two 6, ← hmapped, List.take_append_drop]
    · rw [ipv6Text, if_pos hmapped]
  · refine .inr ?_
    rw [ipv6Text, if_neg hmapped]
    have hcovers := covers_longestRun_all (groupsOf octets.bytes)
    generalize longestRun 0 ⟨0, 0⟩ ⟨0, 0⟩ (groupsOf octets.bytes) = run at hcovers
    generalize groupsOf octets.bytes = gs at *
    by_cases hlong : 1 < run.length
    · obtain ⟨front, back, hgs, hstart⟩ := hcovers
      have htake : gs.take run.start = front := by
        rw [hgs, ← hstart, List.append_assoc, List.take_left]
      have hdrop : gs.drop (run.start + run.length) = back := by
        have hcut : run.start + run.length = (front ++ List.replicate run.length 0).length := by
          simp [hstart]
        rw [hgs, hcut, List.drop_left]
      refine .inl ⟨front, run.length, back, by omega, hgs, (if_pos hlong).trans ?_⟩
      rw [htake, hdrop]
    · exact .inr (if_neg hlong)

/-- An address of eight groups is read from its text. -/
theorem ipv6?_ipv6Text (octets : Octets 16) {rest : List Char} (hrest : NoGroup rest) :
    ipv6? ((ipv6Text octets).toList ++ rest) = some (octets, rest) := by
  have hread : (Octets.ofBytes? 16 (groupBytes (groupsOf octets.bytes))).map (fun o => (o, rest)) =
      some (octets, rest) := by
    rw [groupBytes_groupsOf (by rw [octets.length_eq]), Octets.ofBytes?_bytes]
    rfl
  have hlength : (groupsOf octets.bytes).length = 8 := by
    rw [length_groupsOf, octets.length_eq]
  have hlt : ∀ g ∈ groupsOf octets.bytes, g < 65536 := lt_of_mem_groupsOf
  rcases ipv6Text_cases octets with ⟨last, hgroups, htext⟩ | ⟨front, n, back, hn, hgroups, htext⟩ |
    htext
  · rw [← hread, hgroups, htext, String.toList_append]
    exact ipv6?_of_dotted last (hrest.stops.mono fun _ => isDigit_sixteen_of_ten)
  · rw [hgroups] at hlength hlt
    rw [← hread, hgroups, htext]
    have hchars : (groupsText front ++ "::" ++ groupsText back).toList ++ rest =
        groupChars true front ++ ':' :: ':' :: (groupChars true back ++ rest) := by
      simp [toList_groupsText]
    rw [hchars]
    refine ipv6?_of_colons (by simpa [Nat.add_assoc] using hlength) hn (fun g hg => hlt g ?_) hrest
    rcases List.mem_append.mp hg with hg | hg <;> simp [hg]
  · rw [htext, toList_groupsText, ipv6?_of_groups hlength hlt hrest, hread]

/-! ### Addresses with a port -/

theorem port?_toDigits (port : UInt16) :
    port? (':' :: Nat.toDigits 10 port.toNat) = some (port, []) := by
  have hnumber := number?_port port stops_nil
  rw [List.append_nil] at hnumber
  simp [port?, char?, hnumber]

/-- A zone as it stands in a text: not at all if it is zero. -/
def zoneChars (zone : UInt32) : List Char :=
  if zone = 0 then [] else '%' :: Nat.toDigits 10 zone.toNat

theorem zone?_zoneChars (zone : UInt32) (rest : List Char) :
    zone? (zoneChars zone ++ ']' :: rest) = some (zone, ']' :: rest) := by
  by_cases hzero : zone = 0
  · subst hzero
    rfl
  · have hstops : Stops (isDigit 10) (']' :: rest) := stops_cons (by decide)
    have hnumber := number?_zone zone hstops
    simp [zone?, zoneChars, hzero, char?, hnumber]

theorem noGroup_zoneChars (zone : UInt32) (rest : List Char) :
    NoGroup (zoneChars zone ++ ']' :: rest) := by
  unfold zoneChars
  split <;> exact noGroup_cons (by decide) (by decide) (by decide)

end Perimeter.Net

namespace Perimeter.SocketAddress

open Net Digits

variable {a : SocketAddress}

theorem eq_of_socketV4? {cs rest : List Char} (h : socketV4? cs = some (a, rest)) :
    ∃ octets port, a = ⟨.v4 octets, port, 0⟩ := by
  simp only [socketV4?, Option.bind_eq_bind, Option.bind_eq_some_iff, Option.pure_def,
    Option.some.injEq, Prod.mk.injEq] at h
  obtain ⟨⟨octets, _⟩, -, ⟨port, _⟩, -, rfl, -⟩ := h
  exact ⟨octets, port, rfl⟩

theorem eq_of_socketV6? {cs rest : List Char} (h : socketV6? cs = some (a, rest)) :
    ∃ octets port zone, a = ⟨.v6 octets, port, zone⟩ := by
  simp only [socketV6?, Option.bind_eq_bind, Option.bind_eq_some_iff, Option.pure_def,
    Option.some.injEq, Prod.mk.injEq] at h
  obtain ⟨_, -, ⟨octets, _⟩, -, ⟨zone, _⟩, -, _, -, ⟨port, _⟩, -, rfl, -⟩ := h
  exact ⟨octets, port, zone, rfl⟩

/-- An address with a port that has been read has no zone if it has four numbers. -/
theorem eq_of_parse? {s : String} (h : parse? s = some a) :
    (∃ octets port, a = ⟨.v4 octets, port, 0⟩) ∨
      ∃ octets port zone, a = ⟨.v6 octets, port, zone⟩ := by
  have hwhole : ∀ {read : Option (SocketAddress × List Char)}, whole read = some a →
      read = some (a, []) := by
    intro read h
    unfold whole at h
    split at h
    · rw [Option.some.inj h]
    · exact absurd h (by simp)
  rw [parse?] at h
  split at h
  · rename_i r hr
    exact .inl (eq_of_socketV4? (hr.trans (hwhole h)))
  · exact .inr (eq_of_socketV6? (hwhole h))

theorem parse?_text_of_v4 (octets : Octets 4) (port : UInt16) :
    parse? (text ⟨.v4 octets, port, 0⟩) = some ⟨.v4 octets, port, 0⟩ := by
  have htext : text ⟨.v4 octets, port, 0⟩ = dotted octets.bytes ++ ":" ++ port.toNat.repr := rfl
  have hstops : Stops (isDigit 10) (':' :: Nat.toDigits 10 port.toNat) := stops_cons (by decide)
  have hread := ipv4?_dotted octets hstops
  simp [parse?, htext, socketV4?, hread, port?_toDigits, whole]

theorem parse?_text_of_v6 (octets : Octets 16) (port : UInt16) (zone : UInt32) :
    parse? (text ⟨.v6 octets, port, zone⟩) = some ⟨.v6 octets, port, zone⟩ := by
  have htext : (text ⟨.v6 octets, port, zone⟩).toList = '[' :: ((ipv6Text octets).toList ++
      (zoneChars zone ++ ']' :: ':' :: Nat.toDigits 10 port.toNat)) := by
    have hzone : (if zone = 0 then "" else "%" ++ zone.toNat.repr).toList = zoneChars zone := by
      unfold zoneChars
      split <;> simp
    have hjoined : text ⟨.v6 octets, port, zone⟩ = "[" ++ ipv6Text octets ++
      (if zone = 0 then "" else "%" ++ zone.toNat.repr) ++ "]:" ++ port.toNat.repr := rfl
    rw [hjoined]
    simp only [String.toList_append, hzone]
    simp
  have hopen : ipv4? ('[' :: ((ipv6Text octets).toList ++
      (zoneChars zone ++ ']' :: ':' :: Nat.toDigits 10 port.toNat))) = none :=
    ipv4?_of_stops (stops_cons (by decide))
  have hread := ipv6?_ipv6Text octets
    (noGroup_zoneChars zone (':' :: Nat.toDigits 10 port.toNat))
  simp [parse?, htext, socketV4?, hopen, socketV6?, char?, hread, zone?_zoneChars, port?_toDigits,
    whole]

/-- An address that has been read is read again from its text. -/
theorem parse?_text_of_parse? {s : String} (h : parse? s = some a) : parse? a.text = some a := by
  rcases eq_of_parse? h with ⟨octets, port, rfl⟩ | ⟨octets, port, zone, rfl⟩
  · exact parse?_text_of_v4 octets port
  · exact parse?_text_of_v6 octets port zone

end Perimeter.SocketAddress
