import Perimeter.Proofs.Toml.Value

/-!
# `Perimeter.Proofs.Toml.Lines`: the lines of a file are read as they were written

A line is a name with its value (`line?_pair`), a header (`line?_header`) or the header of an
element (`line?_element`). What is read does not depend on what comes behind the line, which is
how lines are put together: `Spells` says of characters that they are read as some lines whatever
follows. A table whose names need no quotes and whose values stand on a line is a section
(`IsSection`), and both kinds of header spell theirs with its members behind
(`spells_header`, `spells_element`).
-/

set_option autoImplicit false

namespace Perimeter.Toml

open Digits

variable {c : Char} {name : String} {rest : List Char}

/-! ### Names -/

/-- A name that needs no quotes. -/
def isBareName (name : String) : Bool := name ≠ "" && name.toList.all isBare

theorem written_of_bare (h : isBareName name) : written name = name := if_pos h

/-- Letters, digits, low lines and hyphens are no blanks, and no marks of any kind. -/
theorem isBare_spec (h : isBare c) : c ≠ '"' ∧ c ≠ '\'' ∧ c ≠ '[' ∧ c ≠ '#' ∧ c ≠ '\n' ∧
    c ≠ '\r' ∧ c ≠ startMark ∧ isBlank c = false := by
  have hne : ∀ d, isBare d = false → c ≠ d := by
    rintro d hd rfl
    rw [hd] at h
    exact absurd h (by decide)
  refine ⟨hne _ (by decide), hne _ (by decide), hne _ (by decide), hne _ (by decide),
    hne _ (by decide), hne _ (by decide), hne _ (by decide), ?_⟩
  simp [isBlank, hne ' ' (by decide), hne '\t' (by decide)]

theorem exists_bare (h : isBareName name) : ∃ c more, name.toList = c :: more ∧ isBare c := by
  simp only [isBareName, ne_eq, Bool.and_eq_true, decide_eq_true_eq, List.all_eq_true] at h
  obtain ⟨c, more, hchars⟩ := List.exists_cons_of_ne_nil (l := name.toList)
    (by simpa using h.1)
  exact ⟨c, more, hchars, h.2 c (hchars ▸ List.mem_cons_self ..)⟩

theorem skipBlanks_of_ne (h : isBlank c = false) (rest : List Char) :
    skipBlanks (c :: rest) = c :: rest :=
  List.dropWhile_cons_of_neg (by simp [h])

theorem name?_append (h : isBareName name) (hrest : Stops isBare rest) :
    name? (name.toList ++ rest) = some (name, rest) := by
  obtain ⟨c, more, hchars, hc⟩ := exists_bare h
  obtain ⟨hquote, hapostrophe, -⟩ := isBare_spec hc
  have hline : lineString? (name.toList ++ rest) = none := by
    rw [hchars, List.cons_append, lineString?.eq_3 _ (fun _ h => hquote (List.cons.inj h).1)
      (fun _ h => hapostrophe (List.cons.inj h).1)]
  have hall : ∀ d ∈ name.toList, isBare d := by
    simp only [isBareName, ne_eq, Bool.and_eq_true, decide_eq_true_eq, List.all_eq_true] at h
    exact h.2
  have hnonempty : ¬name.toList.isEmpty := by simp [hchars]
  simp [name?, hline, takeWhile_append hall hrest, dropWhile_append hall hrest, hnonempty]

/-- A path of one name is read, with the blanks behind it. -/
theorem path?_append (h : isBareName name) (rest : List Char) (hrest : Stops isBare rest)
    (hdot : Stops (· = '.') (skipBlanks rest)) :
    path? (name.toList ++ rest) = some ([name], skipBlanks rest) := by
  have hname := name?_append h hrest
  obtain ⟨c, more, hchars, hc⟩ := exists_bare h
  have hblanks : skipBlanks (name.toList ++ rest) = name.toList ++ rest := by
    rw [hchars, List.cons_append, skipBlanks_of_ne (isBare_spec hc).2.2.2.2.2.2.2]
  show pathUpTo (78 + 1) _ = _
  rw [pathUpTo, hblanks]
  simp only [hname, Option.bind_eq_bind, Option.bind_some]
  split
  · rename_i heq
    exact absurd (hdot '.' (by rw [heq]; rfl)) (by decide)
  · rfl

/-! ### Lines that say something -/

theorem toList_pairLine (h : isBareName name) (v : Value) :
    (pairLine name v).toList =
      name.toList ++ ' ' :: '=' :: ' ' :: (v.inline.toList ++ ['\n']) := by
  simp [pairLine, written_of_bare h]

theorem skipBlanks_inline {v : Value} (h : v.IsPlain) (rest : List Char) :
    skipBlanks (v.inline.toList ++ rest) = v.inline.toList ++ rest := by
  rcases h with h | ⟨items, rfl, -⟩
  · obtain ⟨c, more, hchars, hc⟩ := Value.exists_opening h
    rw [hchars, List.cons_append, skipBlanks_of_ne (isOpening_spec hc).2.2.2.2.2.2]
  · obtain ⟨more, hchars⟩ := Value.exists_bracket items
    rw [hchars, List.cons_append, skipBlanks_of_ne (by decide)]

/-- A name with its value is read as such. -/
theorem line?_pair (h : isBareName name) {v : Value} (hv : v.IsPlain) (rest : List Char) :
    line? (name.toList ++ ' ' :: '=' :: ' ' :: (v.inline.toList ++ '\n' :: rest)) =
      some (.pair [name] v, '\n' :: rest) := by
  have hpath := path?_append h (' ' :: '=' :: ' ' :: (v.inline.toList ++ '\n' :: rest))
    (stops_cons (by decide)) (stops_cons (c := '=') (by decide))
  have hequals : skipBlanks (' ' :: '=' :: ' ' :: (v.inline.toList ++ '\n' :: rest)) =
      '=' :: ' ' :: (v.inline.toList ++ '\n' :: rest) := rfl
  have hvalue : value? maxDepth (v.inline.toList ++ '\n' :: rest) = some (v, '\n' :: rest) :=
    Value.value?_inline hv ⟨'\n', rest, rfl, .inl rfl⟩ 78
  have hblank : skipBlanks (' ' :: (v.inline.toList ++ '\n' :: rest)) =
      v.inline.toList ++ '\n' :: rest := skipBlanks_inline hv _
  obtain ⟨c, more, hchars, hc⟩ := exists_bare h
  have hbracket := (isBare_spec hc).2.2.1
  rw [line?.eq_3 _ ?element ?header]
  case element =>
    intro _ heq
    rw [hchars] at heq
    exact hbracket (List.cons.inj heq).1
  case header =>
    intro _ heq
    rw [hchars] at heq
    exact hbracket (List.cons.inj heq).1
  simp [pair?, hpath, hequals, expect, hblank, hvalue]

theorem line?_header (h : isBareName name) (rest : List Char) :
    line? ('[' :: (name.toList ++ ']' :: rest)) = some (.header [name], rest) := by
  have hpath := path?_append h (']' :: rest) (stops_cons (by decide))
    (stops_cons (c := ']') (by decide))
  have hend : skipBlanks (']' :: rest) = ']' :: rest := rfl
  obtain ⟨c, more, hchars, hc⟩ := exists_bare h
  rw [line?.eq_2 _ ?element]
  case element =>
    intro _ heq
    rw [hchars] at heq
    exact (isBare_spec hc).2.2.1 (List.cons.inj heq).1
  simp [hpath, hend, expect]

theorem line?_element (h : isBareName name) (rest : List Char) :
    line? ('[' :: '[' :: (name.toList ++ ']' :: ']' :: rest)) = some (.element [name], rest) := by
  have hpath := path?_append h (']' :: ']' :: rest) (stops_cons (by decide))
    (stops_cons (c := ']') (by decide))
  have hend : skipBlanks (']' :: ']' :: rest) = ']' :: ']' :: rest := rfl
  simp [line?, hpath, hend, expect]

/-! ### Sequences of lines -/

/-- Characters are read as lines, whatever follows them. -/
def Spells (cs : List Char) (lines : List Line) : Prop :=
  ∀ rest fuel, (cs ++ rest).length ≤ fuel → ∃ left, rest.length ≤ left ∧
    lines? fuel (cs ++ rest) = (lines? left rest).map (lines ++ ·)

theorem spells_nil : Spells [] [] := by
  intro rest fuel hfuel
  exact ⟨fuel, hfuel, by simp⟩

theorem Spells.append {cs cs' : List Char} {lines lines' : List Line} (h : Spells cs lines)
    (h' : Spells cs' lines') : Spells (cs ++ cs') (lines ++ lines') := by
  intro rest fuel hfuel
  rw [List.append_assoc] at hfuel ⊢
  obtain ⟨left, hleft, hread⟩ := h (cs' ++ rest) fuel hfuel
  obtain ⟨left', hleft', hread'⟩ := h' rest left hleft
  refine ⟨left', hleft', ?_⟩
  rw [hread, hread']
  cases lines? left' rest <;> simp

theorem spells_blank : Spells ['\n'] [] := by
  intro rest fuel hfuel
  obtain ⟨fuel, rfl⟩ : ∃ n, fuel = n + 1 := ⟨fuel - 1, by simp at hfuel; omega⟩
  refine ⟨fuel, by simpa using hfuel, ?_⟩
  have hend : lineEnd? ('\n' :: rest) = some rest := rfl
  simp [lines?, skipBlanks_of_ne, isBlank, hend]

/-- A character that begins a line that says something. -/
def isLineOpening (c : Char) : Bool := isBare c || c = '['

theorem isLineOpening_spec (h : isLineOpening c) :
    c ≠ '#' ∧ c ≠ '\n' ∧ c ≠ '\r' ∧ c ≠ startMark ∧ isBlank c = false := by
  simp only [isLineOpening, Bool.or_eq_true, decide_eq_true_eq] at h
  rcases h with h | rfl
  · obtain ⟨-, -, -, hcomment, hfeed, hreturn, hstart, hblank⟩ := isBare_spec h
    exact ⟨hcomment, hfeed, hreturn, hstart, hblank⟩
  · decide

/-- A line that says something is no end of one. -/
theorem lineEnd?_of_opening (h : isLineOpening c) (rest : List Char) :
    lineEnd? (c :: rest) = none := by
  obtain ⟨hcomment, hfeed, hreturn, -, hblank⟩ := isLineOpening_spec h
  have hskip : skipComment (c :: rest) = c :: rest :=
    skipComment.eq_2 _ fun _ h => hcomment (List.cons.inj h).1
  rw [lineEnd?, skipBlanks_of_ne hblank, hskip]
  exact newline?.eq_3 _ (fun _ h => hfeed (List.cons.inj h).1)
    (fun _ h => hreturn (List.cons.inj h).1)

/-- A line is read if it says something and begins so. -/
theorem spells_line (cs : List Char) (line : Line)
    (hread : ∀ rest, line? (cs ++ '\n' :: rest) = some (line, '\n' :: rest))
    (hopening : ∃ c more, cs = c :: more ∧ isLineOpening c) : Spells (cs ++ ['\n']) [line] := by
  intro rest fuel hfuel
  obtain ⟨c, more, rfl, hc⟩ := hopening
  obtain ⟨fuel, rfl⟩ : ∃ n, fuel = n + 1 := ⟨fuel - 1, by simp at hfuel; omega⟩
  refine ⟨fuel, by simp at hfuel; omega, ?_⟩
  have hblank := (isLineOpening_spec hc).2.2.2.2
  have hopen := lineEnd?_of_opening hc (more ++ '\n' :: rest)
  have hend : lineEnd? ('\n' :: rest) = some rest := rfl
  have hline := hread rest
  simp only [List.cons_append, List.append_assoc, List.nil_append] at hline ⊢
  cases hrest : lines? fuel rest <;>
    simp [lines?, skipBlanks_of_ne hblank, hopen, hline, hend, hrest]

/-- Whatever is spelled by all of a file is what the file is read as. -/
theorem lines?_of_spells {cs : List Char} {lines : List Line} (h : Spells cs lines) :
    lines? cs.length cs = some lines := by
  obtain ⟨left, -, hread⟩ := h [] cs.length (by simp)
  have hnil : lines? left [] = some [] := by
    cases left <;> rfl
  rw [List.append_nil, hnil] at hread
  simpa using hread

/-! ### Sections -/

/-- Names with their values, line by line. -/
def pairs (members : Table) : List Line := members.map fun m => .pair [m.1] m.2

/-- The members of a section: all names are different and bare, and all values stand on a line. -/
structure IsSection (members : Table) : Prop where
  bare : ∀ m ∈ members, isBareName m.1
  distinct : (members.map Prod.fst).Nodup
  plain : ∀ m ∈ members, m.2.IsPlain

theorem spells_pairLine (h : isBareName name) {v : Value} (hv : v.IsPlain) :
    Spells (pairLine name v).toList [.pair [name] v] := by
  obtain ⟨c, more, hchars, hc⟩ := exists_bare h
  have hline := spells_line (name.toList ++ ' ' :: '=' :: ' ' :: v.inline.toList)
    (.pair [name] v) (fun rest => by simpa using line?_pair h hv rest)
    ⟨c, _, by rw [hchars]; rfl, by simp [isLineOpening, hc]⟩
  rw [toList_pairLine h]
  simpa using hline

theorem spells_body {members : Table} (h : ∀ m ∈ members, isBareName m.1 ∧ m.2.IsPlain) :
    Spells (body members).toList (pairs members) := by
  induction members with
  | nil => exact spells_nil
  | cons m members ih =>
    obtain ⟨hbare, hplain⟩ := h m (List.mem_cons_self ..)
    have hbody : body (m :: members) = pairLine m.1 m.2 ++ body members := by
      simp [body]
    rw [hbody, String.toList_append]
    exact (spells_pairLine hbare hplain).append (ih fun m' hm => h m' (List.mem_cons_of_mem m hm))

theorem IsSection.spells_body {members : Table} (h : IsSection members) :
    Spells (body members).toList (pairs members) :=
  Toml.spells_body fun m hm => ⟨h.bare m hm, h.plain m hm⟩

theorem spells_header (h : isBareName name) {members : Table} (hmembers : IsSection members) :
    Spells ("[" ++ written name ++ "]\n" ++ body members).toList
      (.header [name] :: pairs members) := by
  have hline := spells_line ('[' :: (name.toList ++ [']'])) (.header [name])
    (fun rest => by simpa using line?_header h ('\n' :: rest)) ⟨'[', _, rfl, by decide⟩
  have hboth := hline.append hmembers.spells_body
  rw [written_of_bare h]
  simpa using hboth

theorem spells_element (h : isBareName name) {members : Table} (hmembers : IsSection members) :
    Spells ("[[" ++ written name ++ "]]\n" ++ body members).toList
      (.element [name] :: pairs members) := by
  have hline := spells_line ('[' :: '[' :: (name.toList ++ [']', ']']))
    (.element [name]) (fun rest => by simpa using line?_element h ('\n' :: rest))
    ⟨'[', _, rfl, by decide⟩
  have hboth := hline.append hmembers.spells_body
  rw [written_of_bare h]
  simpa using hboth

end Perimeter.Toml
