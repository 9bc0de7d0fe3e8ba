import Perimeter.Proofs.Digits
import Perimeter.Toml.Text
import Perimeter.Toml.Written

/-!
# `Perimeter.Proofs.Toml.Text`: a text is read from each of its forms

A text is written with quotes or with apostrophes, one or three on each side, whichever needs the
fewest escapes. Between quotes each character is written as itself or as an escape that is read as
it (`escaped_cases`), between apostrophes all of them are written as themselves.

Three marks end a text of several lines, and up to two more of them may stand right before these.
The writer escapes the third of any run of quotes, and leaves apostrophes only to texts without
such a run, so no run is taken for the end before it is reached (`closing?_of_few`,
`closing?_marks`). All four forms come together in `string?_quotedList`.
-/

set_option autoImplicit false

namespace Perimeter.Toml

open Digits

variable {c : Char} {cs rest : List Char} {mark : Char}

/-! ### Characters between quotes -/

/-- The characters behind a backslash stand for one character. A line does not end there. -/
structure Escapes (e : List Char) (c : Char) : Prop where
  reads : ∀ rest, escape? (e ++ rest) = some (c, rest)
  length : ∀ rest, escapeLength (e ++ rest) = e.length
  onLine : ∀ rest, newline? (skipBlanks (e ++ rest)) = none

/-- Controls without a letter of their own are read from their number. -/
theorem scalar?_control : ∀ n < 128, n < 0x20 ∨ n = 0x7F →
    scalar? ['0', '0', upperDigit (n / 16), upperDigit (n % 16)] = some (Char.ofNat n) := by
  decide +kernel

theorem escapes_control {c : Char} (h : c.toNat < 0x20 ∨ c.toNat = 0x7F) :
    Escapes ['u', '0', '0', upperDigit (c.toNat / 16), upperDigit (c.toNat % 16)] c where
  reads rest := by
    have hscalar := scalar?_control c.toNat (by omega) h
    rw [Char.ofNat_toNat] at hscalar
    simp [escape?, hscalar]
  length _ := rfl
  onLine _ := rfl

/-- What needs no escape is plain, but for the line feed. -/
theorem isPlain_of_not_needsEscape (h : ¬needsEscape c) (hfeed : c ≠ '\n') : isPlain c := by
  by_cases htab : c = '\t'
  · simp [isPlain, htab]
  · simp only [needsEscape, htab, hfeed, ne_eq, not_false_eq_true, decide_true, Bool.and_true,
      Bool.or_eq_true, decide_eq_true_eq, not_or, Nat.not_lt] at h
    simp [isPlain, h]

/-- How a character is written between quotes: as a line feed, as itself, or as an escape. -/
theorem escaped_cases (multiline : Bool) (c : Char) :
    (multiline ∧ c = '\n' ∧ escaped multiline c = ['\n']) ∨
    (isPlain c ∧ c ≠ '\\' ∧ escaped multiline c = [c]) ∨
    ∃ e, escaped multiline c = '\\' :: e ∧ Escapes e c := by
  unfold escaped
  split
  · subst c
    exact .inr (.inr ⟨['b'], rfl, fun _ => rfl, fun _ => rfl, fun _ => rfl⟩)
  split
  · subst c
    exact .inr (.inr ⟨['t'], rfl, fun _ => rfl, fun _ => rfl, fun _ => rfl⟩)
  split
  · subst c
    cases multiline with
    | true => exact .inl ⟨rfl, rfl, rfl⟩
    | false => exact .inr (.inr ⟨['n'], rfl, fun _ => rfl, fun _ => rfl, fun _ => rfl⟩)
  split
  · subst c
    exact .inr (.inr ⟨['f'], rfl, fun _ => rfl, fun _ => rfl, fun _ => rfl⟩)
  split
  · subst c
    exact .inr (.inr ⟨['r'], rfl, fun _ => rfl, fun _ => rfl, fun _ => rfl⟩)
  split
  · subst c
    exact .inr (.inr ⟨['\\'], rfl, fun _ => rfl, fun _ => rfl, fun _ => rfl⟩)
  split
  · rename_i hcontrol
    refine .inr (.inr ⟨_, rfl, escapes_control ?_⟩)
    simp only [needsEscape, Bool.or_eq_true, Bool.and_eq_true, decide_eq_true_eq] at hcontrol
    exact hcontrol.imp_left fun h => h.1.1
  · rename_i htab hfeed _ _ hbackslash hplain
    refine .inr (.inl ⟨isPlain_of_not_needsEscape hplain hfeed, hbackslash, rfl⟩)

/-! ### Texts on one line -/

theorem basicBody_skip (skipped : List Char) (rest : List Char) :
    basicBody skipped.length (skipped ++ rest) = basicBody 0 rest := by
  induction skipped with
  | nil => rfl
  | cons c skipped ih => exact ih

theorem basicBody_escape {e : List Char} (h : Escapes e c) (rest : List Char) :
    basicBody 0 ('\\' :: (e ++ rest)) = before c (basicBody 0 rest) := by
  have hskip : basicBody (escapeLength (e ++ rest)) (e ++ rest) = basicBody 0 rest := by
    rw [h.length, basicBody_skip]
  simp [basicBody, h.reads, hskip]

theorem basicBody_plain (hplain : isPlain c) (hquote : c ≠ '"') (hbackslash : c ≠ '\\')
    (rest : List Char) : basicBody 0 (c :: rest) = before c (basicBody 0 rest) := by
  simp [basicBody, hplain, hquote, hbackslash]

/-- Characters are read from the form for one line, up to the quote behind them. -/
theorem basicBody_basicForm (run : Nat) (cs rest : List Char) :
    basicBody 0 (basicForm false run cs ++ '"' :: rest) = some (cs, rest) := by
  induction cs generalizing run with
  | nil => rfl
  | cons c cs ih =>
    rw [basicForm]
    split
    · subst c
      have hescape : Escapes ['"'] '"' := ⟨fun _ => rfl, fun _ => rfl, fun _ => rfl⟩
      refine (basicBody_escape hescape (basicForm false 0 cs ++ '"' :: rest)).trans ?_
      rw [ih]
      rfl
    · rename_i hquote
      rw [List.append_assoc]
      rcases escaped_cases false c with ⟨h, -, -⟩ | ⟨hplain, hbackslash, heq⟩ | ⟨e, heq, he⟩
      · exact absurd h (by decide)
      · rw [heq, List.singleton_append, basicBody_plain hplain hquote hbackslash, ih]
        rfl
      · rw [heq, List.cons_append, basicBody_escape he, ih]
        rfl

/-- Characters are read as they stand, up to the apostrophe behind them. -/
theorem literalBody_append (hplain : ∀ c ∈ cs, isPlain c) (hmark : '\'' ∉ cs) (rest : List Char) :
    literalBody (cs ++ '\'' :: rest) = some (cs, rest) := by
  induction cs with
  | nil => rfl
  | cons c cs ih =>
    have hc : c ≠ '\'' := fun h => hmark (h ▸ List.mem_cons_self ..)
    have hrest := ih (fun d hd => hplain d (List.mem_cons_of_mem c hd))
      (fun h => hmark (List.mem_cons_of_mem c h))
    rw [List.cons_append, literalBody, if_neg hc, if_pos (hplain c (List.mem_cons_self ..)), hrest]
    rfl

/-! ### Texts on several lines -/

theorem newline?_of_plain (h : isPlain c) (rest : List Char) : newline? (c :: rest) = none := by
  unfold newline?
  split
  · rename_i heq
    rw [(List.cons.inj heq).1] at h
    exact absurd h (by decide)
  · rename_i heq
    rw [(List.cons.inj heq).1] at h
    exact absurd h (by decide)
  · rfl

/-- Three marks. -/
def marks (mark : Char) : List Char := [mark, mark, mark]

theorem markCount_replicate (k : Nat) (h : Stops (· = mark) rest) :
    markCount mark (List.replicate k mark ++ rest) = k := by
  rw [markCount, takeWhile_append _ h, List.length_replicate]
  intro d hd
  simpa using (List.mem_replicate.mp hd).2

/-- Two marks at most are no end if another character follows. -/
theorem closing?_of_few {k : Nat} (hk : k ≤ 2) (h : Stops (· = mark) rest) :
    closing? mark (List.replicate k mark ++ rest) = none := by
  rw [closing?, markCount_replicate k h]
  exact if_neg (by omega)

/-- Two marks at most in front of the last three belong to the text. -/
theorem closing?_marks {k : Nat} (hk : k ≤ 2) (h : Stops (· = mark) rest) :
    closing? mark (List.replicate k mark ++ (marks mark ++ rest)) =
      some (List.replicate k mark, rest) := by
  have hall : List.replicate k mark ++ (marks mark ++ rest) =
      List.replicate (k + 3) mark ++ rest := by
    rw [← List.append_assoc, ← List.replicate_append_replicate]
    rfl
  rw [hall, closing?, markCount_replicate _ h, Nat.min_eq_left (by omega), if_pos (by omega)]
  have hlength : (List.replicate (k + 3) mark).length = k + 3 := List.length_replicate
  simp

theorem multilineBody_skip (skipped : List Char) (rest : List Char) :
    multilineBody mark skipped.length (skipped ++ rest) = multilineBody mark 0 rest := by
  induction skipped with
  | nil => rfl
  | cons c skipped ih => exact ih

theorem multilineBody_closed {read : List Char × List Char} (h : closing? mark cs = some read) :
    multilineBody mark 0 cs = some read := by
  cases cs with
  | nil => exact absurd h (by simp [closing?, markCount])
  | cons c cs => simp [multilineBody, h]

theorem multilineBody_newline (h : mark ≠ '\n') (rest : List Char) :
    multilineBody mark 0 ('\n' :: rest) = before '\n' (multilineBody mark 0 rest) := by
  have hopen : closing? mark ('\n' :: rest) = none := closing?_of_few (k := 0) (by decide)
    (stops_cons (by simpa using h.symm))
  simp [multilineBody, hopen, newline?]

theorem multilineBody_plain (hopen : closing? mark (c :: rest) = none) (hplain : isPlain c)
    (hbackslash : c = '\\' → mark ≠ '"') :
    multilineBody mark 0 (c :: rest) = before c (multilineBody mark 0 rest) := by
  have hline := newline?_of_plain hplain rest
  have hescape : ¬(c = '\\' && mark = '"') := by simpa using hbackslash
  simp [multilineBody, hopen, hline, hplain, hescape]

theorem multilineBody_escape {e : List Char} (h : Escapes e c) (rest : List Char) :
    multilineBody '"' 0 ('\\' :: (e ++ rest)) = before c (multilineBody '"' 0 rest) := by
  have hopen : closing? '"' ('\\' :: (e ++ rest)) = none :=
    closing?_of_few (k := 0) (by decide) (stops_cons (by decide))
  have hskip : multilineBody '"' (escapeLength (e ++ rest)) (e ++ rest) =
      multilineBody '"' 0 rest := by
    rw [h.length, multilineBody_skip]
  have hline : newline? ('\\' :: (e ++ rest)) = none := rfl
  simp [multilineBody, hopen, hline, h.onLine, h.reads, hskip]

/-- The marks that open a list of characters: either there is nothing else, or another character
follows them. -/
theorem front_cases (mark : Char) (cs : List Char) :
    ∃ k, cs = List.replicate k mark ∨
      ∃ d rest, cs = List.replicate k mark ++ d :: rest ∧ d ≠ mark := by
  induction cs with
  | nil => exact ⟨0, .inl rfl⟩
  | cons c cs ih =>
    by_cases hc : c = mark
    · subst hc
      obtain ⟨k, rfl | ⟨d, rest, rfl, hd⟩⟩ := ih
      · exact ⟨k + 1, .inl rfl⟩
      · exact ⟨k + 1, .inr ⟨d, rest, rfl, hd⟩⟩
    · exact ⟨0, .inr ⟨c, cs, rfl, hc⟩⟩

/-- So many quotes stand in front of what is written, once `run` of them have been. -/
theorem basicForm_front {run : Nat} (hrun : run ≤ 2) (cs : List Char) :
    ∃ k, k + run ≤ 2 ∧
      (cs = List.replicate k '"' ∧ basicForm true run cs = List.replicate k '"' ∨
        ∃ d more, basicForm true run cs = List.replicate k '"' ++ d :: more ∧ d ≠ '"') := by
  induction cs generalizing run with
  | nil => exact ⟨0, by omega, .inl ⟨rfl, rfl⟩⟩
  | cons c cs ih =>
    rw [basicForm]
    by_cases hquote : c = '"'
    · subst hquote
      by_cases hlt : run < 2
      · obtain ⟨k, hk, ⟨rfl, heq⟩ | ⟨d, more, heq, hd⟩⟩ := ih (show run + 1 ≤ 2 by omega)
        · exact ⟨k + 1, by omega, .inl ⟨rfl, by simp [hlt, heq, List.replicate_succ]⟩⟩
        · exact ⟨k + 1, by omega, .inr ⟨d, more, by simp [hlt, heq, List.replicate_succ], hd⟩⟩
      · exact ⟨0, by omega, .inr ⟨'\\', _, by simp [hlt]; rfl, by decide⟩⟩
    · rw [if_neg hquote]
      rcases escaped_cases true c with ⟨-, -, heq⟩ | ⟨-, -, heq⟩ | ⟨e, heq, -⟩
      · exact ⟨0, by omega, .inr ⟨'\n', _, by rw [heq]; rfl, by decide⟩⟩
      · exact ⟨0, by omega, .inr ⟨c, _, by rw [heq]; rfl, hquote⟩⟩
      · exact ⟨0, by omega, .inr ⟨'\\', _, by rw [heq]; rfl, by decide⟩⟩

/-- Characters are read from the form for several lines, up to the three quotes behind them. -/
theorem multilineBody_basicForm {run : Nat} (hrun : run ≤ 2) (cs : List Char)
    (hrest : Stops (· = '"') rest) :
    multilineBody '"' 0 (basicForm true run cs ++ (marks '"' ++ rest)) = some (cs, rest) := by
  induction cs generalizing run with
  | nil => exact multilineBody_closed (closing?_marks (k := 0) (by decide) hrest)
  | cons c cs ih =>
    obtain ⟨k, hk, ⟨hcs, heq⟩ | ⟨d, more, heq, hd⟩⟩ := basicForm_front hrun (c :: cs)
    · -- What is left are the quotes that may stand before the last three.
      rw [heq, hcs]
      exact multilineBody_closed (closing?_marks (by omega) hrest)
    have hopen : closing? '"' (basicForm true run (c :: cs) ++ (marks '"' ++ rest)) = none := by
      rw [heq, List.append_assoc]
      exact closing?_of_few (by omega) (stops_cons (by simpa using hd))
    rw [basicForm] at hopen ⊢
    by_cases hquote : c = '"'
    · subst hquote
      by_cases hlt : run < 2
      · simp only [hlt, decide_true, Bool.and_true, if_true] at hopen ⊢
        rw [List.cons_append] at hopen ⊢
        rw [multilineBody_plain hopen (by decide) (by decide), ih (by omega)]
        rfl
      · have hescape : Escapes ['"'] '"' := ⟨fun _ => rfl, fun _ => rfl, fun _ => rfl⟩
        simp only [hlt, decide_false, Bool.and_false, if_true, Bool.false_eq_true, if_false]
        refine (multilineBody_escape hescape (basicForm true 0 cs ++ (marks '"' ++ rest))).trans ?_
        rw [ih (by omega)]
        rfl
    · rw [if_neg hquote] at hopen ⊢
      rcases escaped_cases true c with ⟨-, rfl, heq⟩ | ⟨hplain, hbackslash, heq⟩ | ⟨e, heq, he⟩
      · rw [heq, List.append_assoc, List.singleton_append, multilineBody_newline (by decide),
          ih (by omega)]
        rfl
      · rw [heq, List.append_assoc, List.singleton_append] at hopen ⊢
        rw [multilineBody_plain hopen hplain (fun h => absurd h hbackslash), ih (by omega)]
        rfl
      · rw [heq, List.append_assoc, List.cons_append, multilineBody_escape he, ih (by omega)]
        rfl

theorem le_longestRun (mark : Char) (run k : Nat) (more : List Char) :
    run + k ≤ longestRun mark run (List.replicate k mark ++ more) := by
  induction k generalizing run with
  | zero =>
    induction more generalizing run with
    | nil => exact Nat.le_refl run
    | cons c more ih =>
      show run ≤ longestRun mark run (c :: more)
      rw [longestRun]
      split
      · have hle := ih (run + 1)
        simp only [List.replicate_zero, List.nil_append] at hle
        omega
      · exact Nat.le_max_left ..
  | succ k ih =>
    have hle := ih (run + 1)
    rw [List.replicate_succ, List.cons_append, longestRun, if_pos rfl]
    omega

theorem longestRun_pos {cs : List Char} (h : mark ∈ cs) (run : Nat) :
    0 < longestRun mark run cs := by
  induction cs generalizing run with
  | nil => exact absurd h (by simp)
  | cons c cs ih =>
    rw [longestRun]
    split
    · have hle := le_longestRun mark (run + 1) 0 cs
      simp only [List.replicate_zero, List.nil_append] at hle
      omega
    · rename_i hc
      have hin : mark ∈ cs := (List.mem_cons.mp h).resolve_left fun heq => hc heq.symm
      exact Nat.lt_of_lt_of_le (ih hin 0) (Nat.le_max_right ..)

/-- Characters are read as they stand, up to the three apostrophes behind them. -/
theorem multilineBody_literal {run : Nat} {cs : List Char} (hrun : longestRun '\'' run cs ≤ 2)
    (hplain : ∀ c ∈ cs, ¬needsEscape c) (hrest : Stops (· = '\'') rest) :
    multilineBody '\'' 0 (cs ++ (marks '\'' ++ rest)) = some (cs, rest) := by
  induction cs generalizing run with
  | nil => exact multilineBody_closed (closing?_marks (k := 0) (by decide) hrest)
  | cons c cs ih =>
    have hmore : ∀ d ∈ cs, ¬needsEscape d := fun d hd => hplain d (List.mem_cons_of_mem c hd)
    obtain ⟨k, hcs | ⟨d, more, hcs, hd⟩⟩ := front_cases '\'' (c :: cs)
    · -- What is left are the apostrophes that may stand before the last three.
      have hk := le_longestRun '\'' run k []
      rw [List.append_nil, ← hcs] at hk
      rw [hcs]
      exact multilineBody_closed (closing?_marks (by omega) hrest)
    have hopen : closing? '\'' (c :: (cs ++ (marks '\'' ++ rest))) = none := by
      have hk := le_longestRun '\'' run k (d :: more)
      rw [← hcs] at hk
      rw [← List.cons_append, hcs, List.append_assoc]
      exact closing?_of_few (by omega) (stops_cons (by simpa using hd))
    rw [longestRun] at hrun
    by_cases hfeed : c = '\n'
    · subst hfeed
      rw [if_neg (by decide)] at hrun
      rw [List.cons_append, multilineBody_newline (by decide),
        ih (Nat.le_trans (Nat.le_max_right ..) hrun) hmore]
      rfl
    · have hrun' : ∃ run, longestRun '\'' run cs ≤ 2 := by
        split at hrun
        · exact ⟨_, hrun⟩
        · exact ⟨0, Nat.le_trans (Nat.le_max_right ..) hrun⟩
      obtain ⟨run', hrun'⟩ := hrun'
      have hc := isPlain_of_not_needsEscape (hplain c (List.mem_cons_self ..)) hfeed
      rw [List.cons_append, multilineBody_plain hopen hc (fun _ => by decide), ih hrun' hmore]
      rfl

/-! ### Texts between marks -/

theorem newline?_of_not_mem (h : '\n' ∉ cs.take 2) : newline? cs = none := by
  unfold newline?
  split
  · exact absurd (List.mem_cons_self ..) h
  · exact absurd (List.mem_cons_of_mem _ (List.mem_cons_self ..)) h
  · rfl

/-- A line end in front is dropped if the form has put it there, and there is no other. -/
theorem skipNewline_enclosed (hmark : mark ≠ '\n') (cs rest : List Char) :
    skipNewline ((if cs.contains '\n' then ['\n'] else []) ++ (cs ++ (marks mark ++ rest))) =
      cs ++ (marks mark ++ rest) := by
  split
  · rfl
  · rename_i hfeed
    have hnone : newline? (cs ++ (marks mark ++ rest)) = none := by
      refine newline?_of_not_mem fun hmem => ?_
      rw [← List.append_assoc, List.take_append_of_le_length (by simp [marks])] at hmem
      rcases List.mem_append.mp (List.mem_of_mem_take hmem) with hin | hin
      · exact hfeed (List.contains_iff_mem.mpr hin)
      · simp only [marks, List.mem_cons, List.not_mem_nil, or_false, or_self] at hin
        exact hmark hin.symm
    rw [List.nil_append, skipNewline, hnone, Option.getD_none]

theorem enclosed_one (cs rest : List Char) :
    enclosed [mark] cs ++ rest = mark :: (cs ++ mark :: rest) := by
  simp [enclosed]

theorem enclosed_three (cs rest : List Char) :
    enclosed [mark, mark, mark] cs ++ rest = mark :: mark :: mark ::
      ((if cs.contains '\n' then ['\n'] else []) ++ (cs ++ (marks mark ++ rest))) := by
  simp [enclosed, marks]

theorem string?_eq_lineString? (h : ∀ more, cs ≠ '"' :: '"' :: '"' :: more)
    (h' : ∀ more, cs ≠ '\'' :: '\'' :: '\'' :: more) : string? cs = lineString? cs := by
  unfold string?
  split
  · exact absurd rfl (h _)
  · exact absurd rfl (h' _)
  · rfl

theorem basicForm_ne_quote {more : List Char} (run : Nat) (cs : List Char) :
    basicForm false run cs ≠ '"' :: more := by
  cases cs with
  | nil => simp [basicForm]
  | cons c cs =>
    rw [basicForm]
    split
    · simp
    · rename_i hquote
      rcases escaped_cases false c with ⟨h, -, -⟩ | ⟨-, -, heq⟩ | ⟨e, heq, -⟩
      · exact absurd h (by decide)
      · simp [heq, hquote]
      · simp [heq]

section
variable (hquote : Stops (· = '"') rest) (hapostrophe : Stops (· = '\'') rest)
include hquote

theorem string?_basicForm :
    string? (enclosed ['"'] (basicForm false 0 cs) ++ rest) = some (String.ofList cs, rest) := by
  rw [enclosed_one, string?_eq_lineString? _ (by simp)]
  · simp [lineString?, basicBody_basicForm, asText]
  · intro more h
    have hbehind := (List.cons.inj h).2
    cases hform : basicForm false 0 cs with
    | nil =>
      rw [hform, List.nil_append] at hbehind
      rw [(List.cons.inj hbehind).2] at hquote
      exact absurd (hquote _ rfl) (by decide)
    | cons d body =>
      rw [hform] at hbehind
      rw [(List.cons.inj hbehind).1] at hform
      exact basicForm_ne_quote 0 cs hform

theorem string?_basicLines :
    string? (enclosed ['"', '"', '"'] (basicForm true 0 cs) ++ rest) =
      some (String.ofList cs, rest) := by
  rw [enclosed_three]
  show asText (multilineBody '"' 0 (skipNewline _)) = _
  rw [skipNewline_enclosed (by decide), multilineBody_basicForm (by decide) cs hquote]
  rfl

omit hquote
include hapostrophe

theorem string?_literal (hplain : ∀ c ∈ cs, isPlain c) (hmark : '\'' ∉ cs) :
    string? (enclosed ['\''] cs ++ rest) = some (String.ofList cs, rest) := by
  rw [enclosed_one, string?_eq_lineString? (by simp)]
  · simp [lineString?, literalBody_append hplain hmark, asText]
  · intro more h
    have hbehind := (List.cons.inj h).2
    cases cs with
    | nil =>
      rw [List.nil_append] at hbehind
      rw [(List.cons.inj hbehind).2] at hapostrophe
      exact absurd (hapostrophe _ rfl) (by decide)
    | cons d cs => exact hmark ((List.cons.inj hbehind).1 ▸ List.mem_cons_self ..)

theorem string?_literalLines (hrun : longestRun '\'' 0 cs ≤ 2) (hplain : ∀ c ∈ cs, ¬needsEscape c) :
    string? (enclosed ['\'', '\'', '\''] cs ++ rest) = some (String.ofList cs, rest) := by
  rw [enclosed_three]
  show asText (multilineBody '\'' 0 (skipNewline _)) = _
  rw [skipNewline_enclosed (by decide), multilineBody_literal hrun hplain hapostrophe]
  rfl

include hquote

/-- A text is read from its form, if no mark follows. -/
theorem string?_quotedList (cs : List Char) :
    string? (quotedList cs ++ rest) = some (String.ofList cs, rest) := by
  unfold quotedList
  extract_lets controls newline backslash quotes apostrophes threeQuotes
  split
  · exact string?_basicForm hquote
  split
  · rename_i h
    simp only [controls, newline, apostrophes, Bool.and_eq_true, Bool.not_eq_true',
      decide_eq_true_eq, List.any_eq_false, List.contains_eq_mem, decide_eq_false_iff_not] at h
    obtain ⟨⟨hcontrols, hfeed⟩, hmarks⟩ := h
    refine string?_literal hapostrophe (fun c hc => ?_) fun hmark => ?_
    · exact isPlain_of_not_needsEscape (hcontrols c hc) fun heq => hfeed (heq ▸ hc)
    · exact absurd hmarks (Nat.pos_iff_ne_zero.mp (longestRun_pos hmark 0))
  split
  · exact string?_basicLines hquote
  split
  · rename_i h
    simp only [controls, apostrophes, Bool.and_eq_true, Bool.not_eq_true', decide_eq_true_eq,
      List.any_eq_false] at h
    exact string?_literalLines hapostrophe (Nat.le_of_lt_succ h.2) h.1
  split
  · exact string?_basicLines hquote
  · exact string?_basicForm hquote

end

end Perimeter.Toml
