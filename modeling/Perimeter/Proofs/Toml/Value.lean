import Perimeter.Proofs.Toml.Text
import Perimeter.Toml.Document

/-!
# `Perimeter.Proofs.Toml.Value`: a value is read from what is written for it

The reader tries one kind of value after the other, dates and fractions before integers. The
digits of an integer could begin either of them, so what follows a value matters: its line ends
there, or its place in a list (`Ends`).

Values without others come first (`value?_scalar`). A list of several has a line for each item,
with a comma behind it (`arrayItems_itemLines`). `Value.value?_inline` is about all values that
stand on a line.
-/

set_option autoImplicit false

namespace Perimeter.Toml

open Digits

variable {c : Char} {cs rest : List Char}

/-! ### What follows a value -/

/-- A value ends here: with its line, or with its place in a list. -/
def Ends (rest : List Char) : Prop := ∃ c more, rest = c :: more ∧ (c = '\n' ∨ c = ',' ∨ c = ']')

theorem Ends.stops {p : Char → Bool} (h : Ends rest) (hfeed : p '\n' = false)
    (hcomma : p ',' = false) (hbracket : p ']' = false) : Stops p rest := by
  obtain ⟨c, more, rfl, rfl | rfl | rfl⟩ := h
  · exact stops_cons hfeed
  · exact stops_cons hcomma
  · exact stops_cons hbracket

/-! ### Numbers -/

theorem knows_hexValue : Knows hexValue? 10 := by
  unfold Knows
  decide

theorem isDigit_of_mem_toDigits {n : Nat} (h : c ∈ Nat.toDigits 10 n) : isDigit 10 c := by
  obtain ⟨d, hd, rfl⟩ := exists_of_mem_toDigits (by decide) h
  simp [isDigit, knows_hexValue d hd, hd]

theorem moreDigits_append {digits : List Char} (hdigits : ∀ c ∈ digits, isDigit 10 c)
    (hstops : Stops (isDigit 10) rest) (hline : Stops (· = '_') rest) :
    moreDigits 10 (digits ++ rest) = some (digits, rest) := by
  induction digits with
  | nil =>
    cases rest with
    | nil => rfl
    | cons c rest =>
      have hc : c ≠ '_' := by simpa using hline c rfl
      rw [List.nil_append, moreDigits, if_neg (by simp [hstops c rfl]), if_neg hc]
  | cons c digits ih =>
    rw [List.cons_append, moreDigits, if_pos (hdigits c (List.mem_cons_self ..)),
      ih fun d hd => hdigits d (List.mem_cons_of_mem c hd)]
    rfl

/-- The digits of a number are read, up to the end of the value. -/
theorem wholeDigits?_toDigits (n : Nat) (hrest : Ends rest) :
    wholeDigits? (Nat.toDigits 10 n ++ rest) = some (Nat.toDigits 10 n, rest) := by
  have hstops := hrest.stops (p := isDigit 10) (by decide) (by decide) (by decide)
  have hline := hrest.stops (p := (· = '_')) (by decide) (by decide) (by decide)
  obtain ⟨d, digits, hdigits⟩ := List.exists_cons_of_ne_nil (Nat.toDigits_ne_nil (n := n) (b := 10))
  by_cases hzero : d = '0'
  · -- Nothing follows a leading zero.
    subst hzero
    obtain rfl : n = 0 := toDigits_of_head_zero (b := 10) (by decide) (by rw [hdigits]; rfl)
    rfl
  · have hall : ∀ c ∈ d :: digits, isDigit 10 c := fun c hc =>
      isDigit_of_mem_toDigits (hdigits ▸ hc)
    have hmore := moreDigits_append (fun c hc => hall c (List.mem_cons_of_mem d hc)) hstops hline
    rw [hdigits, List.cons_append, wholeDigits?.eq_2 _ (by simpa using hzero), digits?,
      if_pos (hall d (List.mem_cons_self ..)), hmore]
    rfl

theorem isDigit_of_toDigits_append {n : Nat} {more : List Char}
    (h : Nat.toDigits 10 n ++ rest = c :: more) : isDigit 10 c := by
  obtain ⟨d, digits, hdigits⟩ := List.exists_cons_of_ne_nil (Nat.toDigits_ne_nil (n := n) (b := 10))
  rw [hdigits] at h
  rw [← (List.cons.inj h).1]
  exact isDigit_of_mem_toDigits (hdigits ▸ List.mem_cons_self ..)

theorem numberOf_toDigits (n : Nat) : numberOf 10 (Nat.toDigits 10 n) = n :=
  foldl_toDigits (by decide) knows_hexValue

/-! ### Numbers are no dates and no fractions -/

theorem expect_of_stops {mark : Char} (h : Stops (· = mark) cs) : expect mark cs = none := by
  cases cs with
  | nil => rfl
  | cons c cs => exact if_neg (by simpa using h c rfl)

/-- So many digits are not read with a mark behind them where no mark follows the digits. -/
theorem expect_of_fixed? {digits more : List Char} {count n : Nat} {mark : Char}
    (hdigits : ∀ c ∈ digits, isDigit 10 c) (hmark : isDigit 10 mark = false)
    (hstops : Stops (isDigit 10) rest) (hno : Stops (· = mark) rest)
    (h : fixed? count (digits ++ rest) = some (n, more)) : expect mark more = none := by
  simp only [fixed?, Option.ite_none_right_eq_some, Bool.and_eq_true, decide_eq_true_eq,
    List.all_eq_true, Option.some.injEq, Prod.mk.injEq] at h
  obtain ⟨⟨hlength, hall⟩, -, rfl⟩ := h
  have hle : count ≤ digits.length := by
    by_contra hlt
    cases rest with
    | nil =>
      rw [List.append_nil, List.length_take] at hlength
      omega
    | cons c rest =>
      -- The first character behind the digits would be one of those read.
      obtain ⟨k, hk⟩ : ∃ k, count - digits.length = k + 1 := ⟨count - digits.length - 1, by omega⟩
      have hc := hall c (by rw [List.take_append, hk, List.take_succ_cons]; simp)
      exact absurd hc (by simp [hstops c rfl])
  rw [List.drop_append_of_le_length hle]
  refine expect_of_stops ?_
  cases hleft : digits.drop count with
  | nil => exact hno
  | cons d left =>
    have hd := hdigits d (List.mem_of_mem_drop (hleft ▸ List.mem_cons_self ..))
    refine stops_cons (decide_eq_false ?_)
    rintro rfl
    rw [hmark] at hd
    exact absurd hd (by decide)

theorem fixed?_of_head (h : isDigit 10 c = false) (count : Nat) :
    fixed? (count + 1) (c :: rest) = none := by
  simp [fixed?, h]

/-- An integer in digits. -/
def integerChars (n : Int64) : List Char :=
  if n.toInt < 0 then '-' :: Nat.toDigits 10 n.toInt.natAbs else Nat.toDigits 10 n.toInt.natAbs

theorem toList_toString (n : Int64) : (toString n.toInt).toList = integerChars n := by
  rw [Int.toString_eq_repr, Int.repr_eq_if, integerChars]
  by_cases h : n.toInt < 0
  · have habs : (-n.toInt).toNat = n.toInt.natAbs := by omega
    rw [if_neg (by omega), if_pos h, String.toList_append, Nat.toList_repr, habs]
    rfl
  · have habs : n.toInt.toNat = n.toInt.natAbs := by omega
    rw [if_pos (by omega), if_neg h, Nat.toList_repr, habs]

/-- An integer is no date and no time of day. -/
theorem moment?_integer (n : Int64) (hrest : Ends rest) :
    moment? (integerChars n ++ rest) = none := by
  have hnone : ∀ count mark, isDigit 10 mark = false → Stops (· = mark) rest → ∀ read,
      fixed? (count + 1) (integerChars n ++ rest) = some read → expect mark read.2 = none := by
    intro count mark hmark hno read hread
    rw [integerChars] at hread
    split at hread
    · rw [List.cons_append, fixed?_of_head (by decide)] at hread
      exact absurd hread (by simp)
    · exact expect_of_fixed? (fun c => isDigit_of_mem_toDigits) hmark
        (hrest.stops (by decide) (by decide) (by decide)) hno hread
  have hdate : date? (integerChars n ++ rest) = none := by
    cases hread : fixed? 4 (integerChars n ++ rest) with
    | none => simp [date?, hread]
    | some read =>
      have hhyphen := hrest.stops (p := (· = '-')) (by decide) (by decide) (by decide)
      have hmark := hnone 3 '-' (by decide) hhyphen read hread
      simp [date?, hread, hmark]
  have htime : timeOfDay? (integerChars n ++ rest) = none := by
    cases hread : fixed? 2 (integerChars n ++ rest) with
    | none => simp [timeOfDay?, hread]
    | some read =>
      have hcolon := hrest.stops (p := (· = ':')) (by decide) (by decide) (by decide)
      have hmark := hnone 1 ':' (by decide) hcolon read hread
      simp [timeOfDay?, hread, hmark]
  rw [moment?, hdate, htime]
  rfl

/-- The sign of an integer, and its digits. -/
theorem sign_integer (n : Int64) (rest : List Char) :
    sign (integerChars n ++ rest) =
      (decide (n.toInt < 0), Nat.toDigits 10 n.toInt.natAbs ++ rest) := by
  rw [integerChars]
  split
  · rename_i h
    simp [sign, h]
  · rename_i h
    rw [sign.eq_3 _ (fun more heq => ?minus) (fun more heq => ?plus), decide_eq_false h]
    case minus => exact absurd (isDigit_of_toDigits_append heq) (by decide)
    case plus => exact absurd (isDigit_of_toDigits_append heq) (by decide)

/-- An integer is no number with a fraction or an exponent. -/
theorem float?_integer (n : Int64) (hrest : Ends rest) :
    float? (integerChars n ++ rest) = none := by
  have hwhole := wholeDigits?_toDigits n.toInt.natAbs hrest
  have hfraction : fraction? rest = none := by
    obtain ⟨c, more, rfl, rfl | rfl | rfl⟩ := hrest <;> rfl
  have hexponent : exponent? rest = none := by
    obtain ⟨c, more, rfl, rfl | rfl | rfl⟩ := hrest <;> rfl
  have hdecimal : decimal? (integerChars n ++ rest) = none := by
    simp [decimal?, sign_integer, hwhole, hfraction, hexponent]
  have hspecial : special? (integerChars n ++ rest) = none := by
    rw [special?, sign_integer]
    split
    · exact absurd (isDigit_of_toDigits_append ‹_›) (by decide)
    · exact absurd (isDigit_of_toDigits_append ‹_›) (by decide)
    · rfl
  rw [float?, hdecimal, hspecial]
  rfl

theorem exists_first (n : Int64) :
    ∃ c more, integerChars n = c :: more ∧ (c = '-' ∨ isDigit 10 c) := by
  rw [integerChars]
  split
  · exact ⟨'-', _, rfl, .inl rfl⟩
  · obtain ⟨d, digits, hdigits⟩ := List.exists_cons_of_ne_nil
      (Nat.toDigits_ne_nil (n := n.toInt.natAbs) (b := 10))
    exact ⟨d, digits, hdigits, .inr (isDigit_of_mem_toDigits (hdigits ▸ List.mem_cons_self ..))⟩

/-- No mark of another base stands behind the first digit of an integer. -/
theorem integerChars_ne_based {mark : Char} {more : List Char} (n : Int64)
    (hno : Stops (· = mark) rest) : integerChars n ++ rest ≠ '0' :: mark :: more := by
  intro h
  rw [integerChars] at h
  split at h
  · exact absurd (List.cons.inj h).1 (by decide)
  · obtain ⟨d, digits, hdigits⟩ := List.exists_cons_of_ne_nil
      (Nat.toDigits_ne_nil (n := n.toInt.natAbs) (b := 10))
    have hzero : n.toInt.natAbs = 0 := by
      refine toDigits_of_head_zero (b := 10) (by decide) ?_
      rw [hdigits] at h ⊢
      exact congrArg some (List.cons.inj h).1
    rw [hzero] at h
    have hrest : rest = mark :: more := (List.cons.inj h).2
    rw [hrest] at hno
    exact absurd (hno mark rfl) (by simp)

theorem int64?_natAbs (n : Int64) : int64? (decide (n.toInt < 0)) n.toInt.natAbs = some n := by
  have hlt := n.toInt_lt
  have hge := n.le_toInt
  by_cases h : n.toInt < 0
  · have hvalue : -(n.toInt.natAbs : Int) = n.toInt := by omega
    rw [int64?, decide_eq_true h, if_pos rfl, if_pos (by omega), hvalue, Int64.ofInt_toInt]
  · have hvalue : (n.toInt.natAbs : Int) = n.toInt := by omega
    rw [int64?, decide_eq_false h, if_neg (by decide), if_pos (by omega), hvalue,
      Int64.ofInt_toInt]

/-- An integer is read from its digits. -/
theorem integer?_integer (n : Int64) (hrest : Ends rest) :
    integer? (integerChars n ++ rest) = some (n, rest) := by
  have hno : ∀ mark, mark = 'x' ∨ mark = 'o' ∨ mark = 'b' → ∀ more,
      integerChars n ++ rest = '0' :: mark :: more → False := by
    intro mark hmark more
    refine integerChars_ne_based n ?_
    rcases hmark with rfl | rfl | rfl <;> exact hrest.stops (by decide) (by decide) (by decide)
  rw [integer?.eq_4 _ (hno 'x' (by simp)) (hno 'o' (by simp)) (hno 'b' (by simp))]
  simp [sign_integer, wholeDigits?_toDigits _ hrest, numberOf_toDigits, int64?_natAbs]

/-! ### Values that hold no others -/

/-- The characters that a value without others may begin with. -/
def isOpening (c : Char) : Bool := "\"'tf-".toList.contains c || isDigit 10 c

theorem exists_mark (cs : List Char) :
    ∃ mark more, quotedList cs = mark :: more ∧ (mark = '"' ∨ mark = '\'') := by
  unfold quotedList
  extract_lets
  repeat' split
  all_goals first
    | exact ⟨'"', _, rfl, .inl rfl⟩
    | exact ⟨'\'', _, rfl, .inr rfl⟩

namespace Value

/-- A value that holds no others. -/
def IsScalar : Value → Prop
  | .text _ | .integer _ | .boolean _ => True
  | _ => False

theorem exists_opening {v : Value} (h : v.IsScalar) :
    ∃ c more, v.inline.toList = c :: more ∧ isOpening c := by
  cases v with
  | text s =>
    obtain ⟨mark, more, hform, rfl | rfl⟩ := exists_mark s.toList
    · exact ⟨_, more, (String.toList_ofList ..).trans hform, by decide⟩
    · exact ⟨_, more, (String.toList_ofList ..).trans hform, by decide⟩
  | integer n =>
    have htext : (inline (.integer n)).toList = integerChars n := toList_toString n
    obtain ⟨c, more, hchars, rfl | hc⟩ := exists_first n
    · exact ⟨'-', more, htext.trans hchars, by decide⟩
    · exact ⟨c, more, htext.trans hchars, by simp [isOpening, hc]⟩
  | boolean b => cases b <;> exact ⟨_, _, rfl, by decide⟩
  | _ => exact h.elim

/-- A value without others is read from what is written for it. -/
theorem scalar_inline {v : Value} (h : v.IsScalar) (hrest : Ends rest) :
    scalar (v.inline.toList ++ rest) = some (v, rest) := by
  cases v with
  | text s =>
    have htext : (inline (.text s)).toList = quotedList s.toList := String.toList_ofList ..
    have hread := string?_quotedList
      (hrest.stops (by decide) (by decide) (by decide))
      (hrest.stops (by decide) (by decide) (by decide)) s.toList
    obtain ⟨mark, more, hform, hmark⟩ := exists_mark s.toList
    rw [String.ofList_toList, hform, List.cons_append] at hread
    rw [htext, hform, List.cons_append]
    rcases hmark with rfl | rfl <;> simp [scalar, asValue, hread]
  | integer n =>
    have htext : (inline (.integer n)).toList = integerChars n := toList_toString n
    obtain ⟨c, more, hchars, hc⟩ := exists_first n
    have hne : ∀ d, isDigit 10 d = false → d ≠ '-' → c ≠ d := by
      rintro d hdigit hminus rfl
      rcases hc with rfl | hc
      · exact hminus rfl
      · rw [hdigit] at hc
        exact absurd hc (by decide)
    have hmoment := moment?_integer n hrest
    have hfloat := float?_integer n hrest
    have hread := integer?_integer n hrest
    rw [hchars, List.cons_append] at hmoment hfloat hread
    rw [htext, hchars, List.cons_append]
    simp [scalar, asValue, hne '"' (by decide) (by decide), hne '\'' (by decide) (by decide),
      hne 't' (by decide) (by decide), hne 'f' (by decide) (by decide), hmoment, hfloat, hread]
  | boolean b => cases b <;> simp [inline, scalar, boolean?, asValue]
  | _ => exact h.elim

end Value

/-! ### Lists -/

/-- A character that opens a value opens no list and no table, and is no trivia. -/
theorem isOpening_spec (h : isOpening c) :
    c ≠ '[' ∧ c ≠ '{' ∧ c ≠ ']' ∧ c ≠ '#' ∧ c ≠ '\n' ∧ c ≠ '\r' ∧ isBlank c = false := by
  have hne : ∀ d, isOpening d = false → c ≠ d := by
    rintro d hd rfl
    rw [hd] at h
    exact absurd h (by decide)
  refine ⟨hne _ (by decide), hne _ (by decide), hne _ (by decide), hne _ (by decide),
    hne _ (by decide), hne _ (by decide), ?_⟩
  simp [isBlank, hne ' ' (by decide), hne '\t' (by decide)]

theorem skipTrivia_of_opening (h : isOpening c) (rest : List Char) :
    skipTrivia (c :: rest) = c :: rest := by
  obtain ⟨-, -, -, hmark, hfeed, hreturn, hblank⟩ := isOpening_spec h
  rw [skipTrivia, skipTriviaFrom.eq_3 _ _ _ fun _ hc _ => hreturn hc, if_neg hfeed,
    if_neg (by decide), if_neg (by simp [hblank]), if_neg hmark]

namespace Value

theorem value?_scalar {v : Value} (h : v.IsScalar) (hrest : Ends rest) (depth : Nat) :
    value? depth (v.inline.toList ++ rest) = some (v, rest) := by
  have hread := scalar_inline h hrest
  obtain ⟨c, more, hchars, hc⟩ := exists_opening h
  obtain ⟨hbracket, hbrace, -⟩ := isOpening_spec hc
  rw [hchars, List.cons_append] at hread ⊢
  cases depth with
  | zero =>
    rw [value?.eq_3 _ (fun _ h => hbracket (List.cons.inj h).1)
      (fun _ h => hbrace (List.cons.inj h).1), hread]
  | succ depth =>
    rw [value?.eq_6 _ _ (fun _ h => hbracket (List.cons.inj h).1)
      (fun _ h => hbrace (List.cons.inj h).1), hread]

/-- The lines of a list, each with an item and the comma behind it. -/
def itemLines (items : List Value) : List Char :=
  items.flatMap fun v => '\n' :: ' ' :: ' ' :: ' ' :: ' ' :: (v.inline.toList ++ [','])

theorem skipTrivia_line (cs : List Char) :
    skipTrivia ('\n' :: ' ' :: ' ' :: ' ' :: ' ' :: cs) = skipTrivia cs := by
  simp [skipTrivia, skipTriviaFrom, isBlank]

theorem skipTrivia_inline {v : Value} (h : v.IsScalar) (rest : List Char) :
    skipTrivia (v.inline.toList ++ rest) = v.inline.toList ++ rest := by
  obtain ⟨c, more, hchars, hc⟩ := exists_opening h
  rw [hchars, List.cons_append, skipTrivia_of_opening hc]

theorem inline_ne_bracket {v : Value} (h : v.IsScalar) (rest more : List Char) :
    v.inline.toList ++ rest ≠ ']' :: more := by
  obtain ⟨c, behind, hchars, hc⟩ := exists_opening h
  obtain ⟨-, -, hbracket, -⟩ := isOpening_spec hc
  rw [hchars]
  exact fun heq => hbracket (List.cons.inj heq).1

/-- Items on lines of their own are read one after the other, up to the bracket. -/
theorem arrayItems_itemLines {items : List Value} (hitems : ∀ v ∈ items, v.IsScalar)
    {depth fuel : Nat} (hfuel : items.length < fuel) (rest : List Char) :
    arrayItems (value? depth) fuel (itemLines items ++ '\n' :: ']' :: rest) =
      some (items, rest) := by
  induction items generalizing fuel with
  | nil =>
    obtain ⟨fuel, rfl⟩ : ∃ n, fuel = n + 1 := ⟨fuel - 1, by omega⟩
    simp [arrayItems, itemLines, skipTrivia, skipTriviaFrom, isBlank]
  | cons v items ih =>
    obtain ⟨fuel, rfl⟩ : ∃ n, fuel = n + 1 := ⟨fuel - 1, by omega⟩
    have hv : v.IsScalar := hitems v (List.mem_cons_self ..)
    have hmore := ih (fun w hw => hitems w (List.mem_cons_of_mem v hw))
      (Nat.lt_of_succ_lt_succ hfuel)
    have hline : itemLines (v :: items) ++ '\n' :: ']' :: rest =
        '\n' :: ' ' :: ' ' :: ' ' :: ' ' ::
          (v.inline.toList ++ ',' :: (itemLines items ++ '\n' :: ']' :: rest)) := by
      simp [itemLines]
    have hcomma : ∀ cs, skipTrivia (',' :: cs) = ',' :: cs := by
      intro cs
      simp [skipTrivia, skipTriviaFrom, isBlank]
    have hends : Ends (',' :: (itemLines items ++ '\n' :: ']' :: rest)) :=
      ⟨',', _, rfl, .inr (.inl rfl)⟩
    have hitem := value?_scalar hv hends depth
    rw [hline, arrayItems, skipTrivia_line, skipTrivia_inline hv]
    split
    · exact absurd ‹_› (inline_ne_bracket hv _ _)
    · simp [hitem, hcomma, hmore]

theorem inlineItems_eq_map (items : List Value) : inlineItems items = items.map inline := by
  induction items with
  | nil => rfl
  | cons v items ih => rw [inlineItems, ih, List.map_cons]

theorem toList_inline_array (v w : Value) (items : List Value) :
    (inline (.array (v :: w :: items))).toList =
      '[' :: (itemLines (v :: w :: items) ++ ['\n', ']']) := by
  -- The line end behind an item is counted to the next one.
  have hshift : ∀ (items : List Value) (tail : List Char), '\n' :: (items.flatMap (fun v =>
      ' ' :: ' ' :: ' ' :: ' ' :: (v.inline.toList ++ [',', '\n'])) ++ tail) =
        itemLines items ++ '\n' :: tail := by
    intro items tail
    induction items with
    | nil => rfl
    | cons v items ih => simpa [itemLines] using ih
  rw [← hshift]
  simp [inline, inlineItems_eq_map, List.flatMap_map]

/-- A value that stands on a line: one without others, or a list of such. -/
def IsPlain (v : Value) : Prop :=
  v.IsScalar ∨ ∃ items, v = .array items ∧ ∀ item ∈ items, item.IsScalar

theorem exists_bracket (items : List Value) :
    ∃ more, (inline (.array items)).toList = '[' :: more := by
  match items with
  | [] => exact ⟨[']'], by simp [inline, inlineItems]⟩
  | [item] => exact ⟨_, by simp [inline, inlineItems]; rfl⟩
  | v :: w :: items => exact ⟨_, toList_inline_array v w items⟩

theorem length_le_itemLines (items : List Value) : items.length ≤ (itemLines items).length := by
  induction items with
  | nil => exact Nat.le_refl 0
  | cons v items ih =>
    have hcons : itemLines (v :: items) =
        '\n' :: ' ' :: ' ' :: ' ' :: ' ' :: (v.inline.toList ++ [',']) ++ itemLines items := rfl
    rw [hcons, List.length_append, List.length_cons, List.length_cons]
    omega

/-- A value is read from what is written for it. -/
theorem value?_inline {v : Value} (h : v.IsPlain) (hrest : Ends rest) (depth : Nat) :
    value? (depth + 1) (v.inline.toList ++ rest) = some (v, rest) := by
  rcases h with h | ⟨items, rfl, h⟩
  · exact value?_scalar h hrest _
  match items, h with
  | [], _ =>
    show asValue .array (arrayItems (value? depth) (rest.length + 2) (']' :: rest)) = _
    simp [asValue, arrayItems, skipTrivia, skipTriviaFrom, isBlank]
  | [item], h =>
    have hitem : item.IsScalar := h item (List.mem_cons_self ..)
    have hends : Ends (']' :: rest) := ⟨']', _, rfl, .inr (.inr rfl)⟩
    have hread := value?_scalar hitem hends depth
    have hbracket : skipTrivia (']' :: rest) = ']' :: rest := by
      simp [skipTrivia, skipTriviaFrom, isBlank]
    have hchars : (inline (.array [item])).toList ++ rest =
        '[' :: (item.inline.toList ++ ']' :: rest) := by
      simp [inline, inlineItems]
    have hitems : arrayItems (value? depth) ((item.inline.toList ++ ']' :: rest).length + 1)
        (item.inline.toList ++ ']' :: rest) = some ([item], rest) := by
      rw [arrayItems, skipTrivia_inline hitem]
      split
      · exact absurd ‹_› (inline_ne_bracket hitem _ _)
      · simp [hread, hbracket]
    rw [hchars, value?, hitems]
    rfl
  | v :: w :: items, h =>
    have hfuel := length_le_itemLines (v :: w :: items)
    have hchars : (inline (.array (v :: w :: items))).toList ++ rest =
        '[' :: (itemLines (v :: w :: items) ++ '\n' :: ']' :: rest) := by
      rw [toList_inline_array]
      simp
    rw [hchars, value?, arrayItems_itemLines h (by rw [List.length_append]; omega)]
    rfl

end Value

end Perimeter.Toml
