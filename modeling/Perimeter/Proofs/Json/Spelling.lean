import Mathlib.Data.List.Forall2
import Perimeter.Proofs.Json.Scalar

/-!
# `Perimeter.Proofs.Json.Spelling`: values are read as they were written

A text is cut into words and the words are put together to a value. `readFrom` is both at
once, from a moment in the middle of it, so that a written value can be followed through the
reader piece by piece.

`Spells` says of a written value what it does to the reader: where a value is expected, the
reader takes all of it and goes on after the value, whatever follows. Strings and integers
spell values, and what is put together of such pieces does again (`spells_array`,
`spells_object`). A text that spells a value parses as it (`Spells.parse_eq`).
-/

set_option autoImplicit false

namespace Perimeter.Json

variable {b : UInt8} {word : Lexeme} {rest : Bytes}

/-! ### Words -/

/-- The words that an octet completes stand before those of the octets after it. -/
private theorem scanFrom_step {s next : Scanning} {words : List Lexeme}
    (h : s.step b = some (words, next)) :
    scanFrom s (b :: rest) = (scanFrom next rest).map (words ++ ·) := by
  rw [scanFrom, h]
  show (scanFrom next rest >>= fun more => some (words ++ more)) = _
  cases scanFrom next rest <;> rfl

/-- An octet that completes no word leaves everything to the octets after it. -/
private theorem scanFrom_silent {s next : Scanning} (h : s.step b = some ([], next)) :
    scanFrom s (b :: rest) = scanFrom next rest := by
  rw [scanFrom_step h]
  exact Option.map_id'

/-- Between words there is no word to end. -/
private theorem step_between (b : UInt8) : Scanning.between.step b = Scanning.start b := by
  show (Scanning.start b >>= fun s => some ([] ++ s.1, s.2)) = _
  cases Scanning.start b <;> rfl

/-- A mark begins none of the longer words and goes on with no number. -/
private theorem mark_spec : ∀ b : UInt8, (mark? b).isSome →
    isSpace b = false ∧ b ≠ 0x22 ∧ (isDigit b || b = 0x2D) = false ∧ isLetter b = false ∧
      isNumeral b = false :=
  forall_octet (by decide +kernel)

theorem scan_mark (h : mark? b = some word) :
    scan (b :: rest) = (scan rest).map (word :: ·) := by
  obtain ⟨hspace, hquote, hnumeral, hletter, -⟩ := mark_spec b (by rw [h]; rfl)
  have hstart : Scanning.start b = some ([word], .between) := by
    rw [Scanning.start, hspace, hnumeral, hletter, h]
    simp [hquote]
  exact scanFrom_step ((step_between b).trans hstart)

/-- Hexadecimal digits are written as such. -/
private theorem isHexDigit_lower : ∀ b : UInt8,
    isHexDigit (lowerHexDigit (b / 16)) ∧ isHexDigit (lowerHexDigit (b % 16)) :=
  forall_octet (by decide +kernel)

/-- In a string, the scanner takes what stands for an octet as a whole. -/
private theorem scanFrom_escapeOctet (b : UInt8) (done rest : Bytes) :
    scanFrom (.string done) (escapeOctet b ++ rest) =
      scanFrom (.string ((escapeOctet b).reverse ++ done)) rest := by
  unfold escapeOctet
  split
  · exact (scanFrom_silent rfl).trans (scanFrom_silent rfl)
  split
  · exact (scanFrom_silent rfl).trans (scanFrom_silent rfl)
  -- The five controls that have a letter of their own.
  iterate 5
    split
    · exact (scanFrom_silent rfl).trans (scanFrom_silent rfl)
  split
  · obtain ⟨hhigh, hlow⟩ := isHexDigit_lower b
    let high := lowerHexDigit (b / 16)
    let low := lowerHexDigit (b % 16)
    let mark : Bytes := 0x75 :: 0x5C :: done
    let zeros : Bytes := 0x30 :: 0x30 :: mark
    have hfirst : Scanning.step (.escapeNumber zeros 2) high =
        some ([], .escapeNumber (high :: zeros) 1) := if_pos hhigh
    have hlast : Scanning.step (.escapeNumber (high :: zeros) 1) low =
        some ([], .string (low :: high :: zeros)) := if_pos hlow
    -- The backslash and the letter, the two zeros, and the two digits of the octet.
    calc scanFrom (.string done) (0x5C :: 0x75 :: 0x30 :: 0x30 :: high :: low :: rest)
      _ = scanFrom (.escapeNumber mark 4) (0x30 :: 0x30 :: high :: low :: rest) :=
        (scanFrom_silent rfl).trans (scanFrom_silent rfl)
      _ = scanFrom (.escapeNumber zeros 2) (high :: low :: rest) :=
        (scanFrom_silent rfl).trans (scanFrom_silent rfl)
      _ = scanFrom (.string (low :: high :: zeros)) rest :=
        (scanFrom_silent hfirst).trans (scanFrom_silent hlast)
  · rename_i hquote hbackslash _ _ _ _ _ hcontrol
    exact scanFrom_silent (by simp [Scanning.step, hquote, hbackslash, hcontrol])

/-- In a string, the scanner takes the octets of a text up to the quote that ends it. -/
private theorem scanFrom_escaped (bs : Bytes) : ∀ done rest : Bytes,
    scanFrom (.string done) (bs.flatMap escapeOctet ++ 0x22 :: rest) =
      (scan rest).map (.string (done.reverse ++ bs.flatMap escapeOctet) :: ·) := by
  induction bs with
  | nil =>
    intro done rest
    have hend : Scanning.step (.string done) 0x22 =
        some ([.string done.reverse], .between) := rfl
    rw [List.flatMap_nil, List.append_nil]
    exact scanFrom_step hend
  | cons b more ih =>
    intro done rest
    rw [List.flatMap_cons, List.append_assoc, scanFrom_escapeOctet, ih]
    simp only [List.reverse_append, List.reverse_reverse, List.append_assoc]

/-- A text between its quotes is one word. -/
theorem scan_quote (s : String) (rest : Bytes) :
    scan (quote s ++ rest) = (scan rest).map (.string (escaped s) :: ·) := by
  have hopen : scan (quote s ++ rest) = scanFrom (.string []) (escaped s ++ 0x22 :: rest) := by
    have hquote : quote s ++ rest = 0x22 :: (escaped s ++ 0x22 :: rest) := by
      rw [quote_eq, List.cons_append, List.append_assoc]
      rfl
    rw [hquote]
    exact scanFrom_silent rfl
  rw [hopen]
  exact scanFrom_escaped (Text.utf8 s) [] rest

/-- What follows does not go on with a number. -/
def EndsNumber (rest : Bytes) : Prop := ∀ b ∈ rest.head?, isNumeral b = false

/-- A run of numerals that has ended is a word. -/
private theorem scanFrom_ended {done rest : Bytes} (hend : EndsNumber rest)
    (hnumber : isNumber done.reverse) :
    scanFrom (.numerals done) rest = (scan rest).map (.number done.reverse :: ·) := by
  have hfinish : Scanning.finish (.numerals done) = some [.number done.reverse] := by
    rw [Scanning.finish, number?, if_pos hnumber]
    rfl
  cases rest with
  | nil => exact hfinish
  | cons b rest =>
    have hb : isNumeral b = false := hend b rfl
    -- The octet ends the number, and begins the next word as it does without the number.
    have hstep : Scanning.step (.numerals done) b =
        (Scanning.start b).map fun s => (.number done.reverse :: s.1, s.2) := by
      simp only [Scanning.step, hb, Scanning.turn, hfinish]
      show (Scanning.start b >>= _) = _
      cases Scanning.start b <;> rfl
    cases hstart : Scanning.start b with
    | none =>
      rw [hstart] at hstep
      rw [scan, scanFrom, scanFrom, hstep, step_between, hstart]
      rfl
    | some s =>
      rw [hstart] at hstep
      rw [scan, scanFrom_step hstep, scanFrom_step ((step_between b).trans hstart),
        Option.map_map]
      rfl

/-- In a run of numerals, the scanner takes all of them. -/
private theorem scanFrom_numerals {literal : Bytes} (h : ∀ b ∈ literal, isNumeral b) :
    ∀ done rest : Bytes, scanFrom (.numerals done) (literal ++ rest) =
      scanFrom (.numerals (literal.reverse ++ done)) rest := by
  induction literal with
  | nil => intro done rest; rfl
  | cons b more ih =>
    intro done rest
    have hstep : Scanning.step (.numerals done) b = some ([], .numerals (b :: done)) :=
      if_pos (h b List.mem_cons_self)
    have hmore := ih (fun c hc => h c (List.mem_cons_of_mem b hc)) (b :: done) rest
    rw [List.cons_append, scanFrom_silent hstep, hmore, List.reverse_cons, List.append_assoc]
    rfl

/-- An integer is one word, if what follows does not go on with it. -/
theorem scan_integer (n : Int64) (hend : EndsNumber rest) :
    scan (integer n ++ rest) = (scan rest).map (.number (integer n) :: ·) := by
  -- The integer begins with a sign or a digit, and the scanner with a run of numerals.
  obtain ⟨b, more, heq, hstart, hmore⟩ : ∃ b more, integer n = b :: more ∧
      Scanning.start b = some ([], .numerals [b]) ∧ ∀ c ∈ more, isNumeral c := by
    have hnumerals : ∀ c, isDigit c → isNumeral c := fun c hc => (isDigit_spec c hc).1
    rw [integer_eq]
    split
    · obtain ⟨d, more, heq, hd, hmore, -⟩ := digits_eq_cons n.toInt.toNat
      obtain ⟨-, hspace, hquote, -⟩ := isDigit_spec d hd
      refine ⟨d, more, heq, ?_, fun c hc => hnumerals c (List.all_eq_true.mp hmore c hc)⟩
      simp [Scanning.start, hspace, hquote, hd]
    · have hdigits := all_isDigit_digits (-n.toInt).toNat
      exact ⟨_, _, rfl, rfl, fun c hc => hnumerals c (List.all_eq_true.mp hdigits c hc)⟩
  have hopen : scan (integer n ++ rest) = scanFrom (.numerals [b]) (more ++ rest) := by
    rw [heq]
    exact scanFrom_silent ((step_between b).trans hstart)
  have hliteral : (more.reverse ++ [b]).reverse = integer n := by
    rw [List.reverse_append, List.reverse_reverse, heq]
    rfl
  have hnumber : isNumber (more.reverse ++ [b]).reverse := hliteral.symm ▸ isNumber_integer n
  rw [hopen, scanFrom_numerals hmore, scanFrom_ended hend hnumber, hliteral]

/-! ### Values -/

/-- What is read from a text, from a moment in the middle of a value. -/
def readFrom (r : Reading) (text : Bytes) : Option Value := do
  let last ← (← scan text).foldlM Reading.step r
  last.result

theorem parse_eq_readFrom (text : Bytes) : parse text = readFrom (.value [] false) text := rfl

/-- A word is taken before what follows it. -/
theorem readFrom_word {octets : Bytes}
    (h : scan (octets ++ rest) = (scan rest).map (word :: ·)) (r : Reading) :
    readFrom r (octets ++ rest) = (r.step word).bind (readFrom · rest) := by
  unfold readFrom
  rw [h]
  cases scan rest with
  | none => cases r.step word <;> rfl
  | some words =>
    show ((r.step word >>= fun r => words.foldlM Reading.step r) >>= Reading.result) = _
    cases r.step word <;> rfl

theorem readFrom_mark (h : mark? b = some word) (r : Reading) (rest : Bytes) :
    readFrom r (b :: rest) = (r.step word).bind (readFrom · rest) := by
  have hscan : scan ([b] ++ rest) = (scan rest).map (word :: ·) := scan_mark h
  exact readFrom_word hscan r

/-- Where a value is expected, the reader takes all of the text and has read the value. -/
def Spells (text : Bytes) (v : Value) : Prop :=
  ∀ stack fresh rest, EndsNumber rest →
    readFrom (.value stack fresh) (text ++ rest) = readFrom (.after stack v) rest

/-- A text that spells a value parses as it. -/
theorem Spells.parse_eq {text : Bytes} {v : Value} (h : Spells text v) : parse text = some v := by
  have hread := h [] false [] nofun
  rw [List.append_nil] at hread
  rw [parse_eq_readFrom, hread]
  rfl

theorem spells_quote (s : String) : Spells (quote s) (.string (escaped s)) := by
  intro stack fresh rest _
  rw [readFrom_word (scan_quote s rest)]
  rfl

theorem spells_integer (n : Int64) : Spells (integer n) (.number (integer n)) := by
  intro stack fresh rest hend
  rw [readFrom_word (scan_integer n hend)]
  rfl

theorem endsNumber_mark (h : mark? b = some word) : EndsNumber (b :: rest) := by
  obtain ⟨-, -, -, -, hnumeral⟩ := mark_spec b (by rw [h]; rfl)
  intro c hc
  obtain rfl := Option.some.inj hc
  exact hnumeral

theorem separated_cons (first second : Bytes) (more : List Bytes) :
    separated (first :: second :: more) = first ++ 0x2C :: separated (second :: more) := rfl

/-- The values of a list are read one after the other, until the list is closed. -/
private theorem readFrom_items {items : List Bytes} {values : List Value}
    (h : List.Forall₂ Spells items values) (hsome : items ≠ []) :
    ∀ done stack fresh rest,
      readFrom (.value (.array done :: stack) fresh) (separated items ++ 0x5D :: rest) =
        readFrom (.after stack (.array (done.reverse ++ values))) rest := by
  induction h with
  | nil => exact absurd rfl hsome
  | @cons item v items values hitem hitems ih =>
    intro done stack fresh rest
    cases hitems with
    | nil =>
      have hlast : separated [item] = item := List.append_nil item
      rw [hlast, hitem _ _ _ (endsNumber_mark rfl), readFrom_mark rfl]
      show readFrom (.after stack (.array (v :: done).reverse)) rest = _
      rw [List.reverse_cons]
    | cons hnext hmore =>
      rw [separated_cons, List.append_assoc, List.cons_append,
        hitem _ _ _ (endsNumber_mark rfl), readFrom_mark rfl]
      show readFrom (.value (.array (v :: done) :: stack) false) _ = _
      rw [ih (List.cons_ne_nil _ _), List.reverse_cons, List.append_assoc]
      rfl

/-- Written values between brackets are a list of the values. -/
theorem spells_array {items : List Bytes} {values : List Value}
    (h : List.Forall₂ Spells items values) : Spells (array items) (.array values) := by
  intro stack fresh rest _
  have hopen : readFrom (.value stack fresh) (array items ++ rest) =
      readFrom (.value (.array [] :: stack) true) (separated items ++ 0x5D :: rest) := by
    rw [array, List.append_assoc]
    show readFrom _ (0x5B :: (separated items ++ 0x5D :: rest)) = _
    rw [readFrom_mark rfl]
    rfl
  rw [hopen]
  cases h with
  | nil =>
    show readFrom _ (0x5D :: rest) = _
    rw [readFrom_mark rfl]
    rfl
  | cons hitem hitems => exact readFrom_items (.cons hitem hitems) (List.cons_ne_nil _ _) [] _ _ _

/-- Where a name is expected, the reader takes the name and its colon. -/
theorem readFrom_name (name : String) (stack : List Frame) (done : List (Bytes × Value))
    (fresh : Bool) (value rest : Bytes) :
    readFrom (.name stack done fresh) (member name value ++ rest) =
      readFrom (.value (.object done (escaped name) :: stack) false) (value ++ rest) := by
  rw [member, List.append_assoc, List.cons_append, readFrom_word (scan_quote name _)]
  show readFrom (.colon stack done (escaped name)) (0x3A :: (value ++ rest)) = _
  rw [readFrom_mark rfl]
  rfl

/-- Members are read one after the other, until the object is closed. -/
private theorem readFrom_members {members : List (String × Bytes)} {read : List (Bytes × Value)}
    (h : List.Forall₂ (fun m r => r.1 = escaped m.1 ∧ Spells m.2 r.2) members read)
    (hsome : members ≠ []) :
    ∀ done stack fresh rest,
      readFrom (.name stack done fresh)
          (separated (members.map fun m => member m.1 m.2) ++ 0x7D :: rest) =
        readFrom (.after stack (.object (done.reverse ++ read))) rest := by
  induction h with
  | nil => exact absurd rfl hsome
  | @cons m r members read hm hmembers ih =>
    obtain ⟨name, value⟩ := m
    obtain ⟨label, v⟩ := r
    obtain ⟨rfl, hvalue⟩ := hm
    intro done stack fresh rest
    cases hmembers with
    | nil =>
      have hlast : separated [member name value] = member name value := List.append_nil _
      rw [List.map_cons, List.map_nil, hlast, readFrom_name, hvalue _ _ _ (endsNumber_mark rfl),
        readFrom_mark rfl]
      show readFrom (.after stack (.object ((escaped name, v) :: done).reverse)) rest = _
      rw [List.reverse_cons]
    | cons hnext hmore =>
      rw [List.map_cons, List.map_cons, separated_cons, List.append_assoc, List.cons_append,
        readFrom_name, hvalue _ _ _ (endsNumber_mark rfl), readFrom_mark rfl]
      show readFrom (.name stack ((escaped name, v) :: done) false) _ = _
      have hrest := ih (List.cons_ne_nil _ _) ((escaped name, v) :: done) stack false rest
      rw [List.map_cons] at hrest
      rw [hrest, List.reverse_cons, List.append_assoc]
      rfl

/-- Named and written values between braces are an object of the values. -/
theorem spells_object {members : List (String × Bytes)} {read : List (Bytes × Value)}
    (h : List.Forall₂ (fun m r => r.1 = escaped m.1 ∧ Spells m.2 r.2) members read) :
    Spells (object members) (.object read) := by
  intro stack fresh rest _
  have hopen : readFrom (.value stack fresh) (object members ++ rest) =
      readFrom (.name stack [] true)
        (separated (members.map fun m => member m.1 m.2) ++ 0x7D :: rest) := by
    rw [object, List.append_assoc]
    show readFrom _ (0x7B :: (_ ++ 0x7D :: rest)) = _
    rw [readFrom_mark rfl]
    rfl
  rw [hopen]
  cases h with
  | nil =>
    show readFrom _ (0x7D :: rest) = _
    rw [readFrom_mark rfl]
    rfl
  | cons hm hmembers => exact readFrom_members (.cons hm hmembers) (List.cons_ne_nil _ _) [] _ _ _

/-! ### What values say -/

/-- A list of strings is the list of their texts. -/
theorem texts?_escaped (items : List String) :
    (Value.array (items.map fun s => .string (escaped s))).texts? = some items := by
  rw [Value.texts?]
  induction items with
  | nil => rfl
  | cons s more ih =>
    rw [List.map_cons, List.mapM_cons, ih]
    show (textOf? (escaped s) >>= fun text => some (text :: more)) = _
    rw [textOf?_escaped]
    rfl

/-- The members of an object are known by their names as text. -/
theorem members?_escaped (members : List (String × Value)) :
    (Value.object (members.map fun m => (escaped m.1, m.2))).members? = some members := by
  rw [Value.members?]
  induction members with
  | nil => rfl
  | cons m more ih =>
    rw [List.map_cons, List.mapM_cons, ih]
    simp only [textOf?_escaped]
    rfl

end Perimeter.Json
