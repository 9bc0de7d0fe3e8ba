import Perimeter.Toml.Scanner

/-!
# `Perimeter.Toml.Text`: the four ways to write a text

A text stands between quotes, in which escapes count, or between apostrophes, in which
they do not. With three marks at each end it may run over several lines: a line end
directly behind the first marks is dropped, all others read as line feeds, and up to
two marks may stand directly before the last three.

A backslash at the end of a line drops all blanks and line ends up to the next
character.

* `string?`: the reader of all four.
-/

set_option autoImplicit false

namespace Perimeter.Toml

/-- The value of a hexadecimal digit. -/
def hexValue? (c : Char) : Option Nat :=
  let n := c.toNat
  if 0x30 ≤ n ∧ n ≤ 0x39 then some (n - 0x30)
  else if 0x61 ≤ n ∧ n ≤ 0x66 then some (n - 0x57)
  else if 0x41 ≤ n ∧ n ≤ 0x46 then some (n - 0x37)
  else none

/-- The character whose number hexadecimal digits spell. Halves of surrogate pairs are
no characters. -/
def scalar? (digits : List Char) : Option Char := do
  let values ← digits.mapM hexValue?
  let n := values.foldl (fun acc d => acc * 16 + d) 0
  if n.isValidChar then some (Char.ofNat n) else none

/-- What an escape of one letter stands for. -/
def shortEscape? : Char → Option Char
  | 'b' => some '\x08'
  | 't' => some '\t'
  | 'n' => some '\n'
  | 'f' => some '\x0c'
  | 'r' => some '\r'
  | '"' => some '"'
  | '\\' => some '\\'
  | _ => none

/-- Reads an escape behind its backslash. -/
def escape? : Scanner Char
  | 'u' :: rest => if rest.length < 4 then none else do
    return (← scalar? (rest.take 4), rest.drop 4)
  | 'U' :: rest => if rest.length < 8 then none else do
    return (← scalar? (rest.take 8), rest.drop 8)
  | c :: rest => do return (← shortEscape? c, rest)
  | [] => none

/-- The number of characters in an escape behind its backslash. -/
def escapeLength : List Char → Nat
  | 'u' :: _ => 5
  | 'U' :: _ => 9
  | _ => 1

/-- Reads a text up to its quote. `skipped` characters in front belong to an escape
that has been read. -/
def basicBody (skipped : Nat) : Scanner (List Char)
  | [] => none
  | c :: rest => match skipped with
    | left + 1 => basicBody left rest
    | 0 =>
      if c = '"' then some ([], rest)
      else if c = '\\' then do
        let (e, _) ← escape? rest
        before e (basicBody (escapeLength rest) rest)
      else if isPlain c then before c (basicBody 0 rest)
      else none

/-- Reads a text up to its apostrophe. -/
def literalBody : Scanner (List Char)
  | [] => none
  | c :: rest =>
    if c = '\'' then some ([], rest)
    else if isPlain c then before c (literalBody rest)
    else none

/-- How many marks stand in front. -/
def markCount (mark : Char) (cs : List Char) : Nat := (cs.takeWhile (· = mark)).length

/-- Reads the marks that end a text of several lines, if three stand in front at least.
Up to two more belong to the text. -/
def closing? (mark : Char) (cs : List Char) : Option (List Char × List Char) :=
  let n := min (markCount mark cs) 5
  if 3 ≤ n then some (List.replicate (n - 3) mark, cs.drop n) else none

/-- Drops blanks and line ends. -/
def skipBlankLines : List Char → List Char
  | [] => []
  | '\r' :: '\n' :: rest => skipBlankLines rest
  | c :: rest => if isBlank c || c = '\n' then skipBlankLines rest else c :: rest

/-- Reads a text of several lines up to its three marks. Escapes count between quotes
alone. `skipped` characters in front belong to what has been read. -/
def multilineBody (mark : Char) (skipped : Nat) : Scanner (List Char)
  | [] => none
  | c :: rest => match skipped with
    | left + 1 => multilineBody mark left rest
    | 0 => match closing? mark (c :: rest), newline? (c :: rest) with
      | some closed, _ => some closed
      | none, some behind =>
        before '\n' (multilineBody mark (rest.length - behind.length) rest)
      | none, none =>
        if c = '\\' && mark = '"' then
          -- Blanks may stand between the backslash and the end of its line.
          if (newline? (skipBlanks rest)).isSome then
            multilineBody mark (rest.length - (skipBlankLines rest).length) rest
          else do
            let (e, _) ← escape? rest
            before e (multilineBody mark (escapeLength rest) rest)
        else if isPlain c then before c (multilineBody mark 0 rest)
        else none

/-- Drops a line end in front. -/
def skipNewline (cs : List Char) : List Char := (newline? cs).getD cs

/-- Characters that were read as a text. -/
def asText (read : Option (List Char × List Char)) : Option (String × List Char) :=
  read.map fun r => (String.ofList r.1, r.2)

/-- Reads a text on one line. -/
def lineString? : Scanner String
  | '"' :: rest => asText (basicBody 0 rest)
  | '\'' :: rest => asText (literalBody rest)
  | _ => none

/-- Reads a text. -/
def string? : Scanner String
  | '"' :: '"' :: '"' :: rest => asText (multilineBody '"' 0 (skipNewline rest))
  | '\'' :: '\'' :: '\'' :: rest => asText (multilineBody '\'' 0 (skipNewline rest))
  | cs => lineString? cs

end Perimeter.Toml
