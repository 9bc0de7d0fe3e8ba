/-!
# `Perimeter.Toml.Scanner`: blanks, comments and line ends

Scanners take the front of a list of characters and give back what they read with the
rest. Only spaces and tabs are blanks, a line ends with a line feed or a carriage
return before one, and a comment runs to the end of its line.

* `skipBlanks_length_le`, `skipTrivia_length_le`: skipping makes nothing longer.
-/

set_option autoImplicit false

namespace Perimeter.Toml

/-- A reader of the front of some characters. -/
abbrev Scanner (α : Type) := List Char → Option (α × List Char)

/-- Whether a character is a blank. -/
def isBlank (c : Char) : Bool := c = ' ' || c = '\t'

/-- Whether a character may stand in a comment: all but controls, and the tab. -/
def isPlain (c : Char) : Bool :=
  c = '\t' || (0x20 ≤ c.toNat && c.toNat ≠ 0x7F)

/-- Drops blanks. -/
def skipBlanks (cs : List Char) : List Char := cs.dropWhile isBlank

/-- Reads the end of a line. -/
def newline? : List Char → Option (List Char)
  | '\n' :: rest => some rest
  | '\r' :: '\n' :: rest => some rest
  | _ => none

/-- Reads a given character. -/
def expect (c : Char) : List Char → Option (List Char)
  | [] => none
  | d :: rest => if d = c then some rest else none

/-- Drops a comment up to the end of its line. -/
def skipComment : List Char → List Char
  | '#' :: rest => rest.dropWhile isPlain
  | cs => cs

/-- Reads what may follow on a line: blanks, a comment, and the end of the line or of
the file. -/
def lineEnd? (cs : List Char) : Option (List Char) :=
  match skipComment (skipBlanks cs) with
  | [] => some []
  | rest => newline? rest

/-- Drops blanks, line ends and comments, given whether a comment has begun. -/
def skipTriviaFrom (inComment : Bool) : List Char → List Char
  | [] => []
  | '\r' :: '\n' :: rest => skipTriviaFrom false rest
  | c :: rest =>
    if c = '\n' then skipTriviaFrom false rest
    else if inComment then
      if isPlain c then skipTriviaFrom true rest else c :: rest
    else if isBlank c then skipTriviaFrom false rest
    else if c = '#' then skipTriviaFrom true rest
    else c :: rest

/-- Drops blanks, line ends and comments. -/
def skipTrivia (cs : List Char) : List Char := skipTriviaFrom false cs

/-- The characters that were read, given what was left of them. -/
def taken (cs rest : List Char) : String := String.ofList (cs.take (cs.length - rest.length))

/-- Puts a character before what a scanner read. -/
def before (c : Char) (read : Option (List Char × List Char)) :
    Option (List Char × List Char) :=
  read.map fun r => (c :: r.1, r.2)

theorem skipBlanks_length_le (cs : List Char) : (skipBlanks cs).length ≤ cs.length :=
  (List.dropWhile_sublist _).length_le

theorem skipTrivia_length_le (cs : List Char) : (skipTrivia cs).length ≤ cs.length := by
  unfold skipTrivia
  generalize false = inComment
  fun_induction skipTriviaFrom inComment cs <;> simp_all <;> omega

end Perimeter.Toml
