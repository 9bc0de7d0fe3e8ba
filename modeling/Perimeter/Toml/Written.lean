import Perimeter.Toml.Key
import Perimeter.Toml.Value

/-!
# `Perimeter.Toml.Written`: writing a file

A file opens with the values that are no tables, one to a line. The tables follow in
their order, each under a header, and lists of tables with a header for each element.
An empty line stands between two of these blocks. A list of two values or more has a
line for each of them.

A text is written in the first of these forms that needs no escape: between quotes,
between apostrophes, between three quotes, between three apostrophes. If all of them
need one, it is escaped between quotes, three of them if it has several lines.

* `quoted_nil`: how the empty text is written.
-/

set_option autoImplicit false

namespace Perimeter.Toml

/-- Whether a character can only be written as an escape: a control other than the tab
and the line feed. -/
def needsEscape (c : Char) : Bool :=
  (c.toNat < 0x20 && c ≠ '\t' && c ≠ '\n') || c.toNat = 0x7F

/-- The length of the longest run of a character, given the length of the run that
reaches up to here. -/
def longestRun (mark : Char) (run : Nat) : List Char → Nat
  | [] => run
  | c :: rest =>
    if c = mark then longestRun mark (run + 1) rest else max run (longestRun mark 0 rest)

/-- An upper-case hexadecimal digit. -/
def upperDigit (n : Nat) : Char := if n < 10 then Char.ofNat (0x30 + n) else Char.ofNat (0x37 + n)

/-- A character between quotes, other than a quote. -/
def escaped (multiline : Bool) (c : Char) : List Char :=
  if c = '\x08' then ['\\', 'b']
  else if c = '\t' then ['\\', 't']
  else if c = '\n' then if multiline then ['\n'] else ['\\', 'n']
  else if c = '\x0c' then ['\\', 'f']
  else if c = '\r' then ['\\', 'r']
  else if c = '\\' then ['\\', '\\']
  else if needsEscape c then
    ['\\', 'u', '0', '0', upperDigit (c.toNat / 16), upperDigit (c.toNat % 16)]
  else [c]

/-- Characters between quotes. On one line every quote is escaped. On several lines two
quotes may stand together, and `run` of them have just been written. -/
def basicForm (multiline : Bool) (run : Nat) : List Char → List Char
  | [] => []
  | c :: rest =>
    if c = '"' then
      if multiline && run < 2 then '"' :: basicForm multiline (run + 1) rest
      else '\\' :: '"' :: basicForm multiline 0 rest
    else escaped multiline c ++ basicForm multiline 0 rest

/-- Marks around a text. A text with several lines starts on a line of its own. -/
def enclosed (marks : List Char) (cs : List Char) : List Char :=
  let lineBreak := if 1 < marks.length && cs.contains '\n' then ['\n'] else []
  marks ++ lineBreak ++ cs ++ marks

/-- A text between marks, in the first form that fits. -/
def quotedList (cs : List Char) : List Char :=
  let controls := cs.any needsEscape
  let newline := cs.contains '\n'
  let backslash := cs.contains '\\'
  let quotes := longestRun '"' 0 cs
  let apostrophes := longestRun '\'' 0 cs
  let threeQuotes := ['"', '"', '"']
  if !controls && !newline && !backslash && quotes = 0 then enclosed ['"'] (basicForm false 0 cs)
  else if !controls && !newline && apostrophes = 0 then enclosed ['\''] cs
  else if !controls && !backslash && quotes < 3 then enclosed threeQuotes (basicForm true 0 cs)
  else if !controls && apostrophes < 3 then enclosed ['\'', '\'', '\''] cs
  else if newline then enclosed threeQuotes (basicForm true 0 cs)
  else enclosed ['"'] (basicForm false 0 cs)

/-- A text between marks. -/
def quoted (s : String) : String := String.ofList (quotedList s.toList)

/-- A name before its value. -/
def written (name : String) : String :=
  if name ≠ "" && name.toList.all isBare then name else quoted name

mutual

/-- A value behind an equals sign. -/
def Value.inline : Value → String
  | .text s => quoted s
  | .integer n => toString n.toInt
  | .float literal => literal
  | .boolean b => if b then "true" else "false"
  | .moment literal => literal
  | .array items => match inlineItems items with
    | [] => "[]"
    | [item] => "[" ++ item ++ "]"
    | all => "[\n" ++ String.join (all.map fun item => "    " ++ item ++ ",\n") ++ "]"
  | .table members => match inlineMembers members with
    | [] => "\x7b\x7d"
    | all => "\x7b " ++ ", ".intercalate all ++ " \x7d"

/-- The values of a list. -/
def inlineItems : List Value → List String
  | [] => []
  | v :: rest => v.inline :: inlineItems rest

/-- The values of a table with their names. -/
def inlineMembers : List (String × Value) → List String
  | [] => []
  | (name, v) :: rest => (written name ++ " = " ++ v.inline) :: inlineMembers rest

end

/-- A value with its name on a line. -/
def pairLine (name : String) (v : Value) : String := written name ++ " = " ++ v.inline ++ "\n"

/-- The lines of a table under a header. -/
def body (members : Table) : String := String.join (members.map fun m => pairLine m.1 m.2)

/-- The tables of a list that holds one at least and nothing else. -/
def tablesOf? (items : List Value) : Option (List Table) :=
  if items.isEmpty then none
  else items.mapM fun
    | .table members => some members
    | _ => none

/-- What a value of a file is written as. -/
inductive Block where
  /-- A line before all headers. -/
  | line (text : String)
  /-- Headers with their lines. -/
  | sections (texts : List String)

/-- The block of a value. -/
def block (name : String) : Value → Block
  | .table members => .sections ["[" ++ written name ++ "]\n" ++ body members]
  | .array items => match tablesOf? items with
    | some tables =>
      .sections (tables.map fun members => "[[" ++ written name ++ "]]\n" ++ body members)
    | none => .line (pairLine name (.array items))
  | v => .line (pairLine name v)

/-- Writes a file. -/
def write (file : Table) : String :=
  let blocks := file.map fun m => block m.1 m.2
  let lines := blocks.filterMap fun
    | .line text => some text
    | .sections _ => none
  let sections := blocks.flatMap fun
    | .line _ => []
    | .sections texts => texts
  let opening := if lines.isEmpty then [] else [String.join lines]
  "\n".intercalate (opening ++ sections)

theorem quoted_nil : quotedList [] = ['"', '"'] := by decide

end Perimeter.Toml
