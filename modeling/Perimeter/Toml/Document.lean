import Perimeter.Toml.Moment
import Perimeter.Toml.Table

/-!
# `Perimeter.Toml.Document`: reading a file

A file is a sequence of lines: values under paths, headers of tables, headers of
elements, comments and empty lines. Values may nest, lists and tables within lists and
tables, and the depth is bounded. Lists may run over several lines, tables in braces
may not.

* `parse?`: the reader of a whole file.
-/

set_option autoImplicit false

namespace Perimeter.Toml

/-- Reads the truth values. -/
def boolean? : Scanner Bool
  | 't' :: 'r' :: 'u' :: 'e' :: rest => some (true, rest)
  | 'f' :: 'a' :: 'l' :: 's' :: 'e' :: rest => some (false, rest)
  | _ => none

/-- Turns what a scanner read into a value. -/
def asValue {α : Type} (make : α → Value) (read : Option (α × List Char)) :
    Option (Value × List Char) :=
  read.map fun r => (make r.1, r.2)

/-- Reads a value that holds no others. -/
def scalar : Scanner Value := fun cs =>
  match cs with
  | [] => none
  | c :: _ =>
    if c = '"' || c = '\'' then asValue .text (string? cs)
    else if c = 't' || c = 'f' then asValue .boolean (boolean? cs)
    else asValue .moment (moment? cs) <|> asValue .float (float? cs) <|>
      asValue .integer (integer? cs)

/-- Reads the values of a list, `fuel` of them at most, up to its bracket. A comma may
stand behind the last. -/
def arrayItems (item : Scanner Value) : Nat → Scanner (List Value)
  | 0, _ => none
  | fuel + 1, cs =>
    match skipTrivia cs with
    | ']' :: rest => some ([], rest)
    | start => do
      let (v, rest) ← item start
      match skipTrivia rest with
      | ']' :: rest => return ([v], rest)
      | ',' :: rest =>
        let (more, rest) ← arrayItems item fuel rest
        return (v :: more, rest)
      | _ => none

/-- Reads a path, an equals sign and a value. -/
def pair? (item : Scanner Value) : Scanner (Path × Value) := fun cs => do
  let (path, rest) ← path? cs
  let (v, rest) ← item (skipBlanks (← expect '=' rest))
  return ((path, v), rest)

/-- Reads the pairs of a table in braces, `fuel` of them at most, up to its brace. -/
def inlinePairs (item : Scanner Value) : Nat → Scanner (List (Path × Value))
  | 0, _ => none
  | fuel + 1, cs => do
    let (pair, rest) ← pair? item cs
    match skipBlanks rest with
    | '}' :: rest => return ([pair], rest)
    | ',' :: rest =>
      let (more, rest) ← inlinePairs item fuel rest
      return (pair :: more, rest)
    | _ => none

/-- Reads a table in braces behind the first of them. -/
def inlineTable? (item : Scanner Value) : Scanner Value := fun cs =>
  match skipBlanks cs with
  | '}' :: rest => some (.table [], rest)
  | start => do
    let (pairs, rest) ← inlinePairs item start.length start
    let members ← pairs.foldlM (fun (members : Members) p => members.insert p.1 p.2) []
    return (.table (membersToTable members), rest)

/-- Reads a value that is nested so deep at most. -/
def value? : Nat → Scanner Value
  | 0, cs => match cs with
    | '[' :: _ => none
    | '{' :: _ => none
    | _ => scalar cs
  | depth + 1, cs => match cs with
    | '[' :: rest => asValue .array (arrayItems (value? depth) (rest.length + 1) rest)
    | '{' :: rest => inlineTable? (value? depth) rest
    | _ => scalar cs

/-- How deep values may be nested. -/
def maxDepth : Nat := 79

/-- A line that says something. -/
inductive Line where
  | pair (path : Path) (v : Value)
  | header (path : Path)
  | element (path : Path)

/-- Reads a line that says something, without its end. -/
def line? : Scanner Line
  | '[' :: '[' :: rest => do
    let (path, rest) ← path? rest
    return (.element path, ← expect ']' (← expect ']' rest))
  | '[' :: rest => do
    let (path, rest) ← path? rest
    return (.header path, ← expect ']' rest)
  | cs => do
    let ((path, v), rest) ← pair? (value? maxDepth) cs
    return (.pair path v, rest)

/-- Reads the lines of a file, `fuel` of them at most. -/
def lines? : Nat → List Char → Option (List Line)
  | 0, cs => if cs.isEmpty then some [] else none
  | fuel + 1, cs =>
    match skipBlanks cs with
    | [] => some []
    | start =>
      match lineEnd? start with
      | some rest => lines? fuel rest
      | none => do
        let (line, rest) ← line? start
        let rest ← lineEnd? rest
        return line :: (← lines? fuel rest)

/-- The tables of a file after some of its lines, and the last header. -/
structure Progress where
  root : Members
  header : Path

/-- Takes a line into account. -/
def Progress.step (p : Progress) : Line → Option Progress
  | .pair path v => do return { p with root := ← p.root.insertUnder p.header path v }
  | .header path => do return ⟨← p.root.define path, path⟩
  | .element path => do return ⟨← p.root.extend path, path⟩

/-- The character that may mark the start of a file. -/
def startMark : Char := '\ufeff'

/-- Reads a file. -/
def parse? (text : String) : Option Table := do
  let cs := match text.toList with
    | [] => []
    | c :: rest => if c = startMark then rest else c :: rest
  let lines ← lines? cs.length cs
  let last ← lines.foldlM Progress.step ⟨[], []⟩
  return membersToTable last.root

end Perimeter.Toml
