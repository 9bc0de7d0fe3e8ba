import Perimeter.Toml.Text

/-!
# `Perimeter.Toml.Key`: the names of values

A name is bare, which letters, digits, low lines and hyphens can be, or a text on one
line. Names with points between them lead into tables within tables.

* `path?`: the reader of one name or more.
-/

set_option autoImplicit false

namespace Perimeter.Toml

/-- Names that lead from a table to a value. -/
abbrev Path := List String

/-- Whether a character may stand in a bare name. -/
def isBare (c : Char) : Bool := c.isAlphanum || c = '-' || c = '_'

/-- Reads a name. -/
def name? : Scanner String := fun cs =>
  match lineString? cs with
  | some read => some read
  | none =>
    let bare := cs.takeWhile isBare
    if bare.isEmpty then none else some (String.ofList bare, cs.dropWhile isBare)

/-- Reads so many names at most, with points between them and blanks around them. -/
def pathUpTo : Nat → Scanner Path
  | 0, _ => none
  | left + 1, cs => do
    let (name, rest) ← name? (skipBlanks cs)
    match skipBlanks rest with
    | '.' :: rest => do
      let (more, rest) ← pathUpTo left rest
      return (name :: more, rest)
    | rest => return ([name], rest)

/-- The most names in a path. -/
def maxPathLength : Nat := 79

/-- Reads a path. -/
def path? : Scanner Path := pathUpTo maxPathLength

/-- The tables that a path leads through, and the name in the last of them. -/
def splitPath? (path : Path) : Option (Path × String) :=
  path.getLast?.map fun name => (path.dropLast, name)

end Perimeter.Toml
