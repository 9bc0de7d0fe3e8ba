import Perimeter.Toml.Key
import Perimeter.Toml.Value

/-!
# `Perimeter.Toml.Table`: how tables are filled

A file names tables in headers and in paths, and both make the tables that they lead
through. What a table may still get depends on how it came about: a table that a
header has defined gets no second header, and a path may add only to tables that
paths have made.

* `Members.add_duplicate`: no name is given a second value.
-/

set_option autoImplicit false

namespace Perimeter.Toml

/-- How a table came about. -/
inductive Origin where
  /-- A header led through it. -/
  | passed
  /-- The path of a value led through it. -/
  | dotted
  /-- A header named it, or it is the whole file. -/
  | defined
deriving DecidableEq

/-- What stands under a name while a file is read. -/
inductive Node where
  | value (v : Value)
  | table (origin : Origin) (members : List (String × Node))
  /-- Tables under one header, in order. Only the last still grows. -/
  | tables (elements : List (List (String × Node)))

/-- The members of a table while a file is read. -/
abbrev Members := List (String × Node)

namespace Members

/-- Puts a node under a name, in place of the one there or after all others. -/
def put (name : String) (node : Node) : Members → Members
  | [] => [(name, node)]
  | (n, old) :: rest => if n = name then (n, node) :: rest else (n, old) :: put name node rest

/-- Changes the table that a path leads to. Tables that are missing on the way come
about as `fresh`. The change is told how its table came about. -/
def reach (fresh : Origin) (change : Origin → Members → Option Members) :
    Path → Origin → Members → Option Members
  | [], origin, members => change origin members
  | name :: path, _, members =>
    match members.lookup name with
    | none => do
      let inner ← reach fresh change path fresh []
      return put name (.table fresh inner) members
    | some (.value _) => none
    | some (.table origin inner) =>
      if fresh = .dotted && origin = .defined then none
      else do
        let inner ← reach fresh change path origin inner
        return put name (.table origin inner) members
    | some (.tables elements) => do
      let last ← reach fresh change path .defined (elements.getLast?.getD [])
      return put name (.tables (elements.dropLast ++ [last])) members

/-- Adds a value under a name that is free. A path must end in a table made by paths. -/
def add (viaPath : Bool) (name : String) (v : Value) (origin : Origin) (members : Members) :
    Option Members :=
  if (origin = .dotted) ≠ viaPath then none
  else if (members.lookup name).isSome then none
  else some (members ++ [(name, .value v)])

/-- Adds the value of a path to a table. -/
def insert (path : Path) (v : Value) (members : Members) : Option Members := do
  let (tables, name) ← splitPath? path
  reach .dotted (add (!tables.isEmpty) name v) tables .defined members

/-- Defines the table of a header. -/
def define (path : Path) (members : Members) : Option Members := do
  let (tables, name) ← splitPath? path
  reach .passed (fun _ parent => match parent.lookup name with
    | none => some (put name (.table .defined []) parent)
    | some (.table .passed inner) => some (put name (.table .defined inner) parent)
    | some _ => none) tables .defined members

/-- Adds an element to the tables of a header. -/
def extend (path : Path) (members : Members) : Option Members := do
  let (tables, name) ← splitPath? path
  reach .passed (fun _ parent => match parent.lookup name with
    | none => some (put name (.tables [[]]) parent)
    | some (.tables elements) => some (put name (.tables (elements ++ [[]])) parent)
    | some _ => none) tables .defined members

/-- Adds the value of a path to the table that a header has named. -/
def insertUnder (header path : Path) (v : Value) (members : Members) : Option Members :=
  reach .passed (fun _ table => insert path v table) header .defined members

theorem add_duplicate {viaPath : Bool} {name : String} {v : Value} {origin : Origin}
    {members : Members} (h : (members.lookup name).isSome) :
    add viaPath name v origin members = none := by
  simp [add, h]

end Members

mutual

/-- What a node says when the file has been read. -/
def Node.toValue : Node → Value
  | .value v => v
  | .table _ members => .table (membersToTable members)
  | .tables elements => .array (elementsToValues elements)

/-- What the members of a table say. -/
def membersToTable : List (String × Node) → Table
  | [] => []
  | (name, node) :: rest => (name, node.toValue) :: membersToTable rest

/-- What tables under one header say. -/
def elementsToValues : List (List (String × Node)) → List Value
  | [] => []
  | members :: rest => .table (membersToTable members) :: elementsToValues rest

end

end Perimeter.Toml
