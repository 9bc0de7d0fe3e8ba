import Perimeter.Net.Address
import Perimeter.Toml.Value

/-!
# `Perimeter.Settings.Form`: settings as values of a file

A form says how settings of a kind stand in a file: which values are read as one, and
which value is written for one. Forms of records are put together from their members,
each with its name and the way to find it in the record, so that reading and writing
cannot come apart.

A record is a table. A list is taken for one too: its items are the members in the
order in which they are declared, and those that it is too short for are missing. A
date is taken for a table without members.

* `Form.Rereads`: a setting is read again from what is written for it.
* `rereads_list`: a list is, if all its items are.
-/

set_option autoImplicit false

namespace Perimeter.Settings

open Toml (Value Table)

/-- How settings of a kind stand in a file. -/
structure Form (α : Type) where
  read? : Value → Option α
  /-- Nothing for a setting that no value stands for. -/
  write? : α → Option Value

namespace Form

/-- Texts. -/
def text : Form String where
  read?
    | .text s => some s
    | _ => none
  write? s := some (.text s)

/-- Truth values. -/
def flag : Form Bool where
  read?
    | .boolean b => some b
    | _ => none
  write? b := some (.boolean b)

/-- Numbers from zero on. A file has no room for those with the highest bit. -/
def count : Form UInt64 where
  read?
    | .integer n => if 0 ≤ n then some n.toUInt64 else none
    | _ => none
  write? n := if n.toNat < 2 ^ 63 then some (.integer n.toInt64) else none

/-- Addresses with a port. -/
def address : Form SocketAddress where
  read?
    | .text s => SocketAddress.parse? s
    | _ => none
  write? a := some (.text a.text)

/-- Lists of settings of one form. -/
def list {α : Type} (item : Form α) : Form (List α) where
  read?
    | .array items => items.mapM item.read?
    | _ => none
  write? settings := (settings.mapM item.write?).map .array

/-- Whether a setting is read again from what is written for it. -/
def Rereads {α : Type} (form : Form α) (a : α) : Prop :=
  ∃ v, form.write? a = some v ∧ form.read? v = some a

theorem rereads_list {α : Type} {item : Form α} {l : List α} (h : ∀ a ∈ l, item.Rereads a) :
    (list item).Rereads l := by
  have items : ∃ vs, l.mapM item.write? = some vs ∧ vs.mapM item.read? = some l := by
    induction l with
    | nil => exact ⟨[], rfl, rfl⟩
    | cons a rest ih =>
      obtain ⟨v, hwrite, hread⟩ := h a (List.mem_cons_self ..)
      obtain ⟨vs, hwrites, hreads⟩ := ih fun b hb => h b (List.mem_cons_of_mem _ hb)
      exact ⟨v :: vs, by simp [List.mapM_cons, hwrite, hwrites],
        by simp [List.mapM_cons, hread, hreads]⟩
  obtain ⟨vs, hwrites, hreads⟩ := items
  exact ⟨.array vs, by simp [list, hwrites], hreads⟩

end Form

/-- How a member of a record stands under its name, where it may be missing. -/
structure Slot (α : Type) where
  read? : Option Value → Option α
  /-- Nothing for a member that no value stands for, or a member that is left out. -/
  write? : α → Option (Option Value)

namespace Slot

variable {α : Type}

/-- A member that may not be missing. -/
def required (form : Form α) : Slot α where
  read? v := v.bind form.read?
  write? a := (form.write? a).map some

/-- A member that has a value even if it is missing. It is always written. -/
def orElse (form : Form α) (default : α) : Slot α where
  read?
    | some v => form.read? v
    | none => some default
  write? a := (form.write? a).map some

/-- A member that may be missing. -/
def optional (form : Form α) : Slot (Option α) where
  read?
    | some v => (form.read? v).map some
    | none => some none
  write?
    | some a => (form.write? a).map some
    | none => some none

end Slot

/-- Members of a record `ρ`. Reading them gives an `α`: the record itself once all
members are there, and a function that waits for the others before. -/
structure Fields (ρ α : Type) where
  names : List String
  read? : Table → Option α
  write? : ρ → Option Table

namespace Fields

variable {ρ α β : Type}

/-- No members yet. -/
def of (make : α) : Fields ρ α := ⟨[], fun _ => some make, fun _ => some []⟩

/-- The value under a name in front of those that follow. -/
def entry (name : String) : Option Value → Table
  | some v => [(name, v)]
  | none => []

/-- A further member. -/
def member (f : Fields ρ (β → α)) (name : String) (slot : Slot β) (get : ρ → β) :
    Fields ρ α where
  names := f.names ++ [name]
  read? table := do
    let make ← f.read? table
    return make (← slot.read? (table.lookup name))
  write? record := do
    let before ← f.write? record
    return before ++ entry name (← slot.write? (get record))

/-- A further member that is taken from `absent` if it is missing. -/
def setting (f : Fields ρ (β → α)) (name : String) (form : Form β) (get : ρ → β) (absent : ρ) :
    Fields ρ α :=
  f.member name (.orElse form (get absent)) get

/-- The members that a value has. -/
def members? (names : List String) : Value → Option Table
  | .table members => some members
  | .array items => some (names.zip items)
  | .moment _ => some []
  | _ => none

/-- The form of the record. -/
def form (f : Fields ρ ρ) : Form ρ where
  read? v := (members? f.names v).bind f.read?
  write? record := (f.write? record).map .table

end Fields

end Perimeter.Settings
