import Perimeter.Proofs.Toml.Value
import Perimeter.Toml.Document

/-!
# `Perimeter.Proofs.Toml.Place`: places in a file

Steps lead from a value to the members of a table and to the items of a list. They tell what
stands at a place (`Value.at?`), and whether a file says nothing of it (`Value.lacks`).
-/

set_option autoImplicit false

namespace Perimeter.Toml

/-- A step into a value: to a member of a table, or to an item of a list. -/
inductive Step where
  | member (name : String)
  | item (n : Nat)

/-- What stands where some steps lead. -/
def Value.at? : Value → List Step → Option Value
  | v, [] => some v
  | .table members, .member name :: place => (members.lookup name).bind (·.at? place)
  | .array items, .item n :: place => items[n]?.bind (·.at? place)
  | _, _ :: _ => none

/-- Whether some steps lead to a member that a table does not have. -/
def Value.lacks : Value → List Step → Bool
  | .table members, .member name :: place => (members.lookup name).all (·.lacks place)
  | .array items, .item n :: place => items[n]?.any (·.lacks place)
  | _, _ => false

/-- Nothing can be left out of a value that stands on a line. -/
theorem Value.IsPlain.lacks {v : Value} (h : v.IsPlain) (place : List Step) :
    v.lacks place = false := by
  have hscalar : ∀ v : Value, v.IsScalar → ∀ place, v.lacks place = false := by
    intro v hv place
    cases v <;> first | exact hv.elim | (cases place <;> rfl)
  rcases h with hv | ⟨items, rfl, hitems⟩
  · exact hscalar v hv place
  · match place with
    | [] | .member _ :: _ => rfl
    | .item n :: place =>
      change items[n]?.any (·.lacks place) = false
      rw [Option.any_eq_false]
      intro item hitem
      simp [hscalar item (hitems item (List.mem_of_getElem? hitem)) place]

/-- In a table it matters only what stands under each name. -/
theorem Value.at?_congr {members members' : Table}
    (h : ∀ name, members.lookup name = members'.lookup name) {place : List Step}
    (hplace : place ≠ []) : (Value.table members).at? place = (Value.table members').at? place := by
  match place with
  | .member name :: place => simp only [Value.at?, h name]
  | .item _ :: _ => rfl

/-- What stands at a place of a file. -/
def at? (text : String) (place : List Step) : Option Value :=
  (parse? text).bind fun file => (Value.table file).at? place

/-- Whether a file says nothing of a place. -/
def lacks (text : String) (place : List Step) : Bool :=
  (parse? text).any fun file => (Value.table file).lacks place

end Perimeter.Toml
