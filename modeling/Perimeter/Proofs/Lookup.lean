import Mathlib.Data.List.Perm.Basic
import Mathlib.Data.List.Nodup

/-!
# `Perimeter.Proofs.Lookup`: what is found under a name

Where no name stands twice, a name finds the value that stands under it, and it does not matter
in which order the names stand (`lookup_of_perm`).
-/

set_option autoImplicit false

namespace Perimeter.Lookup

variable {α β : Type} [DecidableEq α] {l l' : List (α × β)} {key : α} {value : β}

theorem lookup_of_not_mem (h : key ∉ l.map Prod.fst) : l.lookup key = none := by
  rw [List.lookup_eq_none_iff]
  intro entry hentry
  have hne : key ≠ entry.1 := fun heq => h (heq ▸ List.mem_map_of_mem hentry)
  simpa using hne

theorem mem_of_lookup (h : l.lookup key = some value) : (key, value) ∈ l := by
  obtain ⟨before, after, rfl, -⟩ := List.lookup_eq_some_iff.mp h
  simp

theorem lookup_eq_some_iff (hdistinct : (l.map Prod.fst).Nodup) :
    l.lookup key = some value ↔ (key, value) ∈ l := by
  refine ⟨mem_of_lookup, fun hmem => ?_⟩
  induction l with
  | nil => exact absurd hmem (by simp)
  | cons entry l ih =>
    obtain ⟨hnew, hrest⟩ := List.nodup_cons.mp hdistinct
    rcases List.mem_cons.mp hmem with rfl | hin
    · exact List.lookup_cons_self
    · have hne : key ≠ entry.1 := by
        intro heq
        exact hnew (heq ▸ List.mem_map_of_mem hin)
      rw [List.lookup_cons, beq_false_of_ne hne, ih hrest hin]

/-- Where no name stands twice, the order of the names does not matter. -/
theorem lookup_of_perm (hperm : l.Perm l') (hdistinct : (l.map Prod.fst).Nodup) (key : α) :
    l.lookup key = l'.lookup key := by
  have hdistinct' : (l'.map Prod.fst).Nodup := (hperm.map Prod.fst).nodup_iff.mp hdistinct
  refine Option.ext fun value => ?_
  rw [lookup_eq_some_iff hdistinct, lookup_eq_some_iff hdistinct', hperm.mem_iff]

end Perimeter.Lookup
