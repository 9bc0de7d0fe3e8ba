/-!
# `Perimeter.Assoc`: finite maps as lists of pairs

The registry and the expiring stores are finite maps whose order shows nowhere
but in a choice among equals. They are kept as lists of pairs in which a key
stands once. The view of a map is `Assoc.get?`, and each operation is described
by what it does to the view.

* `get?_put`: a write is seen under its key and nowhere else.
* `get?_erase`: a removal is seen under its key and nowhere else.
* `remove_eq`: a removal that gives the value back.
* `get?_filter`: a selection among the pairs selects in the view.
* `nodup_put`, `nodup_filter`: keys stay distinct.
-/

set_option autoImplicit false

namespace Perimeter.Assoc

variable {K V : Type} [DecidableEq K]

/-- The value stored under a key. -/
def get? : List (K × V) → K → Option V
  | [], _ => none
  | (k', v) :: rest, k => if k' = k then some v else get? rest k

/-- Stores a value under a key, in place of the one there or after all others. -/
def put : List (K × V) → K → V → List (K × V)
  | [], k, v => [(k, v)]
  | (k', v') :: rest, k, v => if k' = k then (k, v) :: rest else (k', v') :: put rest k v

/-- Removes what is stored under a key. -/
def erase (m : List (K × V)) (k : K) : List (K × V) := m.filter fun e => e.1 ≠ k

/-- Takes out what is stored under a key, and gives its value. -/
def remove : List (K × V) → K → List (K × V) × Option V
  | [], _ => ([], none)
  | (k', v) :: rest, k =>
    if k' = k then (rest, some v) else ((k', v) :: (remove rest k).1, (remove rest k).2)

/-- The keys, in order. -/
def keys (m : List (K × V)) : List K := m.map (·.1)

@[simp] theorem get?_nil (k : K) : get? ([] : List (K × V)) k = none := rfl

theorem get?_put (m : List (K × V)) (k k' : K) (v : V) :
    get? (put m k v) k' = if k = k' then some v else get? m k' := by
  induction m with
  | nil => rfl
  | cons e rest ih => grind [get?, put]

theorem get?_erase (m : List (K × V)) (k k' : K) :
    get? (erase m k) k' = if k = k' then none else get? m k' := by
  induction m with
  | nil => simp [erase]
  | cons e rest ih => grind [get?, erase]

theorem get?_eq_none_iff {m : List (K × V)} {k : K} : get? m k = none ↔ k ∉ keys m := by
  induction m with
  | nil => simp [keys]
  | cons e rest ih => grind [get?, keys]

theorem mem_of_get? {m : List (K × V)} {k : K} {v : V} (h : get? m k = some v) : (k, v) ∈ m := by
  induction m with
  | nil => cases h
  | cons e rest ih => grind [get?]

theorem get?_of_mem {m : List (K × V)} {k : K} {v : V} (hm : (keys m).Nodup) (h : (k, v) ∈ m) :
    get? m k = some v := by
  induction m with
  | nil => cases h
  | cons e rest ih => grind [get?, keys]

/-- A selection among the pairs selects in the view. Keys have to be distinct: a pair
that is dropped must not uncover another of its key. -/
theorem get?_filter {m : List (K × V)} (hm : (keys m).Nodup) (p : K × V → Bool) (k : K) :
    get? (m.filter p) k = (get? m k).filter fun v => p (k, v) := by
  induction m with
  | nil => rfl
  | cons e rest ih =>
    obtain ⟨k', v⟩ := e
    obtain ⟨hnot, hdistinct⟩ := List.nodup_cons.mp hm
    rw [List.filter_cons]
    by_cases hk : k' = k
    · subst hk
      -- The rest has no pair of this key, so nothing is uncovered.
      have hnone : get? rest k' = none := get?_eq_none_iff.mpr hnot
      have hrest : get? (rest.filter p) k' = none := by rw [ih hdistinct, hnone]; rfl
      by_cases hp : p (k', v) <;> simp [get?, Option.filter, hp, hrest]
    · by_cases hp : p (k', v) <;> simp [get?, hp, hk, ih hdistinct]

theorem mem_keys_put {m : List (K × V)} {k k' : K} {v : V} :
    k' ∈ keys (put m k v) ↔ k' = k ∨ k' ∈ keys m := by
  induction m with
  | nil => simp [put, keys]
  | cons e rest ih => grind [put, keys]

theorem mem_of_mem_put {m : List (K × V)} {k : K} {v : V} {e : K × V} (h : e ∈ put m k v) :
    e = (k, v) ∨ e ∈ m := by
  induction m with
  | nil => exact .inl (List.mem_singleton.mp h)
  | cons a rest ih => grind [put]

theorem nodup_put {m : List (K × V)} (h : (keys m).Nodup) (k : K) (v : V) :
    (keys (put m k v)).Nodup := by
  induction m with
  | nil => simp [put, keys]
  | cons e rest ih => grind [put, keys, mem_keys_put]

omit [DecidableEq K] in
theorem nodup_filter {m : List (K × V)} (h : (keys m).Nodup) (p : K × V → Bool) :
    (keys (m.filter p)).Nodup :=
  h.sublist (List.filter_sublist.map _)

/-- Where keys are distinct, what is taken out under a key is all there is under it. -/
theorem remove_eq {m : List (K × V)} (hm : (keys m).Nodup) (k : K) :
    remove m k = (erase m k, get? m k) := by
  induction m with
  | nil => rfl
  | cons e rest ih =>
    obtain ⟨k', v⟩ := e
    obtain ⟨hnot, hdistinct⟩ := List.nodup_cons.mp hm
    by_cases hk : k' = k
    · subst hk
      have hrest : erase rest k' = rest := by
        refine List.filter_eq_self.mpr fun e he => ?_
        have hother : e.1 ≠ k' := fun heq => hnot (List.mem_map.mpr ⟨e, he, heq⟩)
        simpa using hother
      have herase : erase ((k', v) :: rest) k' = erase rest k' := by simp [erase]
      simp [remove, get?, herase, hrest]
    · have herase : erase ((k', v) :: rest) k = (k', v) :: erase rest k := by simp [erase, hk]
      simp [remove, get?, hk, ih hdistinct, herase]

theorem nodup_erase {m : List (K × V)} (h : (keys m).Nodup) (k : K) :
    (keys (erase m k)).Nodup :=
  nodup_filter h _

end Perimeter.Assoc
