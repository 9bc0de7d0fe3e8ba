import Mathlib.Data.List.Forall2

/-!
# `Perimeter.Proofs.Checks`: what a chain of checks asks for

Readers and validators are chains of checks in which the first refusal ends everything. A
chain gives a result exactly if every check in turn lets it through. The lemmas here take a
chain apart from its front, one for each way in which it goes on.
-/

set_option autoImplicit false

namespace Perimeter.Checks

variable {ε ε' α β : Type} {p : Prop} [Decidable p] {e e' : ε} {x : Except ε α}
  {f : α → Except ε β} {rest : Except ε β} {a : α} {b : β}

/-- A chain gives a result if its first link does and the rest makes that of it. -/
theorem bind_eq_ok : (x >>= f) = .ok b ↔ ∃ a, x = .ok a ∧ f a = .ok b := by
  cases x with
  | error e => simp [bind, Except.bind]
  | ok a => simp [bind, Except.bind]

/-- A chain is refused by its first link, or by the rest. -/
theorem bind_eq_error :
    (x >>= f) = .error e ↔ x = .error e ∨ ∃ a, x = .ok a ∧ f a = .error e := by
  cases x with
  | error e => simp [bind, Except.bind]
  | ok a => simp [bind, Except.bind]

/-- A refusal ends the chain. -/
theorem throw_bind : (throw e >>= f) = .error e := rfl

/-- A result is what the chain goes on with. -/
theorem ok_bind : (.ok a >>= f) = f a := rfl

/-- A check that refuses what has a property lets through what does not have it. -/
theorem error_if_eq_ok : (if p then .error e else rest) = .ok b ↔ ¬ p ∧ rest = .ok b := by
  by_cases hp : p <;> simp [hp]

/-- It refuses what has the property, and leaves what does not to the rest. -/
theorem error_if_eq_error :
    (if p then .error e else rest) = .error e' ↔ p ∧ e = e' ∨ ¬ p ∧ rest = .error e' := by
  by_cases hp : p <;> simp [hp]

theorem pure_eq_ok {a' : α} : (pure a : Except ε α) = .ok a' ↔ a = a' := by
  simp [pure, Except.pure]

theorem mapError_ok {g : ε → ε'} : (Except.ok a : Except ε α).mapError g = .ok a := rfl

theorem mapError_error {g : ε → ε'} : (Except.error e : Except ε α).mapError g = .error (g e) :=
  rfl

/-- Other words for a refusal change no result. -/
theorem mapError_eq_ok {g : ε → ε'} : x.mapError g = .ok a ↔ x = .ok a := by
  cases x with
  | error e => simp only [mapError_error, reduceCtorEq]
  | ok a => simp only [mapError_ok, Except.ok.injEq]

/-- They are a refusal still. -/
theorem mapError_eq_error {e : ε'} {g : ε → ε'} :
    x.mapError g = .error e ↔ ∃ e', x = .error e' ∧ g e' = e := by
  cases x with
  | error e' => simp only [mapError_error, Except.error.injEq, exists_eq_left']
  | ok a => simp only [mapError_ok, reduceCtorEq, false_and, exists_false]

theorem map_eq_ok {g : α → β} : g <$> x = .ok b ↔ ∃ a, x = .ok a ∧ g a = b := by
  cases x <;> simp [Functor.map, Except.map]

theorem map_eq_error {g : α → β} : g <$> x = .error e ↔ x = .error e := by
  cases x <;> simp [Functor.map, Except.map]

/-- A list of checks gives results if each check gives the result at its place. -/
theorem mapM_eq_ok {f : α → Except ε β} {as : List α} {bs : List β} :
    as.mapM f = .ok bs ↔ List.Forall₂ (fun a b => f a = .ok b) as bs := by
  induction as generalizing bs with
  | nil => cases bs <;> simp [pure_eq_ok]
  | cons a as ih =>
    rw [List.mapM_cons]
    simp only [bind_eq_ok, pure_eq_ok]
    constructor
    · intro h
      obtain ⟨b, hb, bs', hbs, heq⟩ := h
      subst heq
      exact .cons hb (ih.mp hbs)
    · intro h
      cases h with
      | cons hb hbs => exact ⟨_, hb, _, ih.mpr hbs, rfl⟩

/-- A list of checks is refused for what the first of them to refuse says. -/
theorem mapM_eq_error {f : α → Except ε β} {as : List α} :
    as.mapM f = .error e ↔ ∃ before a after, as = before ++ a :: after ∧
      (∀ x ∈ before, ∃ b, f x = .ok b) ∧ f a = .error e := by
  induction as with
  | nil => simp [pure, Except.pure]
  | cons a as ih =>
    rw [List.mapM_cons]
    cases ha : f a with
    | error e' =>
      -- Nothing that is given up at the front can be put before it.
      constructor
      · intro h
        cases h
        exact ⟨[], a, as, rfl, nofun, ha⟩
      · intro h
        obtain ⟨before, a', after, has, hbefore, ha'⟩ := h
        cases before with
        | nil =>
          cases has
          cases ha.symm.trans ha'
          rfl
        | cons x before =>
          cases has
          obtain ⟨b, hb⟩ := hbefore a List.mem_cons_self
          exact absurd (ha.symm.trans hb) (by simp)
    | ok b =>
      have hrest : (do let bs ← as.mapM f; pure (b :: bs) : Except ε (List β)) = .error e ↔
          as.mapM f = .error e := by
        cases as.mapM f <;> simp [bind, Except.bind, pure, Except.pure]
      refine hrest.trans (ih.trans ⟨?_, ?_⟩)
      · intro h
        obtain ⟨before, a', after, has, hbefore, ha'⟩ := h
        refine ⟨a :: before, a', after, congrArg _ has, ?_, ha'⟩
        exact List.forall_mem_cons.mpr ⟨⟨b, ha⟩, hbefore⟩
      · intro h
        obtain ⟨before, a', after, has, hbefore, ha'⟩ := h
        cases before with
        | nil =>
          cases has
          exact absurd (ha.symm.trans ha') (by simp)
        | cons x before =>
          cases has
          exact ⟨before, a', after, rfl, (List.forall_mem_cons.mp hbefore).2, ha'⟩

theorem toOption_eq_some : x.toOption = some a ↔ x = .ok a := by
  cases x <;> simp [Except.toOption]

end Perimeter.Checks
