import Mathlib.Data.List.TakeWhile

/-!
# `Perimeter.Proofs.Digits`: numbers are read from the digits that they are written with

Readers of numbers take all digits in front and add them up, and each has a function of its own
for the value of a digit. All that matters of it is that it knows the digits below the base
(`Knows`): then the digits of a number add up to the number (`foldl_toDigits`).

What follows a number must not go on with digits. `Stops` says so for any reader that takes
characters while they are of a kind.
-/

set_option autoImplicit false

namespace Perimeter.Digits

/-! ### Characters of a kind in front -/

/-- No character of a kind stands in front. -/
def Stops (p : Char → Bool) (rest : List Char) : Prop := ∀ c ∈ rest.head?, p c = false

section
variable {p : Char → Bool} {front rest : List Char}

theorem stops_nil : Stops p [] := by
  intro c hc
  exact absurd hc (by simp)

theorem stops_cons {c : Char} (h : p c = false) : Stops p (c :: rest) := by
  intro d hd
  obtain rfl : c = d := by simpa using hd
  exact h

theorem Stops.mono {q : Char → Bool} (h : Stops p rest) (hpq : ∀ c, q c → p c) : Stops q rest := by
  intro c hc
  have hp := h c hc
  by_contra hq
  rw [hpq c (by simpa using hq)] at hp
  exact absurd hp (by decide)

theorem Stops.append (hfront : Stops p front) (hrest : Stops p rest) : Stops p (front ++ rest) := by
  cases front with
  | nil => exact hrest
  | cons c front => exact stops_cons (hfront c rfl)

theorem Stops.takeWhile (h : Stops p rest) : rest.takeWhile p = [] := by
  cases rest with
  | nil => rfl
  | cons c rest => rw [List.takeWhile_cons_of_neg (by simp [h c rfl])]

theorem Stops.dropWhile (h : Stops p rest) : rest.dropWhile p = rest := by
  cases rest with
  | nil => rfl
  | cons c rest => rw [List.dropWhile_cons_of_neg (by simp [h c rfl])]

theorem takeWhile_append (hfront : ∀ c ∈ front, p c) (hrest : Stops p rest) :
    (front ++ rest).takeWhile p = front := by
  rw [List.takeWhile_append_of_pos hfront, hrest.takeWhile, List.append_nil]

theorem dropWhile_append (hfront : ∀ c ∈ front, p c) (hrest : Stops p rest) :
    (front ++ rest).dropWhile p = rest := by
  rw [List.dropWhile_append_of_pos hfront, hrest.dropWhile]

theorem mem_of_mem_head_dropWhile {c : Char} (hrest : Stops p rest)
    (h : c ∈ ((front ++ rest).dropWhile p).head?) : c ∈ front ∨ c ∈ rest.head? := by
  induction front with
  | nil =>
    rw [List.nil_append, hrest.dropWhile] at h
    exact .inr h
  | cons d front ih =>
    rw [List.cons_append, List.dropWhile_cons] at h
    split at h
    · exact (ih h).imp_left (List.mem_cons_of_mem d)
    · exact .inl (by simpa [eq_comm] using Or.inl h)

end

/-! ### The digits of a number -/

/-- A function for the value of a digit knows those below a base. -/
def Knows (value? : Char → Option Nat) (base : Nat) : Prop :=
  ∀ d < base, value? (Nat.digitChar d) = some d

variable {value? : Char → Option Nat} {base n : Nat}

theorem exists_of_mem_toDigits (hbase : 1 < base) {c : Char} (h : c ∈ Nat.toDigits base n) :
    ∃ d < base, c = Nat.digitChar d := by
  induction n using Nat.strongRecOn with
  | _ n ih =>
    rw [Nat.toDigits_eq_if hbase] at h
    split at h
    · exact ⟨n, ‹_›, by simpa using h⟩
    · rcases List.mem_append.mp h with hfront | hlast
      · exact ih (n / base) (Nat.div_lt_self (by omega) hbase) hfront
      · exact ⟨n % base, Nat.mod_lt n (by omega), by simpa using hlast⟩

theorem isSome_of_mem_toDigits (hbase : 1 < base) (hknows : Knows value? base) {c : Char}
    (h : c ∈ Nat.toDigits base n) : (value? c).isSome := by
  obtain ⟨d, hd, rfl⟩ := exists_of_mem_toDigits hbase h
  rw [hknows d hd]
  rfl

/-- The digits of a number add up to the number. -/
theorem foldl_toDigits (hbase : 1 < base) (hknows : Knows value? base) :
    (Nat.toDigits base n).foldl (fun acc c => acc * base + (value? c).getD 0) 0 = n := by
  induction n using Nat.strongRecOn with
  | _ n ih =>
    rw [Nat.toDigits_eq_if hbase]
    split
    · simp [hknows n ‹_›]
    · have hfront := ih (n / base) (Nat.div_lt_self (by omega) hbase)
      rw [List.foldl_append, hfront, List.foldl_cons, List.foldl_nil,
        hknows _ (Nat.mod_lt n (by omega)), Option.getD_some]
      exact Nat.div_add_mod' n base

/-- Only zero is written with a leading zero. -/
theorem toDigits_of_head_zero {b : Nat} (hbase : 1 < b)
    (h : (Nat.toDigits b n).head? = some '0') : n = 0 := by
  induction n using Nat.strongRecOn with
  | _ n ih =>
    rw [Nat.toDigits_eq_if hbase] at h
    split at h
    · simpa using h
    · -- The front is not empty, so it has the head.
      obtain ⟨c, rest, hfront⟩ := List.exists_cons_of_ne_nil
        (Nat.toDigits_ne_nil (n := n / b) (b := b))
      rw [hfront] at h
      have hzero := ih (n / b) (Nat.div_lt_self (by omega) hbase) (by rw [hfront]; simpa using h)
      rcases Nat.div_eq_zero_iff.mp hzero with hbase | hlt <;> omega

end Perimeter.Digits
