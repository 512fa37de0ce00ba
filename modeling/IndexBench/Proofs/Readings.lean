import Mathlib.Data.List.Forall2

/-!
# Readings in a row

Readings that can fail are made one after the other, up to the first that fails.

Main results:

- Theorems `bind_eq_ok_iff` and `bind_eq_error_iff`: two readings in a row.
- Theorems `mapM_eq_ok_iff` and `mapM_eq_error_iff`: one reading for each entry of a list.
-/

namespace IndexBench

variable {α β ε : Type} {f : α → Except ε β}

/-- Two readings in a row succeed exactly if both do. -/
theorem bind_eq_ok_iff {reading : Except ε α} {y : β} :
    reading >>= f = .ok y ↔ ∃ x, reading = .ok x ∧ f x = .ok y := by
  cases reading <;> simp [bind, Except.bind]

/-- Two readings in a row fail exactly if the first does, or the second after it. -/
theorem bind_eq_error_iff {reading : Except ε α} {failure : ε} :
    reading >>= f = .error failure ↔
      reading = .error failure ∨ ∃ x, reading = .ok x ∧ f x = .error failure := by
  cases reading <;> simp [bind, Except.bind]

/-- Reading in a row succeeds exactly with what each reading yields. -/
theorem mapM_eq_ok_iff {xs : List α} {ys : List β} :
    xs.mapM f = .ok ys ↔ List.Forall₂ (fun x y => f x = .ok y) xs ys := by
  induction xs generalizing ys with
  | nil => cases ys <;> simp [pure, Except.pure]
  | cons x xs ih =>
      simp only [List.mapM_cons, bind_eq_ok_iff, ih]
      constructor
      · rintro ⟨y, hy, later, hlater, ⟨⟩⟩
        exact .cons hy hlater
      · rintro (_ | ⟨hy, hlater⟩)
        exact ⟨_, hy, _, hlater, rfl⟩

/-- Reading in a row fails exactly with the first reading that does. -/
theorem mapM_eq_error_iff {xs : List α} {failure : ε} :
    xs.mapM f = .error failure ↔ ∃ (k : Nat) (x : α), xs[k]? = some x ∧ f x = .error failure ∧
      ∀ earlier ∈ xs.take k, ∃ y, f earlier = .ok y := by
  induction xs with
  | nil => simp [pure, Except.pure]
  | cons x xs ih =>
      simp only [List.mapM_cons, bind_eq_error_iff]
      constructor
      · rintro (hx | ⟨y, hx, hxs | ⟨later, -, hpure⟩⟩)
        · exact ⟨0, x, rfl, hx, List.forall_mem_nil _⟩
        · obtain ⟨k, x', hk, hx', hearlier⟩ := ih.mp hxs
          exact ⟨k + 1, x', hk, hx', List.forall_mem_cons.mpr ⟨⟨y, hx⟩, hearlier⟩⟩
        · cases hpure
      · rintro ⟨k, x', hk, hx', hearlier⟩
        cases k with
        | zero =>
            obtain rfl := Option.some.inj hk
            exact .inl hx'
        | succ k =>
            obtain ⟨⟨y, hx⟩, hearlier⟩ := List.forall_mem_cons.mp hearlier
            exact .inr ⟨y, hx, .inl (ih.mpr ⟨k, x', hk, hx', hearlier⟩)⟩

end IndexBench
