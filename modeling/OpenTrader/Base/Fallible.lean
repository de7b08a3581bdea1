import Mathlib.Data.Option.Basic

/-!
# Fallible computations

Library `Base`. Inversion rules for `Except`: what a computation that succeeded went through.
-/

namespace OpenTrader.Base

variable {ε ε' α β : Type} {x : Except ε α} {f : α → Except ε β} {a : α} {b : β}

/-- A sequence succeeds exactly when both parts do. -/
theorem bind_eq_ok_iff : (x >>= f) = .ok b ↔ ∃ a, x = .ok a ∧ f a = .ok b := by
  cases x with
  | error e => exact ⟨nofun, nofun⟩
  | ok a =>
    constructor
    · intro h
      exact ⟨a, rfl, h⟩
    · rintro ⟨_, ⟨⟩, h⟩
      exact h

/-- A sequence has a result exactly when the first part has one that the second part takes. -/
theorem bind_isOk_iff : (∃ b, (x >>= f) = .ok b) ↔ ∃ a, x = .ok a ∧ ∃ b, f a = .ok b := by
  simp only [bind_eq_ok_iff]
  rw [exists_comm]
  simp only [exists_and_left]

/-- A pure result is the result. -/
theorem pure_eq_ok_iff {b : α} : (pure a : Except ε α) = .ok b ↔ a = b := by
  constructor
  · intro h
    exact Except.ok.inj h
  · rintro rfl
    rfl

/-- A changed result is the change of a result. -/
theorem map_eq_ok_iff {f : α → β} : x.map f = .ok b ↔ ∃ a, x = .ok a ∧ f a = b := by
  cases x <;> simp [Except.map]

/-- Renaming the error does not change success. -/
theorem mapError_eq_ok_iff {f : ε → ε'} : x.mapError f = .ok a ↔ x = .ok a := by
  cases x <;> simp [Except.mapError]

/-- A guard succeeds exactly when its condition does not hold and the rest does. -/
theorem guard_eq_ok_iff {p : Prop} [Decidable p] {e : ε} :
    (if p then .error e else x) = .ok a ↔ ¬ p ∧ x = .ok a := by
  by_cases hp : p <;> simp [hp]

/-- The result of a computation, as an option. -/
theorem toOption_eq_some_iff : x.toOption = some a ↔ x = .ok a := by
  cases x <;> simp [Except.toOption]

/-- Every result of a list of computations is the result of one of them. -/
theorem exists_of_mapM_eq_ok {xs : List α} {ys : List β} (h : xs.mapM f = .ok ys) :
    ∀ y ∈ ys, ∃ x ∈ xs, f x = .ok y := by
  induction xs generalizing ys with
  | nil =>
    rw [List.mapM_nil, pure_eq_ok_iff] at h
    subst h
    intro y hy
    cases hy
  | cons x xs ih =>
    rw [List.mapM_cons] at h
    simp only [bind_eq_ok_iff, pure_eq_ok_iff] at h
    obtain ⟨first, hfst, rest, hrest, rfl⟩ := h
    intro y hy
    rcases List.mem_cons.mp hy with rfl | hy
    · exact ⟨x, List.mem_cons_self, hfst⟩
    · obtain ⟨x', hx', hy'⟩ := ih hrest y hy
      exact ⟨x', List.mem_cons_of_mem x hx', hy'⟩

end OpenTrader.Base
