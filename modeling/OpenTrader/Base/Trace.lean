import Mathlib.Data.List.Basic
import Mathlib.Order.Basic

/-!
# Runs of a deterministic step function

Library `Base`. A run feeds a list of inputs to a step function. `Along` states a
condition on every step of a run (the state before the step and its input);
`Throughout` states a property of every state the run visits, the first included.
The rules below reduce a statement about runs to one step.
-/

namespace OpenTrader.Base

variable {σ ι : Type}

/-- State reached from `s` after all inputs. -/
def run (step : σ → ι → σ) (s : σ) (xs : List ι) : σ := xs.foldl step s

/-- Every step of the run meets `cond`, a condition on the state before it and its input. -/
def Along (step : σ → ι → σ) (cond : σ → ι → Prop) : σ → List ι → Prop
  | _, [] => True
  | s, x :: xs => cond s x ∧ Along step cond (step s x) xs

/-- Every state of the run, the first included, satisfies `prop`. -/
def Throughout (step : σ → ι → σ) (prop : σ → Prop) : σ → List ι → Prop
  | s, [] => prop s
  | s, x :: xs => prop s ∧ Throughout step prop (step s x) xs

/-- A decidable step condition can be checked along a run. -/
instance decidableAlong (step : σ → ι → σ) (cond : σ → ι → Prop)
    [∀ s x, Decidable (cond s x)] : ∀ s xs, Decidable (Along step cond s xs)
  | _, [] => .isTrue trivial
  | s, x :: xs =>
    have := decidableAlong step cond (step s x) xs
    inferInstanceAs (Decidable (cond s x ∧ Along step cond (step s x) xs))

variable {step : σ → ι → σ} {inv prop : σ → Prop} {cond cond' : σ → ι → Prop} {s : σ}
  {xs : List ι}

/-- A run of no input stays where it is. -/
@[simp] theorem run_nil (s : σ) : run step s [] = s := rfl

/-- A run takes its first step first. -/
@[simp] theorem run_cons (s : σ) (x : ι) (xs : List ι) :
    run step s (x :: xs) = run step (step s x) xs := rfl

/-- A run of two lists of inputs is the run of the second from where the first ends. -/
theorem run_append (s : σ) (xs ys : List ι) :
    run step s (xs ++ ys) = run step (run step s xs) ys := List.foldl_append

/-- A property throughout a run holds in its first state. -/
theorem Throughout.head (h : Throughout step prop s xs) : prop s := by
  cases xs with
  | nil => exact h
  | cons x xs => exact h.1

/-- A property throughout a run holds in its last state. -/
theorem Throughout.last (h : Throughout step prop s xs) : prop (run step s xs) := by
  induction xs generalizing s with
  | nil => exact h
  | cons x xs ih => exact ih h.2

/-- A weaker property holds throughout the same run. -/
theorem Throughout.mono (h : ∀ s, inv s → prop s) (ht : Throughout step inv s xs) :
    Throughout step prop s xs := by
  induction xs generalizing s with
  | nil => exact h s ht
  | cons x xs ih => exact ⟨h s ht.1, ih ht.2⟩

/-- Two properties throughout a run hold together. -/
theorem Throughout.and (hi : Throughout step inv s xs) (hp : Throughout step prop s xs) :
    Throughout step (fun s => inv s ∧ prop s) s xs := by
  induction xs generalizing s with
  | nil => exact ⟨hi, hp⟩
  | cons x xs ih => exact ⟨⟨hi.1, hp.1⟩, ih hi.2 hp.2⟩

/-- What an invariant says about the next step is met along a run that keeps it. -/
theorem Throughout.along (h : ∀ s x, inv s → cond s x) (ht : Throughout step inv s xs) :
    Along step cond s xs := by
  induction xs generalizing s with
  | nil => trivial
  | cons x xs ih => exact ⟨h s x ht.1, ih ht.2⟩

/-- A weaker condition is met along the same run. -/
theorem Along.mono (h : ∀ s x, cond s x → cond' s x) (hc : Along step cond s xs) :
    Along step cond' s xs := by
  induction xs generalizing s with
  | nil => trivial
  | cons x xs ih => exact ⟨h s x hc.1, ih hc.2⟩

/-- Two conditions are met along a run exactly when their conjunction is. -/
theorem along_and_iff :
    Along step (fun s x => cond s x ∧ cond' s x) s xs ↔
      Along step cond s xs ∧ Along step cond' s xs := by
  induction xs generalizing s with
  | nil => simp [Along]
  | cons x xs ih =>
    rw [Along, Along, Along, ih]
    exact and_and_and_comm

/-- A property holds throughout a run exactly when it holds first and after every step. -/
theorem throughout_iff_along_step :
    Throughout step prop s xs ↔ prop s ∧ Along step (fun s x => prop (step s x)) s xs := by
  induction xs generalizing s with
  | nil => simp [Throughout, Along]
  | cons x xs ih => rw [Throughout, Along, ih]

/-- A condition every step meets is met along every run. -/
theorem along_of_forall (h : ∀ s x, cond s x) (s : σ) (xs : List ι) : Along step cond s xs := by
  induction xs generalizing s with
  | nil => trivial
  | cons x xs ih => exact ⟨h s x, ih (step s x)⟩

variable {p : ι → Prop} {keep : ι → Bool} {t : σ}

/-- A condition on the inputs alone is met along a run when every input meets it. -/
theorem along_input_iff : Along step (fun _ x => p x) s xs ↔ ∀ x ∈ xs, p x := by
  induction xs generalizing s with
  | nil => simp [Along]
  | cons x xs ih => rw [Along, ih, List.forall_mem_cons]

/-- A step condition can be joined with a condition on the inputs alone. -/
theorem Along.and_forall (hc : Along step cond s xs) (hp : ∀ x ∈ xs, p x) :
    Along step (fun s x => cond s x ∧ p x) s xs :=
  along_and_iff.mpr ⟨hc, along_input_iff.mpr hp⟩

section

variable {σ' : Type} {step' : σ' → ι → σ'} (f : σ → σ') (hinv : ∀ s x, inv s → inv (step s x))
  (hsim : ∀ s x, inv s → f (step s x) = step' (f s) x)
include hinv hsim

/-- A run seen through a simulation `f`, which holds for the states that keep `inv`, is the
simulated run. -/
theorem run_simulation (xs : List ι) (hs : inv s) : f (run step s xs) = run step' (f s) xs := by
  induction xs generalizing s with
  | nil => rfl
  | cons x xs ih => rw [run_cons, run_cons, ih (hinv s x hs), hsim s x hs]

/-- A condition that reads the states of a run through a simulation `f`, which holds for the
states that keep `inv`, is a condition on the simulated run. -/
theorem along_simulation {cond : σ' → ι → Prop} (xs : List ι) (hs : inv s) :
    Along step (fun s x => cond (f s) x) s xs ↔ Along step' cond (f s) xs := by
  induction xs generalizing s with
  | nil => exact Iff.rfl
  | cons x xs ih => rw [Along, Along, ih (hinv s x hs), hsim s x hs]

/-- A property that reads the states of a run through a simulation `f` is a property of the
states of the simulated run. -/
theorem throughout_simulation (prop : σ' → Prop) (xs : List ι) (hs : inv s) :
    Throughout step (fun s => prop (f s)) s xs ↔ Throughout step' prop (f s) xs := by
  induction xs generalizing s with
  | nil => exact Iff.rfl
  | cons x xs ih => rw [Throughout, Throughout, ih (hinv s x hs), hsim s x hs]

end

/-- A condition is met along a run exactly when every input meets it in the state the inputs before
it lead to. -/
theorem along_iff_forall_input :
    Along step cond s xs ↔ ∀ before x after, xs = before ++ x :: after →
      cond (run step s before) x := by
  induction xs generalizing s with
  | nil => simp [Along]
  | cons y ys ih =>
    rw [Along, ih]
    constructor
    · rintro ⟨hy, hys⟩ before x after hsplit
      cases before with
      | nil =>
        cases hsplit
        exact hy
      | cons z before =>
        cases hsplit
        exact hys before x after rfl
    · intro h
      exact ⟨h [] y ys rfl, fun before x after hsplit =>
        h (y :: before) x after (by rw [hsplit]; rfl)⟩

/-- Two conditions that mean the same in the states that keep `inv`, for inputs in the domain `dom`,
are met along the same runs. The steps that meet them need to keep `inv`, no others. -/
theorem along_iff_along {dom : ι → Prop} (hinv : ∀ s x, inv s → dom x → cond' s x → inv (step s x))
    (hstep : ∀ s x, inv s → dom x → (cond s x ↔ cond' s x)) (hd : ∀ x ∈ xs, dom x) (hi : inv s) :
    Along step cond s xs ↔ Along step cond' s xs := by
  induction xs generalizing s with
  | nil => exact Iff.rfl
  | cons x xs ih =>
    have hx := hd x List.mem_cons_self
    have hrest := fun y hy => hd y (List.mem_cons_of_mem x hy)
    rw [Along, Along, hstep s x hi hx]
    exact and_congr_right fun hc => ih hrest (hinv s x hi hx hc)

/-- One step of a run beside the run of the inputs of `keep` alone. -/
def beside (step : σ → ι → σ) (keep : ι → Bool) (p : σ × σ) (x : ι) : σ × σ :=
  (step p.1 x, if keep x then step p.2 x else p.2)

/-- The two sides of `beside` are the run of all inputs and the run of those of `keep`. -/
theorem run_beside (keep : ι → Bool) (s t : σ) (xs : List ι) :
    run (beside step keep) (s, t) xs = (run step s xs, run step t (xs.filter keep)) := by
  induction xs generalizing s t with
  | nil => rfl
  | cons x xs ih =>
    rw [run_cons, beside, ih, run_cons]
    by_cases hx : keep x = true
    · rw [if_pos hx, List.filter_cons_of_pos hx, run_cons]
    · rw [if_neg hx, List.filter_cons_of_neg hx]

/-- A condition along both runs compares, at every input, the state all inputs before it lead to
with the one those of `keep` lead to. -/
theorem along_beside_iff {cond : σ × σ → ι → Prop} :
    Along (beside step keep) cond (s, t) xs ↔ ∀ before x after, xs = before ++ x :: after →
      cond (run step s before, run step t (before.filter keep)) x := by
  rw [along_iff_forall_input]
  simp only [run_beside]

/-- A condition on the second side at the inputs of `keep` is a condition along their run. -/
theorem along_beside_filter :
    Along (beside step keep) (fun p x => keep x = true → cond p.2 x) (s, t) xs ↔
      Along step cond t (xs.filter keep) := by
  induction xs generalizing s t with
  | nil => exact Iff.rfl
  | cons x xs ih =>
    rw [Along, beside]
    by_cases hx : keep x = true
    · rw [if_pos hx, ih, List.filter_cons_of_pos hx, Along]
      exact and_congr_left fun _ => ⟨fun h => h hx, fun h _ => h⟩
    · rw [if_neg hx, ih, List.filter_cons_of_neg hx]
      exact ⟨fun h => h.2, fun h => ⟨fun hkeep => absurd hkeep hx, h⟩⟩

/-- Invariant rule: what holds first and survives every step that meets `cond` holds
throughout each run whose steps all meet `cond`. -/
theorem throughout_of_along (hstep : ∀ s x, inv s → cond s x → inv (step s x))
    (hs : inv s) (hc : Along step cond s xs) : Throughout step inv s xs := by
  induction xs generalizing s with
  | nil => exact hs
  | cons x xs ih => exact ⟨hs, ih (hstep s x hs hc.1) hc.2⟩

/-- Invariant rule for every input. -/
theorem throughout_of_step (hstep : ∀ s x, inv s → inv (step s x)) (xs : List ι)
    (hs : inv s) : Throughout step inv s xs :=
  throughout_of_along (fun s x h _ => hstep s x h) hs (along_of_forall (fun _ _ => trivial) s xs)

/-- Exact-condition rule: over states that keep `inv` and steps in the domain `dom`, a step
keeps `prop` exactly when it meets `cond`, so `prop` holds throughout a run exactly when all
its steps meet `cond`. The steps that meet it need to keep `inv`, no others. -/
theorem throughout_iff_along {dom : σ → ι → Prop}
    (hinv : ∀ s x, inv s → dom s x → cond s x → inv (step s x))
    (hstep : ∀ s x, inv s → dom s x → prop s → (prop (step s x) ↔ cond s x))
    (hd : Along step dom s xs) (hi : inv s) (hs : prop s) :
    Throughout step prop s xs ↔ Along step cond s xs := by
  induction xs generalizing s with
  | nil => exact ⟨fun _ => trivial, fun _ => hs⟩
  | cons x xs ih =>
    constructor
    · rintro ⟨_, ht⟩
      have hx : prop (step s x) := ht.head
      have hc : cond s x := (hstep s x hi hd.1 hs).mp hx
      exact ⟨hc, (ih hd.2 (hinv s x hi hd.1 hc) hx).mp ht⟩
    · rintro ⟨hc, ha⟩
      have hx : prop (step s x) := (hstep s x hi hd.1 hs).mpr hc
      exact ⟨hs, (ih hd.2 (hinv s x hi hd.1 hc) hx).mpr ha⟩

/-- Exact-condition rule for every input. -/
theorem throughout_iff_along_of_inv
    (hinv : ∀ s x, inv s → cond s x → inv (step s x))
    (hstep : ∀ s x, inv s → prop s → (prop (step s x) ↔ cond s x))
    (xs : List ι) (hi : inv s) (hs : prop s) :
    Throughout step prop s xs ↔ Along step cond s xs := by
  have hdom : Along step (fun _ _ => True) s xs := along_of_forall (fun _ _ => trivial) s xs
  exact throughout_iff_along (fun s x h _ hc => hinv s x h hc) (fun s x h _ hp => hstep s x h hp)
    hdom hi hs

/-- Exact-condition rule without invariant or domain. -/
theorem throughout_iff_along_of_step
    (hstep : ∀ s x, prop s → (prop (step s x) ↔ cond s x)) (xs : List ι) (hs : prop s) :
    Throughout step prop s xs ↔ Along step cond s xs := by
  exact @throughout_iff_along_of_inv σ ι step (fun _ => True) prop cond s
    (fun _ _ _ _ => trivial) (fun s x _ h => hstep s x h) xs trivial hs

section

variable {α : Type} [PartialOrder α] {amount : σ → α}

/-- What no step lowers, no run lowers. -/
theorem le_run (hinv : ∀ s x, inv s → inv (step s x))
    (hle : ∀ s x, inv s → amount s ≤ amount (step s x)) (xs : List ι) (hs : inv s) :
    amount s ≤ amount (run step s xs) := by
  induction xs generalizing s with
  | nil => exact le_refl _
  | cons x xs ih => exact (hle s x hs).trans (ih (hinv s x hs))

/-- What no step lowers is unchanged by a run exactly when every step leaves it unchanged. -/
theorem run_eq_iff_along (hinv : ∀ s x, inv s → inv (step s x))
    (hle : ∀ s x, inv s → amount s ≤ amount (step s x))
    (hstep : ∀ s x, inv s → (amount (step s x) = amount s ↔ cond s x)) (xs : List ι)
    (hs : inv s) : amount (run step s xs) = amount s ↔ Along step cond s xs := by
  induction xs generalizing s with
  | nil => exact iff_of_true rfl trivial
  | cons x xs ih =>
    have hnext := ih (hinv s x hs)
    rw [run_cons, Along, ← hstep s x hs]
    constructor
    · intro heq
      have hfst : amount (step s x) = amount s :=
        le_antisymm (heq ▸ le_run hinv hle xs (hinv s x hs)) (hle s x hs)
      exact ⟨hfst, hnext.mp (heq.trans hfst.symm)⟩
    · rintro ⟨hfst, hrest⟩
      exact (hnext.mpr hrest).trans hfst

end

end OpenTrader.Base
