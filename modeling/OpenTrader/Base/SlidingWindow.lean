import Mathlib.Algebra.Order.Group.Basic
import Mathlib.Data.List.Sort
import OpenTrader.Base.Trace

/-!
# Sliding windows

Library `Base`. A limiter admits events at times that do not go back, and keeps some of the times it
admitted. `KeepsRecent` says that it has kept those that still count: the ones at most a window
before now. A limiter that admits only while fewer than the limit are kept never has more than the
limit in any closed window.
-/

namespace OpenTrader.Base

variable {T : Type}

/-! ### Times that do not go back -/

section

variable [Preorder T] {σ ι : Type} {step : σ → ι → σ} {time : ι → T} {inv : T → σ → Prop} {s : σ}
  {xs : List ι}

/-- Conditions that mean the same wherever what a step keeps holds are met along the same runs. -/
theorem along_iff_of_ordered {cond cond' : σ → ι → Prop}
    (hinv : ∀ now s x, inv now s → now ≤ time x → cond' s x → inv (time x) (step s x))
    (hstep : ∀ now s x, inv now s → now ≤ time x → (cond s x ↔ cond' s x))
    (hs : ∀ now, inv now s) (hordered : xs.Pairwise (time · ≤ time ·)) :
    Along step cond s xs ↔ Along step cond' s xs := by
  cases xs with
  | nil => exact Iff.rfl
  | cons x xs =>
    rw [Along, Along, hstep _ s x (hs _) le_rfl]
    refine and_congr_right fun hx => ?_
    have hnext : inv (time x) (step s x) := hinv _ s x (hs _) le_rfl hx
    clear hs hx
    induction xs generalizing x s with
    | nil => exact Iff.rfl
    | cons y ys ih =>
      obtain ⟨hhead, htail⟩ := List.pairwise_cons.mp hordered
      have hle : time x ≤ time y := hhead y List.mem_cons_self
      rw [Along, Along, hstep _ _ y hnext hle]
      exact and_congr_right fun hy => ih y htail (hinv _ _ y hnext hle hy)

/-- What a step at a time keeps, from any earlier time, holds along a run at times that do not go
back. -/
theorem along_of_ordered (hstep : ∀ now s x, inv now s → now ≤ time x → inv (time x) (step s x))
    (hs : ∀ now, inv now s) (hordered : xs.Pairwise (time · ≤ time ·)) :
    Along step (fun s x => ∃ now ≤ time x, inv now s) s xs := by
  have hiff : Along step (fun s x => ∃ now ≤ time x, inv now s) s xs ↔
      Along step (fun _ _ => True) s xs :=
    along_iff_of_ordered (fun now s x h hle _ => hstep now s x h hle)
      (fun now s x h hle => iff_of_true ⟨now, hle, h⟩ trivial) hs hordered
  exact hiff.mpr (along_of_forall (fun _ _ => trivial) s xs)

/-- It holds after the run. -/
theorem exists_run_of_ordered [Nonempty T]
    (hstep : ∀ now s x, inv now s → now ≤ time x → inv (time x) (step s x))
    (hs : ∀ now, inv now s) (hordered : xs.Pairwise (time · ≤ time ·)) :
    ∃ now, inv now (run step s xs) := by
  have halong := along_of_ordered hstep hs hordered
  rcases List.eq_nil_or_concat' xs with rfl | ⟨front, x, rfl⟩
  · exact ⟨Classical.arbitrary T, hs _⟩
  · rw [along_iff_forall_input] at halong
    obtain ⟨now, hle, hinv⟩ := halong front x [] rfl
    rw [run_append]
    exact ⟨time x, hstep now _ x hinv hle⟩

end

/-! ### What still counts -/

variable [AddCommGroup T] [LinearOrder T]

/-- The times that still count: at most `width` before `now`. -/
def recent (width now : T) (times : List T) : List T := times.filter (now - width ≤ ·)

/-- The times in the closed window from `start` on. -/
def inWindow (width start : T) (times : List T) : List T :=
  times.filter fun t => start ≤ t ∧ t ≤ start + width

/-- No closed window holds more than `limit` times. -/
def WithinLimit (width : T) (limit : ℤ) (log : List T) : Prop :=
  ∀ start, ((inWindow width start log).length : ℤ) ≤ limit

/-- Of the times in the log, all past, what is kept has those that still count. -/
structure KeepsRecent (width now : T) (log kept : List T) : Prop where
  past : ∀ t ∈ log, t ≤ now
  agrees : recent width now kept = recent width now log

variable {width now now' start : T} {log kept : List T}

private theorem recent_recent [IsOrderedAddMonoid T] (h : now ≤ now') (times : List T) :
    recent width now' (recent width now times) = recent width now' times := by
  unfold recent
  rw [List.filter_filter]
  refine List.filter_congr fun t _ => ?_
  simp only [Bool.and_eq_left_iff_imp, decide_eq_true_eq]
  exact (sub_le_sub_right h width).trans

namespace KeepsRecent

/-- Nothing is admitted and nothing is kept. -/
theorem nil (width now : T) : KeepsRecent width now [] [] := ⟨by simp, rfl⟩

/-- Time passes. -/
theorem later [IsOrderedAddMonoid T] (h : KeepsRecent width now log kept) (hnow : now ≤ now') :
    KeepsRecent width now' log kept where
  past t ht := (h.past t ht).trans hnow
  agrees := by rw [← recent_recent hnow kept, h.agrees, recent_recent hnow]

/-- What no longer counts is dropped. -/
theorem prune [IsOrderedAddMonoid T] (h : KeepsRecent width now log kept) :
    KeepsRecent width now log (recent width now kept) :=
  ⟨h.past, by rw [recent_recent le_rfl, h.agrees]⟩

/-- All of it is dropped when none of it counts. -/
theorem drop (h : KeepsRecent width now log kept) (hstale : ∀ t ∈ kept, t < now - width) :
    KeepsRecent width now log [] where
  past := h.past
  agrees := by
    rw [← h.agrees]
    refine (List.filter_eq_nil_iff.mpr fun t ht => ?_).symm
    rw [decide_eq_true_iff]
    exact not_le.mpr (hstale t ht)

/-- An event is admitted now. -/
theorem add (h : KeepsRecent width now log kept) :
    KeepsRecent width now (log ++ [now]) (kept ++ [now]) where
  past := by
    intro t ht
    rcases List.mem_append.mp ht with ht | ht
    · exact h.past t ht
    · exact (List.mem_singleton.mp ht).le
  agrees := by
    have hagrees := h.agrees
    unfold recent at hagrees ⊢
    rw [List.filter_append, List.filter_append, hagrees]

end KeepsRecent

/-- Before anything is admitted every limit is kept. -/
theorem WithinLimit.nil {limit : ℤ} (h : 0 ≤ limit) : WithinLimit width limit [] := fun _ => h

/-- An event admitted while fewer than the limit still count keeps the limit: a window with it holds
only events that still count. -/
theorem WithinLimit.add [IsOrderedAddMonoid T] {limit : ℤ} (h : WithinLimit width limit log)
    (hroom : ((recent width now log).length : ℤ) < limit) :
    WithinLimit width limit (log ++ [now]) := by
  intro start
  unfold inWindow
  rw [List.filter_append]
  by_cases hin : start ≤ now ∧ now ≤ start + width
  · have hcounts : (inWindow width start log).length ≤ (recent width now log).length := by
      refine (List.monotone_filter_right log fun t ht => ?_).length_le
      rw [decide_eq_true_iff] at ht ⊢
      exact (sub_le_iff_le_add.mpr hin.2).trans ht.1
    have hadd : ((inWindow width start log ++ [now]).length : ℤ) ≤ limit := by
      rw [List.length_append, List.length_singleton]
      omega
    rwa [List.filter_cons_of_pos (by rwa [decide_eq_true_iff]), List.filter_nil]
  · rw [List.filter_cons_of_neg (by rwa [decide_eq_true_iff]), List.filter_nil, List.append_nil]
    exact h start

/-- The closed window that ends now has the times that still count. -/
theorem inWindow_eq_recent (h : ∀ t ∈ log, t ≤ now) :
    inWindow width (now - width) log = recent width now log := by
  refine List.filter_congr fun t ht => ?_
  rw [sub_add_cancel]
  exact decide_eq_decide.mpr (and_iff_left (h t ht))

/-- On ordered times, dropping the first ones while they are too old leaves those that count. -/
theorem dropWhile_eq_recent (h : kept.Pairwise (· ≤ ·)) :
    kept.dropWhile (· < now - width) = recent width now kept := by
  induction kept with
  | nil => rfl
  | cons t kept ih =>
    obtain ⟨hhead, htail⟩ := List.pairwise_cons.mp h
    unfold recent at ih ⊢
    by_cases hold : t < now - width
    · rw [List.dropWhile_cons_of_pos (by rwa [decide_eq_true_iff]),
        List.filter_cons_of_neg (by rwa [decide_eq_true_iff, not_le]), ih htail]
    · rw [List.dropWhile_cons_of_neg (by rwa [decide_eq_true_iff]), List.filter_eq_self.mpr]
      intro t' ht'
      rw [decide_eq_true_iff]
      rcases List.mem_cons.mp ht' with rfl | ht'
      · exact not_lt.mp hold
      · exact (not_lt.mp hold).trans (hhead t' ht')

end OpenTrader.Base
