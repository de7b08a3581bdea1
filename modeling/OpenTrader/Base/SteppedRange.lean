import Mathlib.Algebra.Ring.Divisibility.Basic
import Mathlib.Data.List.Chain
import Mathlib.Tactic.Linarith
import Mathlib.Tactic.Ring

/-!
# Stepped ranges

Library `Base`. Python's `range(start, stop, step)` with a positive step, and the points such
ranges put into the gaps of a sorted list. When all members of the list are on one grid, these are
the points of the grid that the list leaves out between its ends.
-/

namespace OpenTrader.Base

/-- `range(start, stop, step)` for a positive step. -/
def steppedRange (start stop step : ℤ) : List ℤ :=
  (List.range ((stop - start + step - 1) / step).toNat).map fun k : ℕ => start + step * k

section
variable {start stop step : ℤ}

private theorem lt_count_iff (hstep : 0 < step) (k : ℕ) :
    k < ((stop - start + step - 1) / step).toNat ↔ start + step * k < stop := by
  rw [Int.lt_toNat, ← Int.add_one_le_iff, Int.le_ediv_iff_mul_le hstep, add_mul, one_mul,
    mul_comm (k : ℤ)]
  constructor <;> intro h <;> linarith

/-- The members of a range are the points of its grid from the start on, before the stop. -/
theorem mem_steppedRange_iff (hstep : 0 < step) (t : ℤ) :
    t ∈ steppedRange start stop step ↔ start ≤ t ∧ t < stop ∧ step ∣ t - start := by
  simp only [steppedRange, List.mem_map, List.mem_range, lt_count_iff hstep]
  constructor
  · rintro ⟨k, hk, rfl⟩
    have hnonneg : 0 ≤ step * k := mul_nonneg hstep.le (Int.natCast_nonneg k)
    exact ⟨by linarith, hk, ⟨k, by ring⟩⟩
  · rintro ⟨hstart, hstop, k, hk⟩
    have hnonneg : 0 ≤ k := by
      by_contra hneg
      have := mul_neg_of_pos_of_neg hstep (not_le.mp hneg)
      linarith
    obtain ⟨n, rfl⟩ := Int.eq_ofNat_of_zero_le hnonneg
    have ht : start + step * n = t := by linarith
    exact ⟨n, by rw [ht]; exact hstop, ht⟩

/-- A range goes up. -/
theorem pairwise_steppedRange (hstep : 0 < step) :
    (steppedRange start stop step).Pairwise (· < ·) := by
  rw [steppedRange, List.pairwise_map]
  refine List.pairwise_lt_range.imp fun {i j} hij => ?_
  have hcast : (i : ℤ) < j := Int.ofNat_lt.mpr hij
  have := mul_lt_mul_of_pos_left hcast hstep
  linarith

end

/-- The range of every gap of a list, from one step after the gap's first end. -/
def fillGaps (step : ℤ) : List ℤ → List ℤ
  | a :: b :: rest => steppedRange (a + step) b step ++ fillGaps step (b :: rest)
  | _ => []

section
variable {step : ℤ}

private theorem mem_gap_iff (hstep : 0 < step) {a b t : ℤ} :
    t ∈ steppedRange (a + step) b step ↔ a < t ∧ t < b ∧ step ∣ t - a := by
  have hgrid : step ∣ t - (a + step) ↔ step ∣ t - a := by
    rw [← sub_sub, dvd_sub_left (dvd_refl step)]
  rw [mem_steppedRange_iff hstep, hgrid]
  constructor
  · rintro ⟨hstart, hstop, hdvd⟩
    exact ⟨by linarith, hstop, hdvd⟩
  · rintro ⟨hlt, hstop, hdvd⟩
    have hle : step ≤ t - a := Int.le_of_dvd (by linarith) hdvd
    exact ⟨by linarith, hstop, hdvd⟩

/-- A point of the grid between two members of a list that the list does not have. -/
structure LeftOut (step : ℤ) (times : List ℤ) (t : ℤ) : Prop where
  after : ∃ a ∈ times, a < t
  before : ∃ b ∈ times, t < b
  onGrid : ∀ a ∈ times, step ∣ t - a
  absent : t ∉ times

section
variable {a b t : ℤ} {rest : List ℤ}

private theorem head_le_of_sorted (hsorted : (b :: rest).Pairwise (· ≤ ·)) :
    ∀ x ∈ b :: rest, b ≤ x := by
  intro x hx
  rcases List.mem_cons.mp hx with rfl | hrest
  · exact le_rfl
  · exact (List.pairwise_cons.mp hsorted).1 x hrest

private theorem dvd_of_grid {times : List ℤ} (hgrid : ∀ x ∈ times, ∀ y ∈ times, step ∣ y - x)
    {x y : ℤ} (hx : x ∈ times) (hy : y ∈ times) (h : step ∣ t - x) : step ∣ t - y := by
  have hsum : t - y = (t - x) + (x - y) := by ring
  rw [hsum]
  exact dvd_add h (hgrid y hy x hx)

private theorem leftOut_of_gap (hsorted : (a :: b :: rest).Pairwise (· ≤ ·))
    (hgrid : ∀ x ∈ a :: b :: rest, ∀ y ∈ a :: b :: rest, step ∣ y - x) (hat : a < t) (htb : t < b)
    (hdvd : step ∣ t - a) : LeftOut step (a :: b :: rest) t := by
  have hleast := head_le_of_sorted (List.pairwise_cons.mp hsorted).2
  refine ⟨⟨a, List.mem_cons_self, hat⟩, ⟨b, by simp, htb⟩,
    fun y hy => dvd_of_grid hgrid List.mem_cons_self hy hdvd, ?_⟩
  intro hm
  rcases List.mem_cons.mp hm with rfl | hlater
  · exact lt_irrefl t hat
  · exact absurd (hleast t hlater) (not_le.mpr htb)

private theorem leftOut_of_tail (hsorted : (a :: b :: rest).Pairwise (· ≤ ·))
    (hgrid : ∀ x ∈ a :: b :: rest, ∀ y ∈ a :: b :: rest, step ∣ y - x)
    (h : LeftOut step (b :: rest) t) : LeftOut step (a :: b :: rest) t := by
  obtain ⟨⟨x, hx, hxt⟩, ⟨y, hy, hty⟩, hdvd, hnot⟩ := h
  obtain ⟨hfst, htail⟩ := List.pairwise_cons.mp hsorted
  have hab : a ≤ b := hfst b List.mem_cons_self
  have hbt : b < t := (head_le_of_sorted htail x hx).trans_lt hxt
  refine ⟨⟨a, List.mem_cons_self, hab.trans_lt hbt⟩, ⟨y, List.mem_cons_of_mem a hy, hty⟩,
    fun z hz => dvd_of_grid hgrid (List.mem_cons_of_mem a hx) hz (hdvd x hx), ?_⟩
  intro hm
  rcases List.mem_cons.mp hm with rfl | hlater
  · exact absurd hab (not_le.mpr hbt)
  · exact hnot hlater

-- A point that is left out is in the first gap or past it.
private theorem gap_or_tail_of_leftOut (hsorted : (a :: b :: rest).Pairwise (· ≤ ·))
    (h : LeftOut step (a :: b :: rest) t) :
    (a < t ∧ t < b ∧ step ∣ t - a) ∨ LeftOut step (b :: rest) t := by
  obtain ⟨⟨x, hx, hxt⟩, ⟨y, hy, hty⟩, hdvd, hnot⟩ := h
  have hat : a < t := (head_le_of_sorted hsorted x hx).trans_lt hxt
  have htb : t ≠ b := by
    rintro rfl
    exact hnot (by simp)
  rcases lt_or_gt_of_ne htb with hlt | hgt
  · exact .inl ⟨hat, hlt, hdvd a List.mem_cons_self⟩
  · refine .inr ⟨⟨b, List.mem_cons_self, hgt⟩, ⟨y, ?_, hty⟩,
      fun x hx => hdvd x (List.mem_cons_of_mem a hx),
      fun hm => hnot (List.mem_cons_of_mem a hm)⟩
    rcases List.mem_cons.mp hy with rfl | hlater
    · exact absurd hat (not_lt.mpr hty.le)
    · exact hlater

end

/-- A sorted list on one grid is filled with the points that it leaves out. -/
theorem mem_fillGaps_iff (hstep : 0 < step) {times : List ℤ} (hsorted : times.Pairwise (· ≤ ·))
    (hgrid : ∀ a ∈ times, ∀ b ∈ times, step ∣ b - a) (t : ℤ) :
    t ∈ fillGaps step times ↔ LeftOut step times t := by
  induction times with
  | nil =>
    refine iff_of_false (by simp [fillGaps]) ?_
    rintro ⟨⟨a, ha, -⟩, -⟩
    cases ha
  | cons a rest ih =>
    cases rest with
    | nil =>
      refine iff_of_false (by simp [fillGaps]) ?_
      rintro ⟨⟨x, hx, hxt⟩, ⟨y, hy, hty⟩, -⟩
      rw [List.mem_singleton] at hx hy
      subst hx hy
      exact lt_asymm hxt hty
    | cons b rest =>
      have hgridTail : ∀ x ∈ b :: rest, ∀ y ∈ b :: rest, step ∣ y - x := fun x hx y hy =>
        hgrid x (List.mem_cons_of_mem a hx) y (List.mem_cons_of_mem a hy)
      rw [fillGaps, List.mem_append, mem_gap_iff hstep,
        ih (List.pairwise_cons.mp hsorted).2 hgridTail]
      constructor
      · rintro (⟨hat, htb, hdvd⟩ | hlater)
        · exact leftOut_of_gap hsorted hgrid hat htb hdvd
        · exact leftOut_of_tail hsorted hgrid hlater
      · exact gap_or_tail_of_leftOut hsorted

private theorem lt_of_mem_fillGaps (hstep : 0 < step) {a t : ℤ} {rest : List ℤ}
    (hsorted : (a :: rest).Pairwise (· ≤ ·)) (ht : t ∈ fillGaps step (a :: rest)) : a < t := by
  induction rest generalizing a with
  | nil => simp [fillGaps] at ht
  | cons b rest ih =>
    obtain ⟨hfst, htail⟩ := List.pairwise_cons.mp hsorted
    rw [fillGaps, List.mem_append, mem_gap_iff hstep] at ht
    rcases ht with hgap | hlater
    · exact hgap.1
    · exact (hfst b List.mem_cons_self).trans_lt (ih htail hlater)

/-- The points that fill a sorted list go up. -/
theorem pairwise_fillGaps (hstep : 0 < step) {times : List ℤ}
    (hsorted : times.Pairwise (· ≤ ·)) : (fillGaps step times).Pairwise (· < ·) := by
  induction times with
  | nil => exact List.Pairwise.nil
  | cons a rest ih =>
    cases rest with
    | nil => exact List.Pairwise.nil
    | cons b rest =>
      have htail := (List.pairwise_cons.mp hsorted).2
      rw [fillGaps, List.pairwise_append]
      refine ⟨pairwise_steppedRange hstep, ih htail, ?_⟩
      intro x hx y hy
      exact ((mem_gap_iff hstep).mp hx).2.1.trans (lt_of_mem_fillGaps hstep htail hy)

end

end OpenTrader.Base
