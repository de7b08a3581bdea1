import Mathlib.Algebra.Order.BigOperators.Group.List
import OpenTrader.Oms.ReconcileResult

/-!
# Reconciling twice

Library `Oms`. `services/oms/fill_reconciliation.py:87-157`. The result is written back to the order
and the same events and snapshot are reconciled again. The status is then both the outcome of the
first call and what the second starts from, so that the second can decide differently about the
fallback, or take the status of an event that the first overruled.
-/

namespace OpenTrader.Oms
open Base

/-- The order with the result of a reconciliation. -/
def ReconciliationOrder.writeBack (order : ReconciliationOrder) (r : FillReconciliationResult) :
    ReconciliationOrder :=
  { order with
    status := r.status
    filledQuantity := r.filledQuantity
    averagePrice := r.averagePrice }

/-- Written back and reconciled again, the result is the same and reported as unchanged. -/
def ReconcilesOnce (order : ReconciliationOrder) (events : List LifecycleEvent)
    (snapshot : Option ExchangeOrderSnapshot) : Prop :=
  ∀ r, reconcile order events snapshot = .ok r →
    ∃ r', reconcile (order.writeBack r) events snapshot = .ok r' ∧ r'.status = r.status ∧
      r'.filledQuantity = r.filledQuantity ∧ r'.averagePrice = r.averagePrice ∧
      r'.changed = false

namespace Reading

variable (reading : Reading) (order : ReconciliationOrder)

/-! ### The condition -/

/-- The order is `FILLED` but filled in part, and the highest status that is reported is a stopped
one: the first call makes it `PARTIALLY_FILLED`, the second the reported one. -/
def Reopens (reported : OmsState) (fills : List ReconciliationFill) : Prop :=
  order.status = .filled ∧ reported.isStopped = true ∧
    order.PartlyFilled (reading.quantityOf order fills)

/-- The fills of the snapshot can be left out again: they are dust, they add nothing to the others,
or they are all there is and the snapshot's totals say no more. -/
def CanLeaveOut (snap : ExchangeOrderSnapshot) : Prop :=
  filledQuantity (reading.withSnapshot snap) ≤ epsilon ∨
    filledQuantity (reading.withSnapshot snap) = filledQuantity reading.fills ∨
    filledQuantity reading.fills ≤ epsilon ∧
      max 0 snap.filledQuantity ≤ filledQuantity (reading.withSnapshot snap) ∧
      ∀ price ∈ snap.averagePrice,
        weightedAveragePrice (reading.withSnapshot snap) = some price

/-- The fills of the snapshot can be taken in afterwards: they are dust, they add nothing to the
others, or they are all there is and say what was recorded. -/
def CanTakeIn (snap : ExchangeOrderSnapshot) : Prop :=
  filledQuantity (reading.withSnapshot snap) ≤ epsilon ∨
    filledQuantity (reading.withSnapshot snap) = filledQuantity reading.fills ∨
    filledQuantity reading.fills ≤ epsilon ∧
      filledQuantity (reading.withSnapshot snap) = reading.recordedQuantity order ∧
      weightedAveragePrice (reading.withSnapshot snap) = snap.averagePrice.or order.averagePrice

/-- When a second reconciliation repeats the first. -/
@[mk_iff] structure Repeatable : Prop where
  /-- Without a snapshot. -/
  alone : reading.exchange = none → ¬ reading.Reopens order reading.status reading.fills
  /-- The snapshot shows more than the fills: the fallback is used both times. -/
  shown : ∀ e ∈ reading.exchange, reading.moreFilled e.2 = true →
    ¬ reading.Reopens order (max reading.status e.1) (reading.withSnapshot e.2)
  /-- The fallback is used for the snapshot's status, which is the order's the second time. -/
  ended : ∀ e ∈ reading.exchange, reading.moreFilled e.2 = false →
    reading.higherTerminal order e.1 = true →
      e.1 = .filled ∧ order.PartlyFilled (reading.quantityOf order (reading.withSnapshot e.2)) ∨
        reading.CanLeaveOut e.2
  /-- The fallback is not used, and the order is `FILLED` but filled in part. -/
  kept : ∀ e ∈ reading.exchange, reading.moreFilled e.2 = false →
    reading.higherTerminal order e.1 = false → order.status = .filled →
    order.PartlyFilled (reading.quantityOf order reading.fills) →
      if e.1.isTerminal = true ∧ reading.status < e.1 then
        e.1 = .filled ∧ reading.CanTakeIn order e.2
      else reading.status.isStopped = false

/-! ### Quantity and price -/

/-- The average price of a result that works with these fills. -/
def priceOf (fills : List ReconciliationFill) : Option ℚ :=
  ((weightedAveragePrice fills).or (reading.exchange.bind fun e => e.2.averagePrice)).or
    order.averagePrice

variable {reading order}

variable {order' : ReconciliationOrder}

private theorem recordedQuantity_of_filledQuantity
    (h : order'.filledQuantity = reading.recordedQuantity order) :
    reading.recordedQuantity order' = reading.recordedQuantity order := by
  unfold recordedQuantity Oms.recordedQuantity at h ⊢
  rw [h]
  cases reading.exchange with
  | none => simp
  | some e => simp [max_comm, max_left_comm]

variable {fills : List ReconciliationFill}

private theorem quantityOf_again (h : order'.filledQuantity = reading.quantityOf order fills) :
    reading.quantityOf order' fills = reading.quantityOf order fills := by
  unfold quantityOf at h ⊢
  split
  · next hd =>
    rw [if_pos hd] at h
    exact recordedQuantity_of_filledQuantity h
  · rfl

private theorem priceOf_again (h : order'.averagePrice = reading.priceOf order fills) :
    reading.priceOf order' fills = reading.priceOf order fills := by
  unfold priceOf at h ⊢
  rw [h]
  cases weightedAveragePrice fills <;> cases reading.exchange.bind fun e => e.2.averagePrice <;> rfl

private theorem filledQuantity_nonneg (fills : List ReconciliationFill) :
    0 ≤ filledQuantity fills := by
  apply List.sum_nonneg
  simp

private theorem filledQuantity_append (fills more : List ReconciliationFill) :
    filledQuantity (fills ++ more) = filledQuantity fills + filledQuantity more := by
  simp [filledQuantity]

private theorem notional_of_filledQuantity_eq_zero (h : filledQuantity fills = 0) :
    (fills.map fun fill => max 0 fill.quantity * fill.price).sum = 0 := by
  induction fills with
  | nil => rfl
  | cons fill fills ih =>
    have hsum : max 0 fill.quantity + filledQuantity fills = 0 := h
    have hrest := filledQuantity_nonneg fills
    have hf : max 0 fill.quantity = 0 := by
      linarith [le_max_left 0 fill.quantity]
    rw [List.map_cons, List.sum_cons, hf, zero_mul, zero_add]
    exact ih (by linarith)

private theorem filledQuantity_le_withSnapshot (snap : ExchangeOrderSnapshot) :
    filledQuantity reading.fills ≤ filledQuantity (reading.withSnapshot snap) := by
  obtain ⟨kept, hkept⟩ := exists_distinctBy_append _ reading.distinct (snap.fills.map normalizeFill)
  rw [withSnapshot, dedupeFills, hkept, filledQuantity_append]
  linarith [filledQuantity_nonneg kept]

variable {snap : ExchangeOrderSnapshot}

private theorem weightedAveragePrice_withSnapshot
    (h : filledQuantity (reading.withSnapshot snap) = filledQuantity reading.fills) :
    weightedAveragePrice (reading.withSnapshot snap) = weightedAveragePrice reading.fills := by
  obtain ⟨kept, hkept⟩ := exists_distinctBy_append _ reading.distinct (snap.fills.map normalizeFill)
  have hall : reading.withSnapshot snap = reading.fills ++ kept := hkept
  have hz : filledQuantity kept = 0 := by
    rw [hall, filledQuantity_append] at h
    linarith
  unfold weightedAveragePrice
  rw [h, hall, List.map_append, List.sum_append, notional_of_filledQuantity_eq_zero hz, add_zero]

private theorem weightedAveragePrice_of_le (h : filledQuantity fills ≤ epsilon) :
    weightedAveragePrice fills = none := if_pos h

private theorem weightedAveragePrice_of_lt (h : ¬ filledQuantity fills ≤ epsilon) :
    ∃ price, weightedAveragePrice fills = some price :=
  ⟨_, if_neg h⟩

private theorem quantityOf_priceOf_of_le (order : ReconciliationOrder)
    (h : filledQuantity (reading.withSnapshot snap) ≤ epsilon) :
    reading.quantityOf order (reading.withSnapshot snap) = reading.quantityOf order reading.fills ∧
      reading.priceOf order (reading.withSnapshot snap) = reading.priceOf order reading.fills := by
  have hd := (filledQuantity_le_withSnapshot snap).trans h
  constructor
  · rw [quantityOf, quantityOf, if_pos h, if_pos hd]
  · rw [priceOf, priceOf, weightedAveragePrice_of_le h, weightedAveragePrice_of_le hd]

private theorem quantityOf_priceOf_eq_iff (order order' : ReconciliationOrder)
    (hd : ¬ filledQuantity reading.fills ≤ epsilon) :
    (reading.quantityOf order (reading.withSnapshot snap) =
          reading.quantityOf order' reading.fills ∧
        reading.priceOf order (reading.withSnapshot snap) =
          reading.priceOf order' reading.fills) ↔
      filledQuantity (reading.withSnapshot snap) = filledQuantity reading.fills := by
  have hall := mt (filledQuantity_le_withSnapshot snap).trans hd
  rw [quantityOf, quantityOf, if_neg hall, if_neg hd]
  refine and_iff_left_of_imp fun h => ?_
  obtain ⟨price, hsome⟩ := weightedAveragePrice_of_lt hd
  rw [priceOf, priceOf, weightedAveragePrice_withSnapshot h, hsome]
  rfl

section

variable {e : OmsState × ExchangeOrderSnapshot} (he : reading.exchange = some e)
include he

private theorem leaveOut_iff
    (hq : order'.filledQuantity = reading.quantityOf order (reading.withSnapshot e.2))
    (hprice : order'.averagePrice = reading.priceOf order (reading.withSnapshot e.2)) :
    (reading.quantityOf order' reading.fills = order'.filledQuantity ∧
        reading.priceOf order' reading.fills = order'.averagePrice) ↔
      reading.CanLeaveOut e.2 := by
  have hpos := filledQuantity_nonneg (reading.withSnapshot e.2)
  unfold CanLeaveOut
  by_cases hall : filledQuantity (reading.withSnapshot e.2) ≤ epsilon
  · refine iff_of_true ?_ (.inl hall)
    obtain ⟨hsame, hsame'⟩ := quantityOf_priceOf_of_le order hall
    rw [hsame] at hq
    rw [hsame'] at hprice
    exact ⟨(quantityOf_again hq).trans hq.symm,
      (priceOf_again hprice).trans hprice.symm⟩
  rw [or_iff_right hall]
  by_cases hd : filledQuantity reading.fills ≤ epsilon
  · obtain ⟨price, hsome⟩ := weightedAveragePrice_of_lt hall
    have hne : filledQuantity (reading.withSnapshot e.2) ≠ filledQuantity reading.fills :=
      fun h => hall (h.trans_le hd)
    rw [quantityOf, if_neg hall] at hq
    simp only [priceOf, hsome, Option.some_or] at hprice
    rw [hq, hprice, or_iff_right hne, and_iff_right hd, hsome, quantityOf,
      if_pos hd, priceOf, weightedAveragePrice_of_le hd, hprice, recordedQuantity,
      Oms.recordedQuantity, he, hq]
    simp only [Option.map_some, Option.getD_some, Option.bind_some, Option.none_or,
      max_eq_right hpos, max_eq_left_iff]
    apply and_congr_right
    intro _
    cases e.2.averagePrice with
    | none => simp
    | some p => simp [eq_comm]
  · rw [hq, hprice, or_iff_left fun h => hd h.1, eq_comm,
      eq_comm (a := reading.priceOf order' _)]
    exact quantityOf_priceOf_eq_iff order order' hd

private theorem takeIn_iff
    (hq : order'.filledQuantity = reading.quantityOf order reading.fills)
    (hprice : order'.averagePrice = reading.priceOf order reading.fills) :
    (reading.quantityOf order' (reading.withSnapshot e.2) = order'.filledQuantity ∧
        reading.priceOf order' (reading.withSnapshot e.2) = order'.averagePrice) ↔
      reading.CanTakeIn order e.2 := by
  unfold CanTakeIn
  by_cases hall : filledQuantity (reading.withSnapshot e.2) ≤ epsilon
  · refine iff_of_true ?_ (.inl hall)
    obtain ⟨hsame, hsame'⟩ := quantityOf_priceOf_of_le order hall
    rw [← hsame] at hq
    rw [← hsame'] at hprice
    exact ⟨(quantityOf_again hq).trans hq.symm,
      (priceOf_again hprice).trans hprice.symm⟩
  rw [or_iff_right hall, hq, hprice]
  by_cases hd : filledQuantity reading.fills ≤ epsilon
  · obtain ⟨price, hsome⟩ := weightedAveragePrice_of_lt hall
    have hne : filledQuantity (reading.withSnapshot e.2) ≠ filledQuantity reading.fills :=
      fun h => hall (h.trans_le hd)
    simp only [or_iff_right hne, and_iff_right hd, hsome, quantityOf, if_neg hall,
      if_pos hd, priceOf, weightedAveragePrice_of_le hd, he, Option.some_or]
    rfl
  · rw [or_iff_left fun h => hd h.1]
    exact quantityOf_priceOf_eq_iff order' order hd

end

/-! ### Statuses -/

variable {s : OmsState} {quantity : ℚ}

private theorem deriveStatus_again_iff {t : OmsState} (ht : t ≤ s) :
    deriveStatus (max (deriveStatus s (max 0 order.requestedQuantity) quantity) t)
        (max 0 order.requestedQuantity) quantity =
        deriveStatus s (max 0 order.requestedQuantity) quantity ↔
      ¬ (s = .filled ∧ t.isStopped = true ∧ order.PartlyFilled quantity) := by
  by_cases hpartly : order.PartlyFilled quantity
  · simp only [deriveStatus_of_partlyFilled order hpartly, hpartly, and_true]
    revert ht
    cases s <;> cases t <;> decide
  · refine iff_of_true ?_ fun h => hpartly h.2.2
    rcases deriveStatus_of_not_partlyFilled order hpartly with hkept | hfilled
    · rw [hkept, hkept, max_eq_left ht]
    · rw [hfilled, hfilled]

private theorem le_deriveStatus (h : ¬ (s = .filled ∧ order.PartlyFilled quantity)) :
    s ≤ deriveStatus s (max 0 order.requestedQuantity) quantity := by
  by_cases hpartly : order.PartlyFilled quantity
  · rw [deriveStatus_of_partlyFilled order hpartly]
    have hs : s ≠ .filled := fun hs => h ⟨hs, hpartly⟩
    revert hs
    cases s <;> decide
  · rcases deriveStatus_of_not_partlyFilled order hpartly with hkept | hfilled
    · rw [hkept]
    · rw [hfilled]
      cases s <;> decide

/-! ### The second decision -/

variable {e : OmsState × ExchangeOrderSnapshot}

private theorem fallsBack_eq (he : reading.exchange = some e) (order : ReconciliationOrder) :
    reading.fallsBack order = (reading.moreFilled e.2 || reading.higherTerminal order e.1) := by
  rw [fallsBack, he]
  rfl

private theorem merged_of_fallsBack (he : reading.exchange = some e)
    (h : reading.fallsBack order = true) :
    reading.mergedFills order = reading.withSnapshot e.2 ∧
      reading.reportedStatus order = max reading.status e.1 := by
  rw [mergedFills, reportedStatus, if_pos h, if_pos h, he]
  exact ⟨rfl, rfl⟩

private theorem merged_of_not_fallsBack (h : reading.fallsBack order = false) :
    reading.mergedFills order = reading.fills ∧ reading.reportedStatus order = reading.status := by
  rw [mergedFills, reportedStatus, h]
  exact ⟨rfl, rfl⟩

variable (reading order) in
private abbrev again : ReconciliationOrder := order.writeBack (reading.settle order)

variable (reading order) in
private def SettlesOnce : Prop :=
  let r := reading.settle order
  let r' := reading.settle (order.writeBack r)
  r'.status = r.status ∧ r'.filledQuantity = r.filledQuantity ∧ r'.averagePrice = r.averagePrice

private theorem settlesOnce_iff_of_merged {reported : OmsState}
    (h : reading.mergedFills (reading.again order) = fills ∧
      reading.reportedStatus (reading.again order) = reported) :
    reading.SettlesOnce order ↔
      deriveStatus (max (reading.settle order).status reported) (max 0 order.requestedQuantity)
          (reading.settle order).filledQuantity = (reading.settle order).status ∧
        reading.quantityOf (reading.again order) fills =
          (reading.settle order).filledQuantity ∧
        reading.priceOf (reading.again order) fills =
          (reading.settle order).averagePrice := by
  obtain ⟨rfl, rfl⟩ := h
  simp only [SettlesOnce]
  rw [filledQuantity_settle reading (order.writeBack _),
    averagePrice_settle reading (order.writeBack _), status_settle reading (order.writeBack _)]
  apply and_congr_left
  rintro ⟨hq, -⟩
  rw [hq]
  rfl

private theorem settlesOnce_iff_of_same
    (h : reading.fallsBack (reading.again order) = reading.fallsBack order) :
    reading.SettlesOnce order ↔
      ¬ reading.Reopens order (reading.reportedStatus order) (reading.mergedFills order) := by
  have hmerged : reading.mergedFills (reading.again order) =
        reading.mergedFills order ∧
      reading.reportedStatus (reading.again order) =
        reading.reportedStatus order := by
    rw [mergedFills, mergedFills, reportedStatus, reportedStatus, h]
    exact ⟨rfl, rfl⟩
  have hq := filledQuantity_settle reading order
  have hprice := averagePrice_settle reading order
  have hagain : reading.quantityOf (reading.again order)
        (reading.mergedFills order) = (reading.settle order).filledQuantity ∧
      reading.priceOf (reading.again order) (reading.mergedFills order) =
        (reading.settle order).averagePrice :=
    ⟨(quantityOf_again hq).trans hq.symm, (priceOf_again hprice).trans hprice.symm⟩
  rw [settlesOnce_iff_of_merged hmerged, and_iff_left hagain, hq]
  rw [status_settle, deriveStatus_again_iff (le_max_right _ _), max_eq_filled_iff, Reopens]
  apply not_congr
  constructor
  · rintro ⟨hfilled | hfilled, hstopped, hpartly⟩
    · exact ⟨hfilled, hstopped, hpartly⟩
    · rw [hfilled] at hstopped
      cases hstopped
  · rintro ⟨hfilled, hstopped, hpartly⟩
    exact ⟨.inl hfilled, hstopped, hpartly⟩

private theorem higherTerminal_eq_true_iff :
    reading.higherTerminal order s = true ↔
      s.isTerminal = true ∧ max order.status reading.status < s := by
  rw [higherTerminal, Bool.and_eq_true, decide_eq_true_iff]

section

variable (he : reading.exchange = some e) (hmore : reading.moreFilled e.2 = false)
include he hmore

private theorem settlesOnce_iff_of_higherTerminal
    (hhigher : reading.higherTerminal order e.1 = true) :
    reading.SettlesOnce order ↔
      e.1 = .filled ∧ order.PartlyFilled (reading.quantityOf order (reading.withSnapshot e.2)) ∨
        reading.CanLeaveOut e.2 := by
  have hfst : reading.fallsBack order = true := by rw [fallsBack_eq he, hhigher, Bool.or_true]
  obtain ⟨hfills, hrep⟩ := merged_of_fallsBack he hfst
  obtain ⟨hterminal, hlt⟩ := higherTerminal_eq_true_iff.mp hhigher
  obtain ⟨hlt₀, hlt₁⟩ := max_lt_iff.mp hlt
  have hmerged : max order.status (reading.reportedStatus order) = e.1 := by
    rw [hrep, max_eq_right hlt₁.le, max_eq_right hlt₀.le]
  have hstat := status_settle reading order
  have hq := filledQuantity_settle reading order
  have hprice := averagePrice_settle reading order
  rw [hmerged, hfills] at hstat
  rw [hfills] at hq hprice
  by_cases hover : e.1 = .filled ∧
      order.PartlyFilled (reading.quantityOf order (reading.withSnapshot e.2))
  · -- `FILLED` is overruled, so that the second call falls back for the same reason
    refine iff_of_true ?_ (.inl hover)
    have hpartlyFilled : (reading.settle order).status = .partiallyFilled := by
      rw [hstat, deriveStatus_of_partlyFilled order hover.2, hover.1]
      rfl
    have hsecond : reading.fallsBack (reading.again order) = true := by
      rw [fallsBack_eq he, hmore, Bool.false_or, higherTerminal_eq_true_iff]
      refine ⟨hterminal, max_lt ?_ hlt₁⟩
      change (reading.settle order).status < e.1
      rw [hpartlyFilled, hover.1]
      decide
    rw [settlesOnce_iff_of_same (hsecond.trans hfst.symm), Reopens, hrep,
      max_eq_filled_iff.mpr (.inr hover.1)]
    simp [OmsState.isStopped]
  · rw [or_iff_right hover]
    have hraised : e.1 ≤ (reading.settle order).status := by
      rw [hstat]
      exact le_deriveStatus hover
    have hsecond : reading.fallsBack (reading.again order) = false := by
      rw [fallsBack_eq he, hmore, Bool.false_or, ← Bool.not_eq_true, higherTerminal_eq_true_iff]
      rintro ⟨-, h⟩
      exact absurd (max_lt_iff.mp h).1 (not_lt.mpr hraised)
    have hleave := @leaveOut_iff reading order (reading.again order) e he
      hq hprice
    rw [settlesOnce_iff_of_merged (merged_of_not_fallsBack hsecond), ← hleave]
    refine and_iff_right ?_
    rw [hq, hstat]
    apply (deriveStatus_again_iff hlt₁.le).mpr
    rintro ⟨hfilled, -, hpartly⟩
    exact hover ⟨hfilled, hpartly⟩

variable (hhigher : reading.higherTerminal order e.1 = false)
include hhigher

private theorem not_fallsBack : reading.fallsBack order = false := by
  rw [fallsBack_eq he, hmore, hhigher]
  rfl

private theorem settlesOnce_iff_of_overruled (hfilled : order.status = .filled)
    (hpartly : order.PartlyFilled (reading.quantityOf order reading.fills)) :
    reading.SettlesOnce order ↔
      if e.1.isTerminal = true ∧ reading.status < e.1 then
        e.1 = .filled ∧ reading.CanTakeIn order e.2
      else reading.status.isStopped = false := by
  have hfirst := not_fallsBack he hmore hhigher
  obtain ⟨hfills, hrep⟩ := merged_of_not_fallsBack hfirst
  have hq := filledQuantity_settle reading order
  have hprice := averagePrice_settle reading order
  rw [hfills] at hq hprice
  have hpartlyFilled : (reading.settle order).status = .partiallyFilled := by
    rw [status_settle, hfills, max_eq_filled_iff.mpr (.inl hfilled),
      deriveStatus_of_partlyFilled order hpartly]
    rfl
  have hsecond : reading.fallsBack (reading.again order) = true ↔
      e.1.isTerminal = true ∧ reading.status < e.1 := by
    rw [fallsBack_eq he, hmore, Bool.false_or, higherTerminal_eq_true_iff]
    apply and_congr_right
    intro hterminal
    change max (reading.settle order).status reading.status < e.1 ↔ _
    rw [hpartlyFilled, max_lt_iff, and_iff_right (lt_of_isTerminal rfl hterminal)]
  split
  · next h =>
    have hmerged : max (reading.settle order).status (max reading.status e.1) = e.1 := by
      rw [hpartlyFilled, max_eq_right h.2.le, max_eq_right (lt_of_isTerminal rfl h.1).le]
    have htake := @takeIn_iff reading order (reading.again order) e he
      hq hprice
    rw [settlesOnce_iff_of_merged (merged_of_fallsBack he (hsecond.mpr h)), ← htake]
    refine and_congr_left fun _ => ?_
    rw [hmerged, hq, hpartlyFilled, deriveStatus_of_partlyFilled order hpartly]
    by_cases hstopped : e.1.isStopped = true
    · rw [if_pos hstopped]
      refine iff_of_false ?_ ((isStopped_iff h.1).mp hstopped)
      intro hpart
      rw [hpart] at hstopped
      cases hstopped
    · rw [if_neg hstopped]
      refine iff_of_true rfl ?_
      by_contra hne
      exact hstopped ((isStopped_iff h.1).mpr hne)
  · next h =>
    have hsame : reading.fallsBack (reading.again order) =
        reading.fallsBack order := by
      rw [hfirst, ← Bool.not_eq_true, hsecond]
      exact h
    rw [settlesOnce_iff_of_same hsame, Reopens, hfills, hrep]
    simp [hfilled, hpartly]

private theorem settlesOnce_of_not_overruled (hover : ¬ (order.status = .filled ∧
      order.PartlyFilled (reading.quantityOf order reading.fills))) :
    reading.SettlesOnce order := by
  have hfirst := not_fallsBack he hmore hhigher
  obtain ⟨hfills, hrep⟩ := merged_of_not_fallsBack hfirst
  have hstat := status_settle reading order
  rw [hfills, hrep] at hstat
  have hraised : max order.status reading.status ≤
      max (reading.settle order).status reading.status := by
    by_cases hevs : reading.status = .filled
    · rw [max_eq_filled_iff.mpr (.inr hevs), max_eq_filled_iff.mpr (.inr hevs)]
    · refine le_max_of_le_left ?_
      rw [hstat]
      apply le_deriveStatus
      rintro ⟨h, hpartly⟩
      exact hover ⟨(max_eq_filled_iff.mp h).resolve_right hevs, hpartly⟩
  have hsame : reading.fallsBack (reading.again order) =
      reading.fallsBack order := by
    rw [hfirst, fallsBack_eq he, hmore, Bool.false_or, ← Bool.not_eq_true,
      higherTerminal_eq_true_iff]
    rintro ⟨hterminal, hlt⟩
    rw [← Bool.not_eq_true, higherTerminal_eq_true_iff] at hhigher
    exact hhigher ⟨hterminal, hraised.trans_lt hlt⟩
  rw [settlesOnce_iff_of_same hsame, Reopens, hfills]
  rintro ⟨hfilled, -, hpartly⟩
  exact hover ⟨hfilled, hpartly⟩

end

variable (reading order) in
private theorem settlesOnce_iff : reading.SettlesOnce order ↔ reading.Repeatable order := by
  rw [repeatable_iff]
  cases he : reading.exchange with
  | none =>
    have hnever (order : ReconciliationOrder) : reading.fallsBack order = false := by
      rw [fallsBack, he]
      rfl
    obtain ⟨hfills, hrep⟩ := merged_of_not_fallsBack (hnever order)
    rw [settlesOnce_iff_of_same ((hnever _).trans (hnever order).symm), hfills, hrep]
    simp
  | some e =>
    cases hmore : reading.moreFilled e.2 with
    | true =>
      have halways (order : ReconciliationOrder) : reading.fallsBack order = true := by
        rw [fallsBack_eq he, hmore, Bool.true_or]
      obtain ⟨hfills, hrep⟩ := merged_of_fallsBack he (halways order)
      rw [settlesOnce_iff_of_same ((halways _).trans (halways order).symm), hfills, hrep]
      simp [hmore]
    | false =>
      cases hhigher : reading.higherTerminal order e.1 with
      | true =>
        rw [settlesOnce_iff_of_higherTerminal he hmore hhigher]
        simp [hmore, hhigher]
      | false =>
        by_cases hover : order.status = .filled ∧
            order.PartlyFilled (reading.quantityOf order reading.fills)
        · rw [settlesOnce_iff_of_overruled he hmore hhigher hover.1 hover.2]
          simp [hmore, hhigher, hover]
        · refine iff_of_true (settlesOnce_of_not_overruled he hmore hhigher hover) ?_
          simpa [hmore, hhigher] using fun hfilled hpartly => absurd ⟨hfilled, hpartly⟩ hover

end Reading

private theorem isChanged_self (order : ReconciliationOrder) :
    isChanged order order.status order.filledQuantity order.averagePrice = false := by
  unfold isChanged
  rw [if_neg (by simp), sub_self, abs_zero, if_neg (not_lt.mpr epsilon_pos.le)]
  cases order.averagePrice with
  | none => rfl
  | some price => simp [epsilon_pos.le]

/-- **Reconciling twice.** The result of a reconciliation, written back and reconciled again with
the same events and snapshot, is the same and unchanged exactly when the reading is repeatable. -/
theorem reconcilesOnce_iff (order : ReconciliationOrder) (events : List LifecycleEvent)
    (snapshot : Option ExchangeOrderSnapshot) :
    ReconcilesOnce order events snapshot ↔
      ∀ reading, read order.orderId events snapshot = .ok reading →
        reading.Repeatable order := by
  unfold ReconcilesOnce
  rw [reconcile_eq]
  cases hread : read order.orderId events snapshot with
  | error e => simp [Except.map]
  | ok reading =>
    have hagain : reconcile (order.writeBack (reading.settle order)) events snapshot =
        .ok (reading.settle (order.writeBack (reading.settle order))) := by
      rw [reconcile_eq]
      change (read order.orderId events snapshot).map _ = _
      rw [hread]
      rfl
    simp only [Except.map, Except.ok.injEq, forall_eq', hagain, exists_eq_left']
    rw [← reading.settlesOnce_iff order]
    constructor
    · rintro ⟨hstatus, hquantity, hprice, -⟩
      exact ⟨hstatus, hquantity, hprice⟩
    · rintro ⟨hstatus, hquantity, hprice⟩
      refine ⟨hstatus, hquantity, hprice, ?_⟩
      change isChanged (order.writeBack (reading.settle order)) _ _ _ = false
      rw [← isChanged_self (order.writeBack (reading.settle order))]
      congr 1

/-- The exchange has canceled the order and lists a second fill, below the gap that counts. The
first call takes it in because of the status, the second leaves it out. -/
theorem reconcile_twice_differs :
    let order := { twoCoinOrder with status := .opened }
    let events := [fillEvent "f-1" "oms.order.partially_filled" 100]
    let snap : ExchangeOrderSnapshot :=
      { status := "CANCELED", filledQuantity := 1 + 1 / 2000000, averagePrice := some 100,
        fills := [{ fillId := "f-1", orderId := "o-1", quantity := 1, price := 100 },
          { fillId := "f-2", orderId := "o-1", quantity := 1 / 2000000, price := 100 }] }
    (reconcile order events (some snap)).toOption.map
        (fun r => (r.filledQuantity, (reconcile (order.writeBack r) events (some snap)).toOption.map
          fun r' => (r'.filledQuantity, r'.changed))) =
      some (1 + 1 / 2000000, some (1, true)) := by
  decide +kernel

end OpenTrader.Oms
