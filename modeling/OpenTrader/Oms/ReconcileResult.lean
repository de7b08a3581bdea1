import OpenTrader.Oms.ReconcileReading

/-!
# What a reconciliation settles

Library `Oms`. `services/oms/fill_reconciliation.py:121-157,209-224`. When a terminal order stays
terminal, and when the filled quantity is no less than what was recorded.
-/

namespace OpenTrader.Oms
open Base

variable (reading : Reading) (order : ReconciliationOrder)

/-! ### The parts of a result -/

/-- The larger of the quantities recorded for the order and on the exchange;
`fill_reconciliation.py:123-127`. -/
def recordedQuantity (exchange : Option (OmsState × ExchangeOrderSnapshot)) : ℚ :=
  (exchange.map fun e =>
    max (max 0 order.filledQuantity) (max 0 e.2.filledQuantity)).getD (max 0 order.filledQuantity)

/-- The recorded quantity of a reading. -/
def Reading.recordedQuantity : ℚ := Oms.recordedQuantity order reading.exchange

/-- The quantity of the fills, or the recorded one when they are dust. -/
def Reading.quantityOf (fills : List ReconciliationFill) : ℚ :=
  if filledQuantity fills ≤ epsilon then reading.recordedQuantity order else filledQuantity fills

/-- The order is filled in part: by more than dust, and by less than was requested. -/
def ReconciliationOrder.PartlyFilled (quantity : ℚ) : Prop :=
  epsilon < quantity ∧ quantity < max 0 order.requestedQuantity - epsilon

/-- The filled quantity of a result. -/
theorem filledQuantity_settle :
    (reading.settle order).filledQuantity =
      reading.quantityOf order (reading.mergedFills order) := by
  unfold Reading.settle conclude Reading.quantityOf Reading.recordedQuantity recordedQuantity
  cases reading.exchange <;> rfl

/-- The average price of a result. -/
theorem averagePrice_settle :
    (reading.settle order).averagePrice =
      ((weightedAveragePrice (reading.mergedFills order)).or
        (reading.exchange.bind fun e => e.2.averagePrice)).or order.averagePrice := by
  unfold Reading.settle conclude
  cases reading.exchange <;> rfl

/-- The status of a result. -/
theorem status_settle :
    (reading.settle order).status =
      deriveStatus (max order.status (reading.reportedStatus order))
        (max 0 order.requestedQuantity) (reading.quantityOf order (reading.mergedFills order)) := by
  rw [← filledQuantity_settle]
  rfl

/-! ### The derived status -/

/-- Canceled, rejected or expired. -/
def OmsState.isStopped : OmsState → Bool
  | .canceled | .rejected | .expired => true
  | _ => false

variable {s : OmsState} {quantity : ℚ}

/-- The status derived for a quantity in part. -/
theorem deriveStatus_of_partlyFilled (h : order.PartlyFilled quantity) (s : OmsState) :
    deriveStatus s (max 0 order.requestedQuantity) quantity =
      if s.isStopped then s else .partiallyFilled := by
  have hpos := epsilon_pos
  have hreq : ¬ max 0 order.requestedQuantity ≤ epsilon := by
    have := h.1.trans h.2
    intro hle
    linarith
  unfold deriveStatus
  rw [if_neg hreq, if_neg (not_le.mpr h.2), if_pos h.1]
  cases s <;> rfl

/-- For any other quantity every status is kept, or every status becomes `FILLED`. -/
theorem deriveStatus_of_not_partlyFilled (h : ¬ order.PartlyFilled quantity) :
    (∀ s, deriveStatus s (max 0 order.requestedQuantity) quantity = s) ∨
      ∀ s, deriveStatus s (max 0 order.requestedQuantity) quantity = .filled := by
  unfold deriveStatus
  by_cases hreq : max 0 order.requestedQuantity ≤ epsilon
  · exact .inl fun s => if_pos hreq
  · by_cases hfull : quantity ≥ max 0 order.requestedQuantity - epsilon
    · exact .inr fun s => by rw [if_neg hreq, if_pos hfull]
    · have hd : ¬ quantity > epsilon := fun hlt => h ⟨hlt, not_le.mp hfull⟩
      exact .inl fun s => by rw [if_neg hreq, if_neg hfull, if_neg hd]

/-! ### Terminal orders -/

/-- Some party says `FILLED`: the order, an event, or a snapshot that tells more. -/
def SaysFilled (events : List LifecycleEvent)
    (exchange : Option (OmsState × ExchangeOrderSnapshot)) : Prop :=
  order.status = .filled ∨ (∃ event ∈ events, eventStatus event = .ok (some .filled)) ∨
    ∃ e ∈ exchange, SnapshotAhead order events e ∧ e.1 = .filled

/-- The first fills of the events and of a snapshot that tells more or, when these are dust, the
recorded quantity. -/
def reconciledQuantity (events : List LifecycleEvent)
    (exchange : Option (OmsState × ExchangeOrderSnapshot)) : ℚ :=
  if countedQuantity order events exchange ≤ epsilon then recordedQuantity order exchange
  else countedQuantity order events exchange

/-- `FILLED` is the highest status. -/
theorem max_eq_filled_iff {t : OmsState} : max s t = .filled ↔ s = .filled ∨ t = .filled := by
  have htop (s : OmsState) : s ≤ .filled := by cases s <;> decide
  constructor
  · intro h
    rcases max_choice s t with hs | ht
    · exact .inl (hs.symm.trans h)
    · exact .inr (ht.symm.trans h)
  · rintro (rfl | rfl)
    · exact max_eq_left (htop t)
    · exact max_eq_right (htop s)

section

variable {reading order} {events : List LifecycleEvent} {snapshot : Option ExchangeOrderSnapshot}
  (h : read order.orderId events snapshot = .ok reading)
include h

private theorem status_eq_filled_iff :
    reading.status = .filled ↔ ∃ event ∈ events, eventStatus event = .ok (some .filled) := by
  have htop (s : OmsState) : s < .filled ↔ s ≠ .filled := by cases s <;> decide
  have hlt := status_lt_iff_of_read h (s := .filled) (by decide)
  simp only [htop, Option.mem_def, Option.join_eq_some_iff, toOption_eq_some_iff] at hlt
  rw [← not_iff_not, ← Ne, hlt]
  push Not
  exact forall₂_congr fun event _ => ⟨fun h hfilled => h _ hfilled rfl, by grind⟩

private theorem saysFilled_iff : SaysFilled order events reading.exchange ↔
    max order.status (reading.reportedStatus order) = .filled := by
  rw [max_eq_filled_iff, SaysFilled, ← status_eq_filled_iff h, Reading.reportedStatus]
  refine or_congr_right ?_
  cases he : reading.exchange with
  | none => simp [Reading.fallsBack, he]
  | some e =>
    simp only [Option.mem_def, Option.some.injEq, exists_eq_left', ← fallsBack_iff_of_read h he]
    by_cases hback : reading.fallsBack order = true <;> simp [hback, max_eq_filled_iff]

private theorem quantityOf_eq : reading.quantityOf order (reading.mergedFills order) =
    reconciledQuantity order events reading.exchange := by
  rw [Reading.quantityOf, filledQuantity_mergedFills h]
  rfl

end

private theorem isTerminal_max (hs : s.isTerminal = true) (t : OmsState) :
    (max s t).isTerminal = true := by
  rcases le_total t s with h | h
  · rwa [max_eq_left h]
  · rw [max_eq_right h]
    by_contra ht
    exact absurd (lt_of_isTerminal (Bool.not_eq_true _ ▸ ht) hs) (not_lt.mpr h)

/-- A terminal status that is not `FILLED` is a stopped one. -/
theorem isStopped_iff (hs : s.isTerminal = true) : s.isStopped = true ↔ s ≠ .filled := by
  cases s <;> simp_all [OmsState.isTerminal, OmsState.isStopped]

private theorem isTerminal_settle_iff (h : order.status.isTerminal = true) :
    (reading.settle order).status.isTerminal = true ↔
      ¬ (max order.status (reading.reportedStatus order) = .filled ∧
        order.PartlyFilled (reading.quantityOf order (reading.mergedFills order))) := by
  have hmerged := isTerminal_max h (reading.reportedStatus order)
  rw [status_settle]
  generalize max order.status (reading.reportedStatus order) = merged at hmerged ⊢
  by_cases hpartly : order.PartlyFilled
      (reading.quantityOf order (reading.mergedFills order))
  · rw [deriveStatus_of_partlyFilled order hpartly]
    by_cases hfilled : merged = .filled
    · subst hfilled
      simp [OmsState.isStopped, OmsState.isTerminal, hpartly]
    · rw [if_pos ((isStopped_iff hmerged).mpr hfilled)]
      simp [hmerged, hfilled]
  · refine iff_of_true ?_ fun h => hpartly h.2
    rcases deriveStatus_of_not_partlyFilled order hpartly with hkept | hfilled
    · rw [hkept]
      exact hmerged
    · rw [hfilled]
      rfl

/-- **Terminal orders.** A terminal order is reconciled to a terminal status exactly when nobody
says `FILLED` of an order that is filled in part: not the order, no event, and no snapshot that
tells more than they do. -/
theorem reconcile_terminal_iff {order : ReconciliationOrder}
    (hterminal : order.status.isTerminal = true) (events : List LifecycleEvent)
    (snapshot : Option ExchangeOrderSnapshot) :
    (∀ r, reconcile order events snapshot = .ok r → r.status.isTerminal = true) ↔
      ∀ exchange, ReadsAs events snapshot exchange →
        ¬ (SaysFilled order events exchange ∧
          order.PartlyFilled (reconciledQuantity order events exchange)) := by
  refine reconcile_forall_iff (P := fun r => r.status.isTerminal = true) fun reading hread => ?_
  rw [isTerminal_settle_iff reading order hterminal, ← saysFilled_iff hread, quantityOf_eq hread]

/-- A canceled order of which one coin of two was filled stays terminal. -/
theorem reconcile_canceled_order :
    let order := { twoCoinOrder with status := .canceled, filledQuantity := 1 }
    ∀ r, reconcile order [] none = .ok r → r.status.isTerminal = true := by
  intro order
  apply (@reconcile_terminal_iff order rfl [] none).mpr
  intro exchange hreads
  obtain rfl : exchange = none := Option.map_eq_none_iff.mp hreads.snapshot
  simp [SaysFilled, order]

/-- A filled order of which one coin of two is recorded is partially filled again. -/
theorem reconcile_filled_order_reopened :
    let order := { twoCoinOrder with status := .filled, filledQuantity := 1 }
    order.status.isTerminal = true ∧
      (reconcile order [] none).toOption.map (·.status) = some .partiallyFilled := by
  decide +kernel

/-! ### The filled quantity -/

/-- **Filled quantity.** The reconciled quantity is at least the order's and, when the fallback is
used, at least the snapshot's less the gap, exactly when the first fills of the events and of a
snapshot that tells more are dust, and the recorded quantities stand, or cover what was recorded:
for the order and, when it tells more, by the snapshot. -/
theorem reconcile_quantity_iff (order : ReconciliationOrder) (events : List LifecycleEvent)
    (snapshot : Option ExchangeOrderSnapshot) :
    (∀ r, reconcile order events snapshot = .ok r →
        order.filledQuantity ≤ r.filledQuantity ∧
          (r.usedExchangeFallback = true → ∀ snap ∈ snapshot,
            snap.filledQuantity - minFillGap ≤ r.filledQuantity)) ↔
      ∀ exchange, ReadsAs events snapshot exchange →
        countedQuantity order events exchange ≤ epsilon ∨
          order.filledQuantity ≤ countedQuantity order events exchange ∧
            ∀ e ∈ exchange, SnapshotAhead order events e →
              e.2.filledQuantity - minFillGap ≤ countedQuantity order events exchange := by
  refine reconcile_forall_iff fun reading hread => ?_
  have hused : (reading.settle order).usedExchangeFallback = reading.fallsBack order := rfl
  have hahead := @fallsBack_iff_of_read order events snapshot reading hread
  rw [← (readsAs_of_read hread).snapshot, hused, filledQuantity_settle, quantityOf_eq hread,
    reconciledQuantity]
  generalize countedQuantity order events reading.exchange = total
  by_cases hdust : total ≤ epsilon
  · -- what is recorded stands, and it is the larger of the two
    refine iff_of_true ?_ (.inl hdust)
    have hgap : 0 ≤ minFillGap := by norm_num [minFillGap]
    rw [if_pos hdust, recordedQuantity]
    cases reading.exchange with
    | none => exact ⟨le_max_right _ _, by simp⟩
    | some e =>
      refine ⟨le_max_of_le_left (le_max_right _ _), ?_⟩
      rintro - _ ⟨⟩
      have hsnap : e.2.filledQuantity ≤
          max (max 0 order.filledQuantity) (max 0 e.2.filledQuantity) :=
        le_max_of_le_right (le_max_right _ _)
      simp only [Option.map_some, Option.getD_some]
      linarith
  · rw [if_neg hdust, or_iff_right hdust]
    cases he : reading.exchange with
    | none => simp
    | some e => simp [hahead he]

/-- Two coins are recorded, for the order and on the exchange, whose snapshot lists no fills; one
fill was delivered. The fallback is used, and the quantity is below both. -/
theorem reconcile_quantity_regresses :
    let order := { twoCoinOrder with status := .opened, filledQuantity := 2 }
    let snap : ExchangeOrderSnapshot :=
      { status := "PARTIALLY_FILLED", filledQuantity := 2, averagePrice := some 105 }
    (reconcile order [fillEvent "f-1" "oms.order.partially_filled" 100] (some snap)).toOption.map
        (fun r => (r.usedExchangeFallback, decide (order.filledQuantity ≤ r.filledQuantity),
          decide (snap.filledQuantity - minFillGap ≤ r.filledQuantity))) =
      some (true, false, false) := by
  decide +kernel

end OpenTrader.Oms
