import Mathlib.Algebra.Order.BigOperators.Group.List
import OpenTrader.Oms.Runner

/-!
# Order records opened by a fill

Library `Oms`. `services/workers/oms_lifecycle.py:101-144`,
`services/oms/fill_reconciliation.py:209-224`. The first update of an order id opens its record
with the quantity of that update as the requested one. When that update is a fill, the fills
cover the requested quantity from the start.
-/

namespace OpenTrader.Oms
open Base

variable {u : OrderUpdate}

/-- The order ledger moves at the id of the update alone, whatever the step returns. -/
theorem runOnce_orderLedger (base : ℚ) {now : String} (s : RunnerState) {envelope : OrderEnvelope}
    (h : readUpdate now envelope = .ok (some u)) :
    (runOnce base now s envelope).1.orders = s.orders.set u.orderId (reconciledOrder s u) ∧
      (runOnce base now s envelope).1.lifecycleEvents =
        s.lifecycleEvents.set u.orderId (eventsForOrder s u) := by
  obtain ⟨activity, hwrite⟩ := writeUpdate_fst base now s envelope u
  rw [runOnce, h]
  dsimp only
  rw [hwrite]
  exact ⟨rfl, rfl⟩

/-- A record whose first event is a fill of its id and of the whole requested quantity. -/
structure OpenedByFill (id : String) (events : List QueueEvent) (order : ReconciliationOrder) :
    Prop where
  orderId_eq : order.orderId = id
  requested_pos : 0 < order.requestedQuantity
  first : ∃ event rest fill, events = event :: rest ∧ event.toLifecycleEvent.fill = some fill ∧
    fill.orderId = id ∧ fill.quantity = order.requestedQuantity

/-- An update that brings a fill of its own id and quantity. -/
structure IsFillUpdate (u : OrderUpdate) : Prop where
  requested_pos : 0 < u.requestedQuantity
  fill : ∃ fill, u.event.toLifecycleEvent.fill = some fill ∧ fill.orderId = u.orderId ∧
    fill.quantity = u.requestedQuantity

private theorem filledQuantity_nonneg (fills : List ReconciliationFill) :
    0 ≤ filledQuantity fills := by
  apply List.sum_nonneg
  intro quantity hm
  obtain ⟨fill, -, rfl⟩ := List.mem_map.mp hm
  exact le_max_left 0 _

variable {order : ReconciliationOrder}

private theorem requested_le_filledQuantity {id : String} {events : List QueueEvent}
    (h : OpenedByFill id events order) :
    order.requestedQuantity ≤
      filledQuantity (dedupeFills (queueFills id (events.map (·.toLifecycleEvent)))) := by
  obtain ⟨event, rest, fill, rfl, hf, hid, hq⟩ := h.first
  have hhead : queueFills id ((event :: rest).map (·.toLifecycleEvent)) =
      normalizeFill fill :: queueFills id (rest.map (·.toLifecycleEvent)) := by
    simp [queueFills, hf, hid]
  have hnorm : max 0 (normalizeFill fill).quantity = order.requestedQuantity := by
    simp [normalizeFill, hq, h.requested_pos.le]
  rw [hhead, dedupeFills, distinctBy, distinctFrom, if_neg List.not_mem_nil, filledQuantity,
    List.map_cons, List.sum_cons, hnorm]
  exact le_add_of_nonneg_right (filledQuantity_nonneg _)

private theorem status_conclude {merged : OmsState} {fills : List ReconciliationFill}
    (hpos : 0 < order.requestedQuantity) (hle : order.requestedQuantity ≤ filledQuantity fills) :
    (conclude order none merged fills false).status =
      if order.requestedQuantity ≤ epsilon then merged else .filled := by
  simp only [conclude, max_eq_right hpos.le]
  unfold deriveStatus
  split
  · rfl
  · next hlarge =>
    have hfilled : ¬ filledQuantity fills ≤ epsilon := fun h => hlarge (hle.trans h)
    rw [if_neg hfilled, if_pos]
    exact (sub_le_self _ epsilon_pos.le).trans hle

variable {s : RunnerState}

/-- An update of a record opened by a fill leaves it filled, unless the requested quantity is
negligible and the events decide. -/
theorem status_reconciledOrder
    (h : OpenedByFill u.orderId (eventsForOrder s u) (existingOrder s u)) :
    (reconciledOrder s u).status =
      if (existingOrder s u).requestedQuantity ≤ epsilon then
        pickStatus ((existingOrder s u).status :: queueStatuses (eventsForOrder s u))
      else .filled := by
  have hle := requested_le_filledQuantity h
  rw [← h.orderId_eq] at hle
  exact status_conclude h.requested_pos hle

/-- A record opened by a fill stays one. -/
theorem openedByFill_reconciledOrder
    (h : OpenedByFill u.orderId (eventsForOrder s u) (existingOrder s u)) :
    OpenedByFill u.orderId (eventsForOrder s u) (reconciledOrder s u) :=
  ⟨rfl, h.requested_pos, h.first⟩

/-- A fill update opens a record under an id the ledger does not know. -/
theorem openedByFill_of_new (hu : IsFillUpdate u) (horder : s.orders.get? u.orderId = none)
    (hevents : s.lifecycleEvents.get? u.orderId = none) :
    OpenedByFill u.orderId (eventsForOrder s u) (existingOrder s u) := by
  obtain ⟨fill, hf, hid, hq⟩ := hu.fill
  have hexisting : existingOrder s u =
      { orderId := u.orderId, symbol := u.symbol, mode := u.mode,
        requestedQuantity := u.requestedQuantity } := by
    rw [existingOrder, horder, Option.getD_none]
  have hfor : eventsForOrder s u = [u.event] := by
    rw [eventsForOrder, hevents, Option.getD_none, List.nil_append]
  rw [hexisting, hfor]
  exact ⟨rfl, hu.requested_pos, u.event, [], fill, rfl, hf, hid, hq⟩

/-- An update finds a record opened by a fill as it is. -/
theorem openedByFill_of_known {events : List QueueEvent}
    (horder : s.orders.get? u.orderId = some order)
    (hevents : s.lifecycleEvents.get? u.orderId = some events)
    (h : OpenedByFill u.orderId events order) :
    OpenedByFill u.orderId (eventsForOrder s u) (existingOrder s u) := by
  obtain ⟨event, rest, fill, rfl, hf, hid, hq⟩ := h.first
  rw [existingOrder, horder, Option.getD_some, eventsForOrder, hevents, Option.getD_some]
  exact ⟨h.orderId_eq, h.requested_pos, event, rest ++ [u.event], fill, rfl, hf, hid, hq⟩

private theorem foldl_filled (statuses : List OmsState) :
    statuses.foldl (fun best status =>
      if statusPriority status > statusPriority best then status else best) .filled = .filled := by
  induction statuses with
  | nil => rfl
  | cons status statuses ih =>
    have hmax : ¬ statusPriority status > statusPriority .filled := by cases status <;> decide
    rw [List.foldl_cons, if_neg hmax, ih]

/-- No status has a higher priority than `FILLED`. -/
theorem pickStatus_filled (statuses : List OmsState) : pickStatus (.filled :: statuses) = .filled :=
  foldl_filled statuses

end OpenTrader.Oms
