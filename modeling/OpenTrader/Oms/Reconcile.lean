import OpenTrader.Base.Distinct
import OpenTrader.Oms.Position
import OpenTrader.Oms.State

/-!
# Fill reconciliation

Library `Oms`. `services/oms/fill_reconciliation.py:13-282`. The order record is rebuilt
from its queue events: the status of highest priority, and the fills deduplicated by fill
id. An exchange snapshot, when one is given, fills the gaps.
-/

namespace OpenTrader.Oms
open Base

/-- `_MIN_FILL_GAP`. -/
def minFillGap : ℚ := 1 / 1000000

/-- `_EVENT_STATUS_MAP`. -/
def eventStatusMap (eventType : String) : Option OmsState :=
  match eventType with
  | "oms.order.created" => some .opened
  | "oms.order.submitted" => some .submitted
  | "oms.order.open" => some .opened
  | "oms.order.partially_filled" => some .partiallyFilled
  | "oms.order.filled" => some .filled
  | "oms.order.canceled" => some .canceled
  | "oms.order.cancelled" => some .canceled
  | "oms.order.rejected" => some .rejected
  | "oms.order.expired" => some .expired
  | "oms.order.ignored" => some .canceled
  | _ => none

/-- `_STATUS_PRIORITY`. -/
def statusPriority : OmsState → Nat
  | .new => 0
  | .submitted => 1
  | .opened => 2
  | .partiallyFilled => 3
  | .expired => 4
  | .rejected => 5
  | .canceled => 6
  | .filled => 7

/-- `ReconciliationOrder`. -/
structure ReconciliationOrder where
  orderId : String
  symbol : String
  mode : String
  requestedQuantity : ℚ
  status : OmsState := .new
  filledQuantity : ℚ := 0
  averagePrice : Option ℚ := none
  deriving DecidableEq

/-- `ReconciliationFill`. -/
structure ReconciliationFill where
  fillId : String
  orderId : String
  quantity : ℚ
  price : ℚ
  fee : ℚ := 0
  source : String := "queue"
  deriving DecidableEq

/-- `LifecycleEvent`. -/
structure LifecycleEvent where
  eventType : String
  status : Option String := none
  fill : Option ReconciliationFill := none
  deriving DecidableEq

/-- `ExchangeOrderSnapshot`. -/
structure ExchangeOrderSnapshot where
  status : String
  filledQuantity : ℚ
  averagePrice : Option ℚ
  fills : List ReconciliationFill := []
  deriving DecidableEq

/-- `FillReconciliationResult`. -/
structure FillReconciliationResult where
  orderId : String
  status : OmsState
  filledQuantity : ℚ
  averagePrice : Option ℚ
  fills : List ReconciliationFill
  usedExchangeFallback : Bool
  changed : Bool
  deriving DecidableEq

/-- `_event_status`; `fill_reconciliation.py:160-166`. -/
def eventStatus (event : LifecycleEvent) : Except OmsStateTransitionError (Option OmsState) :=
  match event.status with
  | some status => (normalizeState status).map some
  | none => .ok (eventStatusMap event.eventType)

/-- The statuses the loop over the events collects; `fill_reconciliation.py:98-101`. -/
def eventStatuses : List LifecycleEvent → Except OmsStateTransitionError (List OmsState)
  | [] => .ok []
  | event :: events => do
    let inferredStatus ← eventStatus event
    return inferredStatus.toList ++ (← eventStatuses events)

/-- `_pick_status`; `fill_reconciliation.py:169-178`. -/
def pickStatus (statuses : List OmsState) : OmsState :=
  statuses.foldl (fun best status =>
    if statusPriority status > statusPriority best then status else best) .new

/-- `_normalize_fill`; `fill_reconciliation.py:227-235`. -/
def normalizeFill (fill : ReconciliationFill) : ReconciliationFill :=
  { fill with quantity := max 0 |fill.quantity| }

/-- The fills the loop over the events collects; `fill_reconciliation.py:102-103`. -/
def queueFills (orderId : String) (events : List LifecycleEvent) : List ReconciliationFill :=
  (events.filterMap (·.fill)).filter (·.orderId = orderId) |>.map normalizeFill

variable (order : ReconciliationOrder) (events : List QueueEvent) (fills : List ReconciliationFill)

/-- `_dedupe_fills`; `fill_reconciliation.py:238-246`. -/
def dedupeFills : List ReconciliationFill :=
  distinctBy (·.fillId) fills

/-- `_filled_quantity`; `fill_reconciliation.py:249-250`. -/
def filledQuantity : ℚ :=
  (fills.map fun fill => max 0 fill.quantity).sum

/-- `_weighted_average_price`; `fill_reconciliation.py:253-262`. -/
def weightedAveragePrice : Option ℚ :=
  let totalQuantity := filledQuantity fills
  let notional := (fills.map fun fill => max 0 fill.quantity * fill.price).sum
  if totalQuantity ≤ epsilon then none else some (notional / totalQuantity)

/-- `_requires_fallback`; `fill_reconciliation.py:181-206`. -/
def requiresFallback (currentStatus : OmsState) (fills : List ReconciliationFill)
    (snapshot : ExchangeOrderSnapshot) : Except OmsStateTransitionError Bool := do
  let snapshotStatus ← normalizeState snapshot.status
  let moreFilled := max 0 snapshot.filledQuantity > filledQuantity fills + minFillGap
  if !currentStatus.isTerminal then
    return snapshotStatus.isTerminal || moreFilled
  else
    return (snapshotStatus.isTerminal &&
      statusPriority snapshotStatus > statusPriority currentStatus) || moreFilled

/-- `_derive_status`; `fill_reconciliation.py:209-224`. -/
def deriveStatus (baseStatus : OmsState) (requestedQuantity filledQuantity : ℚ) : OmsState :=
  if requestedQuantity ≤ epsilon then baseStatus
  else if filledQuantity ≥ requestedQuantity - epsilon then .filled
  else if filledQuantity > epsilon then
    match baseStatus with
    | .canceled => .canceled
    | .rejected => .rejected
    | .expired => .expired
    | _ => .partiallyFilled
  else baseStatus

/-- `_is_changed`; `fill_reconciliation.py:265-282`. -/
def isChanged (status : OmsState) (filledQuantity : ℚ) (averagePrice : Option ℚ) : Bool :=
  if order.status ≠ status then true
  else if |order.filledQuantity - filledQuantity| > epsilon then true
  else
    match order.averagePrice, averagePrice with
    | none, none => false
    | some existing, some average => |existing - average| > epsilon
    | _, _ => true

/-- The result for the merged status and fills; `fill_reconciliation.py:121-157`. -/
def conclude (snapshot : Option ExchangeOrderSnapshot) (mergedStatus : OmsState)
    (mergedFills : List ReconciliationFill) (usedFallback : Bool) : FillReconciliationResult :=
  let queueFilled := filledQuantity mergedFills
  let filled :=
    if queueFilled ≤ epsilon then
      match snapshot with
      | none => max 0 order.filledQuantity
      | some snap => max (max 0 order.filledQuantity) (max 0 snap.filledQuantity)
    else queueFilled
  let average := ((weightedAveragePrice mergedFills).or (snapshot.bind (·.averagePrice))).or
    order.averagePrice
  let status := deriveStatus mergedStatus (max 0 order.requestedQuantity) filled
  { orderId := order.orderId, status, filledQuantity := filled, averagePrice := average,
    fills := mergedFills, usedExchangeFallback := usedFallback,
    changed := isChanged order status filled average }

/-- `FillReconciliationEngine.reconcile`; `fill_reconciliation.py:87-157`. -/
def reconcile (events : List LifecycleEvent) (snapshot : Option ExchangeOrderSnapshot) :
    Except OmsStateTransitionError FillReconciliationResult := do
  let statuses ← eventStatuses events
  let mergedFills := dedupeFills (queueFills order.orderId events)
  let mergedStatus := pickStatus (order.status :: statuses)
  match snapshot with
  | none => return conclude order none mergedStatus mergedFills false
  | some snap =>
    if ← requiresFallback mergedStatus mergedFills snap then
      let snapshotStatus ← normalizeState snap.status
      return conclude order (some snap) (pickStatus [mergedStatus, snapshotStatus])
        (dedupeFills (mergedFills ++ snap.fills.map normalizeFill)) true
    else
      return conclude order (some snap) mergedStatus mergedFills false

/-- Total of the first fill of each fill id. -/
def firstFillsTotal : ℚ :=
  ((distinctBy (·.fillId) fills).map (·.quantity)).sum

/-- Deduplicated fills without a negative quantity are the first ones of their ids. -/
theorem filledQuantity_dedupeFills {fills : List ReconciliationFill}
    (h : ∀ fill ∈ fills, 0 ≤ fill.quantity) :
    filledQuantity (dedupeFills fills) = firstFillsTotal fills := by
  unfold filledQuantity firstFillsTotal
  congr 1
  apply List.map_congr_left
  intro fill hm
  exact max_eq_right (h fill (mem_of_mem_distinctBy _ hm))

/-- Normalized fills have no negative quantity. -/
theorem queueFills_nonneg (id : String) (events : List LifecycleEvent) :
    ∀ fill ∈ queueFills id events, 0 ≤ fill.quantity := by
  intro fill hm
  obtain ⟨raw, -, rfl⟩ := List.mem_map.mp hm
  exact le_max_left 0 _

/-! ### Queue events -/

/-- A lifecycle event as the in-memory runner records it: it names no status of its own. -/
structure QueueEvent where
  toLifecycleEvent : LifecycleEvent
  statusless : toLifecycleEvent.status = none
  deriving DecidableEq

/-- The statuses implied by the types of queue events. -/
def queueStatuses : List OmsState :=
  events.filterMap fun event => eventStatusMap event.toLifecycleEvent.eventType

private theorem eventStatuses_queue :
    eventStatuses (events.map (·.toLifecycleEvent)) = .ok (queueStatuses events) := by
  induction events with
  | nil => rfl
  | cons event events ih =>
    have hstat : eventStatus event.toLifecycleEvent =
        .ok (eventStatusMap event.toLifecycleEvent.eventType) := by
      rw [eventStatus, event.statusless]
    simp only [List.map_cons, eventStatuses, hstat, ih, queueStatuses, List.filterMap_cons]
    cases eventStatusMap event.toLifecycleEvent.eventType <;> rfl

/-- Queue events without an exchange snapshot always reconcile. -/
theorem reconcile_queue :
    reconcile order (events.map (·.toLifecycleEvent)) none =
      .ok (conclude order none (pickStatus (order.status :: queueStatuses events))
        (dedupeFills (queueFills order.orderId (events.map (·.toLifecycleEvent)))) false) := by
  rw [reconcile, eventStatuses_queue]
  rfl

end OpenTrader.Oms
