import OpenTrader.Oms.Runner

/-!
# Tracked orders of the lifecycle worker

Library `Worker`. `services/workers/execution_lifecycle.py:20-65,418-510,698-741`. A status
snapshot of a tracked order is turned into at most one lifecycle event, whose quantity is the
growth of the filled total for fills and the requested quantity otherwise.
-/

namespace OpenTrader.Worker
open Base Oms

/-- The statuses that have a lifecycle event. -/
inductive LifecycleStatus where
  | submitted
  | partiallyFilled
  | filled
  | canceled
  | rejected
  | expired
  deriving DecidableEq

namespace LifecycleStatus

/-- Text of a status. -/
def name : LifecycleStatus → String
  | .submitted => "submitted"
  | .partiallyFilled => "partially_filled"
  | .filled => "filled"
  | .canceled => "canceled"
  | .rejected => "rejected"
  | .expired => "expired"

/-- Membership in `_TERMINAL_STATUSES`. -/
def isTerminal : LifecycleStatus → Bool
  | .filled | .canceled | .rejected | .expired => true
  | .submitted | .partiallyFilled => false

/-- The mapping of `_status_to_event_type`; `execution_lifecycle.py:706-716`. -/
def eventType : LifecycleStatus → String
  | .submitted => "oms.order.submitted"
  | .partiallyFilled => "oms.order.partially_filled"
  | .filled => "oms.order.filled"
  | .canceled => "oms.order.canceled"
  | .rejected => "oms.order.rejected"
  | .expired => "oms.order.expired"

/-- Membership of the event type in `_FILL_EVENT_TYPES`. -/
def isFill : LifecycleStatus → Bool
  | .partiallyFilled | .filled => true
  | .submitted | .canceled | .rejected | .expired => false

/-- The fill statuses are those whose event type the OMS takes for a fill. -/
@[simp] theorem isFillEventType_eventType (status : LifecycleStatus) :
    isFillEventType status.eventType = status.isFill := by
  cases status <;> decide

end LifecycleStatus

/-- `_normalize_status`; `execution_lifecycle.py:719-741`. -/
def normalizeStatus (status : String) : String :=
  match lower (strip status) with
  | "" => "submitted"
  | "new" | "open" | "live" | "init" | "pending" => "submitted"
  | "partially_filled" | "partial_fill" | "partiallyfilled" => "partially_filled"
  | "filled" | "closed" => "filled"
  | "cancelled" | "canceled" | "cancel" => "canceled"
  | "rejected" | "reject" => "rejected"
  | "expired" => "expired"
  | other => other

/-- The status a snapshot text stands for; `none` is a text without a lifecycle event. -/
def readStatus (status : String) : Option LifecycleStatus :=
  match normalizeStatus status with
  | "submitted" => some .submitted
  | "partially_filled" => some .partiallyFilled
  | "filled" => some .filled
  | "canceled" => some .canceled
  | "rejected" => some .rejected
  | "expired" => some .expired
  | _ => none

/-- `LifecycleStatusSnapshot`; the raw response is left out. -/
structure LifecycleStatusSnapshot where
  exchange : String
  symbol : String
  status : String
  exchangeOrderId : Option String
  clientOrderId : Option String
  filledQuantityTotal : ℚ
  averagePrice : Option ℚ
  feeTotal : Option ℚ
  deriving DecidableEq

/-- Where a snapshot comes from. -/
inductive SnapshotSource where
  | privateStream
  | restFallback
  deriving DecidableEq

/-- Text of a snapshot source. -/
def SnapshotSource.name : SnapshotSource → String
  | .privateStream => "private_stream"
  | .restFallback => "rest_fallback"

/-- Actions of tracked intents. -/
inductive OrderAction where
  | buy
  | sell
  | close
  deriving DecidableEq

/-- Text of an action. -/
def OrderAction.name : OrderAction → String
  | .buy => "BUY"
  | .sell => "SELL"
  | .close => "CLOSE"

/-- `TrackedLifecycleOrder`; `execution_lifecycle.py:37-65`. The mode is always
`REAL` and the tracking key is the idempotency key. The last fields are what
`_track_execution_intent` checks before it builds an order, and the sign of the reported
amounts, which start at zero and never fall. -/
structure TrackedLifecycleOrder where
  traceId : String
  decisionId : String
  idempotencyKey : String
  strategyId : String
  exchange : String
  symbol : String
  action : OrderAction
  orderType : String
  timeInForce : Option String
  limitPrice : Option ℚ
  triggerPrice : Option ℚ
  reduceOnly : Bool
  requestedQuantity : ℚ
  clientOrderId : Option String
  exchangeOrderId : Option String
  status : LifecycleStatus := .submitted
  reportedFilledQuantity : ℚ := 0
  reportedFeeTotal : ℚ := 0
  averagePrice : Option ℚ := none
  emittedEvents : Nat := 0
  terminalMarkedAtMonotonic : Option ℚ := none
  validIds : isUuid traceId = true ∧ isUuid decisionId = true
  keyed : strip idempotencyKey ≠ ""
  named : strip symbol = symbol ∧ symbol ≠ ""
  requested_pos : 0 < requestedQuantity
  reported_nonneg : 0 ≤ reportedFilledQuantity
  fee_nonneg : 0 ≤ reportedFeeTotal

/-- `TrackedLifecycleOrder.is_terminal`. -/
def TrackedLifecycleOrder.isTerminal (order : TrackedLifecycleOrder) : Bool :=
  order.status.isTerminal

variable (uuid5 : Uuid5) (clock : Clock) (source : SnapshotSource)

/-- `_resolve_order_id`; `execution_lifecycle.py:698-703`. -/
def resolveOrderId (order : TrackedLifecycleOrder) : String :=
  if truthy order.exchangeOrderId then order.exchangeOrderId.getD ""
  else if truthy order.clientOrderId then order.clientOrderId.getD ""
  else uuid5.text ("real-order:" ++ order.idempotencyKey)

/-- An order takes over the ids it lacks; `execution_lifecycle.py:423-426`. -/
def absorbIds (order : TrackedLifecycleOrder) (snapshot : LifecycleStatusSnapshot) :
    TrackedLifecycleOrder :=
  { order with
    exchangeOrderId :=
      if truthy snapshot.exchangeOrderId && !truthy order.exchangeOrderId then
        snapshot.exchangeOrderId
      else order.exchangeOrderId
    clientOrderId :=
      if truthy snapshot.clientOrderId && !truthy order.clientOrderId then
        snapshot.clientOrderId
      else order.clientOrderId }

/-- A cumulative amount never falls below what was reported;
`execution_lifecycle.py:429-431,434-436`. -/
def clampTotal (total reported : ℚ) : ℚ := if max 0 total < reported then reported else max 0 total

/-- Growth of a cumulative amount; `execution_lifecycle.py:432,437`. -/
def totalDelta (total reported : ℚ) : ℚ := max 0 (clampTotal total reported - reported)

/-- The event quantity for a snapshot of a known status, if there is an event;
`execution_lifecycle.py:429-456`. -/
def emissionOf (order : TrackedLifecycleOrder) (snapshot : LifecycleStatusSnapshot)
    (status : LifecycleStatus) : Option (LifecycleStatus × ℚ) :=
  let fillDelta := totalDelta snapshot.filledQuantityTotal order.reportedFilledQuantity
  let feeDelta := totalDelta (snapshot.feeTotal.getD 0) order.reportedFeeTotal
  if status = order.status ∧ fillDelta ≤ 0 ∧ feeDelta ≤ 0 then none
  else
    let fillDelta :=
      if fillDelta ≤ 0 ∧ status = .filled then
        max 0 (order.requestedQuantity - order.reportedFilledQuantity)
      else fillDelta
    let quantity := if status.isFill then fillDelta else order.requestedQuantity
    if quantity ≤ 0 then none else some (status, quantity)

/-- The status and quantity of the event a snapshot leads to, if any;
`execution_lifecycle.py:428-456`. -/
def emission (order : TrackedLifecycleOrder) (snapshot : LifecycleStatusSnapshot) :
    Option (LifecycleStatus × ℚ) :=
  (readStatus snapshot.status).bind (emissionOf order snapshot)

/-- A message that passes `validate_envelope`. -/
structure PublishedEvent where
  envelope : OrderEnvelope
  valid : validateEnvelope envelope = .ok ()

/-- Quantity of a fill event, zero for the other events. -/
def fillQuantity (event : PublishedEvent) : ℚ :=
  if isFillEventType (event.envelope.eventType.getD "") then
    match event.envelope.payload with
    | none => 0
    | some payload => payload.quantity.toFloatD 0
  else 0

/-- The order id an event carries. -/
def eventOrderId (event : PublishedEvent) : Option String :=
  event.envelope.payload.bind (·.orderId)

/-- Readings of the wall clock and of `time.monotonic()` during one call. -/
structure Clock where
  stamp : UtcStamp
  monotonic : ℚ

/-- The lifecycle event of a tracked order; `execution_lifecycle.py:458-487`. -/
def lifecycleEnvelope (order : TrackedLifecycleOrder) (status : LifecycleStatus) (quantity : ℚ)
    (averagePrice : Option ℚ) (feeDelta : ℚ) : OrderEnvelope :=
  { traceId := some order.traceId
    decisionId := some order.decisionId
    mode := some "REAL"
    idempotencyKey := some (order.idempotencyKey ++ ":" ++ source.name ++ ":" ++
      toString (order.emittedEvents + 1))
    eventType := some status.eventType
    emittedAt := some clock.stamp.text
    payload := some
      { strategyId := some order.strategyId
        orderId := some (resolveOrderId uuid5 order)
        exchangeOrderId := order.exchangeOrderId
        clientOrderId := order.clientOrderId
        exchange := some order.exchange
        symbol := some order.symbol
        mode := some "REAL"
        action := some order.action.name
        orderType := some order.orderType
        timeInForce := order.timeInForce
        limitPrice := .ofOption order.limitPrice
        triggerPrice := .ofOption order.triggerPrice
        reduceOnly := some order.reduceOnly
        quantity := .num quantity
        fillPrice := .ofOption averagePrice
        feePaid := .num (if feeDelta > 0 then feeDelta else 0)
        status := some (upper status.name)
        source := some source.name }
    service := some "execution_lifecycle_worker" }

/-- The event always passes the validation before it is published;
`execution_lifecycle.py:488-489`. -/
theorem validateEnvelope_lifecycleEnvelope (order : TrackedLifecycleOrder)
    (status : LifecycleStatus) (quantity : ℚ) (averagePrice : Option ℚ) (feeDelta : ℚ) :
    validateEnvelope (lifecycleEnvelope uuid5 clock source order status quantity averagePrice
      feeDelta) = .ok () := by
  rw [validateEnvelope_ok_iff]
  simp only [lifecycleEnvelope, Option.any_some, Option.isSome_some, order.validIds,
    clock.stamp.valid, String.append_assoc, decide_eq_true_eq]
  refine ⟨trivial, trivial, .inr trivial, strip_append_ne_empty _ order.keyed, ?_, trivial, trivial⟩
  cases status <;> decide +kernel

/-- The order after its event was published; `execution_lifecycle.py:458,491-496`. -/
def advance (order : TrackedLifecycleOrder) (snapshot : LifecycleStatusSnapshot)
    (status : LifecycleStatus) (averagePrice : Option ℚ) : TrackedLifecycleOrder :=
  { order with
    emittedEvents := order.emittedEvents + 1
    status
    averagePrice
    reportedFilledQuantity := max order.reportedFilledQuantity
      (clampTotal snapshot.filledQuantityTotal order.reportedFilledQuantity)
    reportedFeeTotal := max order.reportedFeeTotal
      (clampTotal (snapshot.feeTotal.getD 0) order.reportedFeeTotal)
    terminalMarkedAtMonotonic :=
      if status.isTerminal then some clock.monotonic else order.terminalMarkedAtMonotonic
    reported_nonneg := order.reported_nonneg.trans (le_max_left _ _)
    fee_nonneg := order.fee_nonneg.trans (le_max_left _ _) }

/-- The average price a snapshot leaves; `execution_lifecycle.py:439`. -/
def averageAfter (order : TrackedLifecycleOrder) (snapshot : LifecycleStatusSnapshot) : Option ℚ :=
  (positiveOrNone snapshot.averagePrice).or order.averagePrice

/-- Publication of an event; `execution_lifecycle.py:458-496`. -/
def publish (order : TrackedLifecycleOrder) (snapshot : LifecycleStatusSnapshot)
    (status : LifecycleStatus) (quantity : ℚ) : TrackedLifecycleOrder × Option PublishedEvent :=
  (advance clock order snapshot status (averageAfter order snapshot),
    some ⟨lifecycleEnvelope uuid5 clock source order status quantity (averageAfter order snapshot)
        (totalDelta (snapshot.feeTotal.getD 0) order.reportedFeeTotal),
      validateEnvelope_lifecycleEnvelope ..⟩)

/-- `_apply_snapshot` once the order is resolved; `execution_lifecycle.py:423-510`. -/
def applyToOrder (order : TrackedLifecycleOrder) (snapshot : LifecycleStatusSnapshot) :
    TrackedLifecycleOrder × Option PublishedEvent :=
  (emission order snapshot).elim (absorbIds order snapshot, none) fun e =>
    publish uuid5 clock source (absorbIds order snapshot) snapshot e.1 e.2

/-! ### What a snapshot emits -/

variable {total reported : ℚ}

/-- Growth over a reported amount is what the total exceeds it by. -/
theorem totalDelta_eq (h : 0 ≤ reported) :
    totalDelta total reported = max 0 (total - reported) := by
  unfold totalDelta clampTotal
  split
  · next hlt =>
    have ht : total - reported ≤ 0 := by linarith [le_max_right 0 total]
    rw [sub_self, max_self, max_eq_left ht]
  · next hle =>
    rcases le_total total 0 with ht | ht
    · have hr : reported = 0 := le_antisymm (by rw [max_eq_left ht] at hle; exact not_lt.mp hle) h
      rw [max_eq_left ht, hr, sub_zero, sub_zero, max_self, max_eq_left ht]
    · rw [max_eq_right ht]

/-- An amount has grown exactly when the total exceeds the reported one. -/
theorem totalDelta_le_zero_iff (h : 0 ≤ reported) :
    totalDelta total reported ≤ 0 ↔ total ≤ reported := by
  rw [totalDelta_eq h]
  simp

/-- The high-water mark after a snapshot. -/
theorem max_clampTotal (h : 0 ≤ reported) :
    max reported (clampTotal total reported) = max reported total := by
  unfold clampTotal
  split
  · next hlt => rw [max_self, max_eq_left ((le_max_right 0 total).trans hlt.le)]
  · rw [← max_assoc, max_eq_left h]

section

variable {order : TrackedLifecycleOrder} {snapshot : LifecycleStatusSnapshot}
  {status : LifecycleStatus}

/-- A status text without a lifecycle event emits nothing. -/
theorem emission_unknown (hs : readStatus snapshot.status = none) :
    emission order snapshot = none := by
  rw [emission, hs, Option.bind_none]

/-- A fill report whose total has grown emits the growth. -/
theorem emission_grown (hs : readStatus snapshot.status = some status) (hfill : status.isFill)
    (hgrown : order.reportedFilledQuantity < snapshot.filledQuantityTotal) :
    emission order snapshot =
      some (status, snapshot.filledQuantityTotal - order.reportedFilledQuantity) := by
  have hpos : 0 < snapshot.filledQuantityTotal - order.reportedFilledQuantity := sub_pos.mpr hgrown
  simp only [emission, hs, Option.bind_some, emissionOf, totalDelta_eq order.reported_nonneg,
    max_eq_right hpos.le, not_le.mpr hpos, false_and, and_false, if_false, hfill, if_true]

private theorem totalDelta_eq_zero
    (hstale : snapshot.filledQuantityTotal ≤ order.reportedFilledQuantity) :
    totalDelta snapshot.filledQuantityTotal order.reportedFilledQuantity = 0 := by
  rw [totalDelta_eq order.reported_nonneg, max_eq_left (sub_nonpos.mpr hstale)]

/-- A partial fill report whose total has not grown emits nothing. -/
theorem emission_partial_stale (hs : readStatus snapshot.status = some .partiallyFilled)
    (hstale : snapshot.filledQuantityTotal ≤ order.reportedFilledQuantity) :
    emission order snapshot = none := by
  simp only [emission, hs, Option.bind_some, emissionOf, totalDelta_eq_zero hstale, le_refl,
    reduceCtorEq, and_false, if_false, LifecycleStatus.isFill, if_true, ite_self]

/-- A `filled` report whose total has not grown emits the rest of the requested quantity, when
the status or the fee is news and there is a rest. -/
theorem emission_filled_stale (hs : readStatus snapshot.status = some .filled)
    (hstale : snapshot.filledQuantityTotal ≤ order.reportedFilledQuantity) :
    emission order snapshot =
      if (order.status = .filled ∧ snapshot.feeTotal.getD 0 ≤ order.reportedFeeTotal) ∨
          order.requestedQuantity ≤ order.reportedFilledQuantity then none
      else some (.filled, order.requestedQuantity - order.reportedFilledQuantity) := by
  simp only [emission, hs, Option.bind_some, emissionOf, totalDelta_eq_zero hstale, le_refl,
    true_and, totalDelta_le_zero_iff order.fee_nonneg, LifecycleStatus.isFill, if_true]
  by_cases hsame : order.status = .filled ∧ snapshot.feeTotal.getD 0 ≤ order.reportedFeeTotal
  · rw [if_pos ⟨hsame.1.symm, hsame.2⟩, if_pos (.inl hsame)]
  · rw [if_neg fun h => hsame ⟨h.1.symm, h.2⟩]
    rcases le_or_gt order.requestedQuantity order.reportedFilledQuantity with hle | hlt
    · rw [max_eq_left (sub_nonpos.mpr hle), if_pos le_rfl, if_pos (.inr hle)]
    · have hpos := sub_pos.mpr hlt
      rw [max_eq_right hpos.le, if_neg (not_le.mpr hpos),
        if_neg (not_or.mpr ⟨hsame, not_le.mpr hlt⟩)]

/-- Any other report emits the requested quantity when it brings news. -/
theorem emission_other (hs : readStatus snapshot.status = some status)
    (hfill : status.isFill = false) :
    emission order snapshot =
      if status = order.status ∧ snapshot.filledQuantityTotal ≤ order.reportedFilledQuantity ∧
          snapshot.feeTotal.getD 0 ≤ order.reportedFeeTotal then none
      else some (status, order.requestedQuantity) := by
  simp only [emission, hs, Option.bind_some, emissionOf,
    totalDelta_le_zero_iff order.reported_nonneg, totalDelta_le_zero_iff order.fee_nonneg, hfill,
    Bool.false_eq_true, if_false, not_le.mpr order.requested_pos]

variable {quantity : ℚ}

/-- An event has the status of its snapshot. -/
theorem readStatus_of_emission (h : emission order snapshot = some (status, quantity)) :
    readStatus snapshot.status = some status := by
  obtain ⟨status', hs, he⟩ := Option.bind_eq_some_iff.mp h
  simp only [emissionOf, Option.ite_none_left_eq_some, Option.some.injEq, Prod.mk.injEq] at he
  rw [hs, he.2.2.1]

/-- An event has a positive quantity. -/
theorem emission_pos (h : emission order snapshot = some (status, quantity)) : 0 < quantity := by
  obtain ⟨status', -, he⟩ := Option.bind_eq_some_iff.mp h
  simp only [emissionOf, Option.ite_none_left_eq_some, Option.some.injEq, Prod.mk.injEq] at he
  obtain ⟨-, hpos, -, rfl⟩ := he
  exact not_le.mp hpos

variable (uuid5 : Uuid5) (clock : Clock) (source : SnapshotSource)

/-- A snapshot that emits nothing only completes the ids of its order. -/
theorem applyToOrder_of_none (h : emission order snapshot = none) :
    applyToOrder uuid5 clock source order snapshot = (absorbIds order snapshot, none) := by
  rw [applyToOrder, h, Option.elim_none]

/-- A snapshot that emits something completes the ids and publishes. -/
theorem applyToOrder_of_some (h : emission order snapshot = some (status, quantity)) :
    applyToOrder uuid5 clock source order snapshot =
      publish uuid5 clock source (absorbIds order snapshot) snapshot status quantity := by
  rw [applyToOrder, h, Option.elim_some]

/-- A snapshot that emits something advances the high-water mark to its total. -/
theorem reported_of_emission (h : emission order snapshot = some (status, quantity)) :
    (applyToOrder uuid5 clock source order snapshot).1.reportedFilledQuantity =
      max order.reportedFilledQuantity snapshot.filledQuantityTotal := by
  rw [applyToOrder_of_some uuid5 clock source h]
  exact max_clampTotal order.reported_nonneg

/-- A snapshot never changes the symbol and the action of its order, and reports no more than its
total beyond what was reported. -/
theorem applyToOrder_keeps (order : TrackedLifecycleOrder) (snapshot : LifecycleStatusSnapshot) :
    (applyToOrder uuid5 clock source order snapshot).1.symbol = order.symbol ∧
      (applyToOrder uuid5 clock source order snapshot).1.action = order.action ∧
      (applyToOrder uuid5 clock source order snapshot).1.reportedFilledQuantity ≤
        max order.reportedFilledQuantity snapshot.filledQuantityTotal := by
  cases he : emission order snapshot with
  | none =>
    rw [applyToOrder_of_none uuid5 clock source he]
    exact ⟨rfl, rfl, le_max_left _ _⟩
  | some e =>
    have hrep := reported_of_emission uuid5 clock source he
    rw [applyToOrder_of_some uuid5 clock source he] at hrep ⊢
    exact ⟨rfl, rfl, hrep.le⟩

end

/-- Fill quantity of the event for a status and a quantity. -/
@[simp] theorem fillQuantity_lifecycleEnvelope (order : TrackedLifecycleOrder)
    (status : LifecycleStatus) (quantity : ℚ) (averagePrice : Option ℚ) (feeDelta : ℚ)
    (hvalid : validateEnvelope (lifecycleEnvelope uuid5 clock source order status quantity
      averagePrice feeDelta) = .ok ()) :
    fillQuantity ⟨lifecycleEnvelope uuid5 clock source order status quantity averagePrice
      feeDelta, hvalid⟩ = if status.isFill then quantity else 0 := by
  simp only [fillQuantity, lifecycleEnvelope, Option.getD_some,
    LifecycleStatus.isFillEventType_eventType, NumField.toFloatD]

end OpenTrader.Worker
