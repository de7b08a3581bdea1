import OpenTrader.Worker.Step

/-!
# What the OMS reads of a lifecycle event

Library `Worker`. The payload of `services/workers/execution_lifecycle.py:459-487` read by
`services/workers/oms_lifecycle.py:20-59,92-101`: every event of a tracked order is an update
of the record under its order id, and the fill events bring their quantity at the average price.
-/

namespace OpenTrader.Worker
open Base Oms

/-! ### Order ids -/

/-- An id as `_strip_or_none` leaves it. Intents and the builders of snapshots all apply it;
`execution_lifecycle.py:350-351,592-595,652-653`. -/
def IsStripped (id : Option String) : Prop := stripOrNone id = id

instance (id : Option String) : Decidable (IsStripped id) := inferInstanceAs (Decidable (_ = _))

/-- The ids of a snapshot are stripped. -/
def LifecycleStatusSnapshot.Stripped (snapshot : LifecycleStatusSnapshot) : Prop :=
  IsStripped snapshot.exchangeOrderId ∧ IsStripped snapshot.clientOrderId

instance (snapshot : LifecycleStatusSnapshot) : Decidable snapshot.Stripped :=
  inferInstanceAs (Decidable (_ ∧ _))

/-- The ids of a tracked order are stripped. -/
def TrackedLifecycleOrder.Stripped (order : TrackedLifecycleOrder) : Prop :=
  IsStripped order.exchangeOrderId ∧ IsStripped order.clientOrderId

instance (order : TrackedLifecycleOrder) : Decidable order.Stripped :=
  inferInstanceAs (Decidable (_ ∧ _))

private theorem isStripped_stripOrNone (id : Option String) : IsStripped (stripOrNone id) := by
  cases id with
  | none => rfl
  | some text =>
    by_cases hblank : strip text = ""
    · simp [IsStripped, stripOrNone, hblank]
    · simp [IsStripped, stripOrNone, hblank]

variable {snapshot : LifecycleStatusSnapshot} {id : Option String}

private theorem strip_getD (h : IsStripped id) (ht : truthy id) :
    strip (id.getD "") = id.getD "" := by
  cases id with
  | none => cases ht
  | some text => exact (stripOrNone_some h).1

private theorem getD_ne_empty (ht : truthy id) : id.getD "" ≠ "" := by
  cases id with
  | none => cases ht
  | some text => simpa [truthy] using ht

private theorem resolveOrderId_ne_empty (uuid5 : Uuid5) (order : TrackedLifecycleOrder) :
    resolveOrderId uuid5 order ≠ "" := by
  unfold resolveOrderId
  split
  · next ht => exact getD_ne_empty ht
  · split
    · next ht => exact getD_ne_empty ht
    · exact uuid5.nonempty _

private theorem strip_resolveOrderId (uuid5 : Uuid5) {order : TrackedLifecycleOrder}
    (h : order.Stripped) : strip (resolveOrderId uuid5 order) = resolveOrderId uuid5 order := by
  unfold resolveOrderId
  split
  · next ht => exact strip_getD h.1 ht
  · split
    · next ht => exact strip_getD h.2 ht
    · exact uuid5.stripped _

/-- Stripped ids complete an order to stripped ids. -/
theorem stripped_absorbIds {order : TrackedLifecycleOrder} (ho : order.Stripped)
    (hs : snapshot.Stripped) : (absorbIds order snapshot).Stripped := by
  unfold TrackedLifecycleOrder.Stripped absorbIds
  dsimp only
  constructor
  · split
    · exact hs.1
    · exact ho.1
  · split
    · exact hs.2
    · exact ho.2

/-- A snapshot with stripped ids leaves the order it is applied to with stripped ids. -/
theorem stripped_applyToOrder {uuid5 : Uuid5} {clock : Clock} {source : SnapshotSource}
    {order : TrackedLifecycleOrder} (ho : order.Stripped) (hs : snapshot.Stripped) :
    (applyToOrder uuid5 clock source order snapshot).1.Stripped := by
  have h := stripped_absorbIds ho hs
  cases he : emission order snapshot with
  | none =>
    rw [applyToOrder_of_none uuid5 clock source he]
    exact h
  | some e =>
    rw [applyToOrder_of_some uuid5 clock source he]
    exact h

/-- A tracked intent starts an order with stripped ids. -/
theorem stripped_of_intentOrder {envelope : Execution.IntentEnvelope}
    {order : TrackedLifecycleOrder} (h : intentOrder envelope = .ok (some order)) :
    order.Stripped := by
  obtain ⟨payload, quantity, -, -, hfrom⟩ := fromIntent_of_intentOrder h
  unfold TrackedLifecycleOrder.Stripped
  rw [hfrom.exchangeId_eq, hfrom.client_eq]
  exact ⟨isStripped_stripOrNone _, isStripped_stripOrNone _⟩

/-! ### The update -/

section

variable (uuid5 : Uuid5) (clock : Clock) (source : SnapshotSource)
  (order : TrackedLifecycleOrder) (status : LifecycleStatus) (quantity : ℚ)
  (averagePrice : Option ℚ) (feeDelta : ℚ)

/-- The fill a fill event of the worker brings. -/
def feedFill (now : String) : ReconciliationFill :=
  positionFillToReconciliationFill now
    { orderId := resolveOrderId uuid5 order
      mode := "REAL"
      symbol := order.symbol
      side := order.action.name
      quantity := |quantity|
      price := averagePrice.getD 0
      fee := if feeDelta > 0 then feeDelta else 0
      filledAt := some clock.stamp.text }

/-- The lifecycle event the OMS records. -/
def feedEvent (now : String) : QueueEvent :=
  ⟨{ eventType := status.eventType
     fill :=
      if status.isFill then
        some (feedFill uuid5 clock order quantity averagePrice feeDelta now)
      else none }, rfl⟩

/-- The update the OMS reads. -/
def feedUpdate (now : String) : OrderUpdate :=
  { orderId := resolveOrderId uuid5 order
    symbol := order.symbol
    mode := "REAL"
    requestedQuantity := quantity
    event := feedEvent uuid5 clock order status quantity averagePrice feeDelta now
    side := order.action.name
    filledAt := clock.stamp.text }

/-- The fill events of the worker are fills to the OMS, the others are not. -/
theorem toLifecycleEvent_lifecycleEnvelope (now : String) :
    toLifecycleEvent now (lifecycleEnvelope uuid5 clock source order status quantity averagePrice
      feeDelta) = .ok (feedEvent uuid5 clock order status quantity averagePrice feeDelta now) := by
  have hid : resolveOrderId uuid5 order ≠ "" := resolveOrderId_ne_empty uuid5 order
  unfold toLifecycleEvent feedEvent
  simp only [lifecycleEnvelope, Option.getD_some, LifecycleStatus.isFillEventType_eventType]
  cases hf : status.isFill with
  | false => rfl
  | true =>
    cases averagePrice <;>
      simp [hid, feedFill, NumField.toFloat, NumField.orElse, NumField.ofOption] <;> rfl

/-- Every event of the worker under a readable order id is an update to the OMS. -/
theorem readUpdate_of_readable (hid : strip (resolveOrderId uuid5 order) ≠ "")
    (hquantity : 0 < quantity) (now : String) :
    readUpdate now (lifecycleEnvelope uuid5 clock source order status quantity averagePrice
      feeDelta) =
        .ok (some
          { feedUpdate uuid5 clock order status quantity averagePrice feeDelta now with
            orderId := strip (resolveOrderId uuid5 order) }) := by
  have hnamed : ¬ (strip (resolveOrderId uuid5 order) = "" ∨ strip order.symbol = "") := by
    rw [order.named.1]
    exact not_or.mpr ⟨hid, order.named.2⟩
  have hside : upper order.action.name = order.action.name := by
    cases order.action <;> decide +kernel
  have hev := toLifecycleEvent_lifecycleEnvelope uuid5 clock source order status quantity
    averagePrice feeDelta now
  unfold readUpdate
  rw [hev]
  simp only [lifecycleEnvelope, Option.getD_some]
  rw [if_neg hnamed, resolveRequestedQuantity_of_pos hquantity]
  simp [feedUpdate, order.named.1, payloadMode, upper_strip_real, hside]
  rfl

/-- Every event of an order with stripped ids is an update to the OMS. -/
theorem readUpdate_lifecycleEnvelope (hstripped : order.Stripped) (hquantity : 0 < quantity)
    (now : String) :
    readUpdate now (lifecycleEnvelope uuid5 clock source order status quantity averagePrice
      feeDelta) =
        .ok (some (feedUpdate uuid5 clock order status quantity averagePrice feeDelta now)) := by
  have hid := strip_resolveOrderId uuid5 hstripped
  rw [readUpdate_of_readable uuid5 clock source order status quantity averagePrice feeDelta
    (hid.trans_ne (resolveOrderId_ne_empty uuid5 order)) hquantity, hid]
  rfl

end

end OpenTrader.Worker
