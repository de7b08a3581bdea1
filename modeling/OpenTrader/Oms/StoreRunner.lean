import OpenTrader.Oms.StateStore

/-!
# The OMS runner on the state store

Library `Oms`. `services/workers/oms_lifecycle.py:84-188` with a state store. The order is read, the
event is appended before the order is written, and the position is read back from the table it is
written to. Every statement commits on its own, so an exception leaves the earlier writes in place.
The activity record, which only reports what was written, is left out.
-/

namespace OpenTrader.Oms
open Base

/-- The engine does not ask when a position was last changed. -/
theorem applyFill_untimed {now : String} {p q : Option PositionState} {fill : PositionFill}
    (h : p.map (·.untimed) = q.map (·.untimed)) :
    (applyFill now p fill).toOption.map (·.current) =
      (applyFill now q fill).toOption.map (·.current) := by
  have hsame : ∀ r : Option PositionState,
      (applyFill now (r.map (·.untimed)) fill).toOption.map (·.current) =
        (applyFill now r fill).toOption.map (·.current) := by
    intro r
    cases r with
    | none => rfl
    | some r =>
      unfold applyFill
      cases signedQuantity fill with
      | error e => rfl
      | ok signed =>
        change ((validatePositionCompatibility r fill >>= fun _ =>
            pure (fillUpdate now r.untimed fill signed)).toOption.map _) =
          ((validatePositionCompatibility r fill >>= fun _ =>
            pure (fillUpdate now r fill signed)).toOption.map _)
        cases validatePositionCompatibility r fill with
        | error | ok => rfl
  rw [← hsame p, ← hsame q, h]

namespace Tables

variable (ids : StoreIds) (base : ℚ) (now : String) (t : Tables) (u : OrderUpdate)

/-- The order an update starts from; `oms_lifecycle.py:112-118`. -/
def existingOrder : ReconciliationOrder :=
  (t.getOrder ids u.orderId).getD
    { orderId := u.orderId, symbol := u.symbol, mode := u.mode,
      requestedQuantity := u.requestedQuantity }

/-- The event of an update is appended; `oms_lifecycle.py:124`. -/
def record : Tables := t.appendLifecycleEvent ids now u.orderId u.event.toLifecycleEvent

/-- The order written after reconciliation; `oms_lifecycle.py:132-140`. -/
def updatedOrder (result : FillReconciliationResult) : ReconciliationOrder :=
  { orderId := u.orderId
    symbol := u.symbol
    mode := u.mode
    requestedQuantity := (t.existingOrder ids u).requestedQuantity
    status := result.status
    filledQuantity := result.filledQuantity
    averagePrice := result.averagePrice }

/-- Booking of a fill; `oms_lifecycle.py:146-170`. -/
def bookFill : Except RunnerError Tables :=
  match u.positionFill with
  | none => .ok t
  | some fill =>
    match applyFill now (t.getPosition u.mode u.symbol) fill with
    | .error e => .error (.position e)
    | .ok update =>
      .ok ((t.upsertPosition ids update.current).upsertMarkPrice ids u.mode u.symbol fill.price)

/-- The snapshot part; `oms_lifecycle.py:175-188`. -/
def recordSnapshot : Tables × Except RunnerError Bool :=
  let positions := t.listPositions u.mode
  match buildSnapshot now u.mode base 0 positions (t.loadMarkPrices u.mode)
      (some (positions.map (·.realizedPnl)).sum) with
  | .error e => (t, .error (.snapshot e))
  | .ok snapshot => (t.insertPortfolioSnapshot snapshot, .ok true)

/-- The writing part of `run_once`; `oms_lifecycle.py:112-188`. -/
def writeUpdate : Tables × Except RunnerError Bool :=
  let recorded := t.record ids now u
  match reconcile (t.existingOrder ids u) (recorded.loadLifecycleEvents ids u.orderId) none with
  | .error e => (recorded, .error (.state e))
  | .ok result =>
    let reconciled := recorded.upsertOrder ids now (t.updatedOrder ids u result)
    match reconciled.bookFill ids now u with
    | .error e => (reconciled, .error e)
    | .ok booked => booked.recordSnapshot base now u

/-- `run_once` on a consumed envelope, with a state store. -/
def runOnce (envelope : OrderEnvelope) : Tables × Except RunnerError Bool :=
  match readUpdate now envelope with
  | .error e => (t, .error e)
  | .ok none => (t, .ok false)
  | .ok (some u) => t.writeUpdate ids base now u

/-- The tables after a delivery, whether the runner raises on it or not. -/
def receive (d : Delivery) : Tables := (t.runOnce ids base d.now d.envelope).1

/-! ### What a step writes -/

/-- The history of an order with the update appended. -/
def history : List LifecycleEvent := (t.record ids now u).loadLifecycleEvents ids u.orderId

/-- The order record an update leaves. -/
def reconciledOrder : ReconciliationOrder :=
  let order := t.existingOrder ids u
  let events := t.history ids now u
  t.updatedOrder ids u (conclude order none
    (pickStatus (order.status :: events.filterMap fun event => eventStatusMap event.eventType))
    (dedupeFills (queueFills order.orderId events)) false)

/-- The tables with the event and the order written. -/
def reconciled : Tables := (t.record ids now u).upsertOrder ids now (t.reconciledOrder ids now u)

/-- The position an update writes, if its fill is admitted. -/
def written : Option PositionState :=
  u.positionFill.bind fun fill =>
    (applyFill now (t.getPosition u.mode u.symbol) fill).toOption.map (·.current)

variable {ids base now t u}

private theorem reconcile_statusless (order : ReconciliationOrder) {events : List LifecycleEvent}
    (h : ∀ event ∈ events, event.status = none) :
    reconcile order events none = .ok (conclude order none
      (pickStatus (order.status :: events.filterMap fun event => eventStatusMap event.eventType))
      (dedupeFills (queueFills order.orderId events)) false) := by
  obtain ⟨queue, rfl⟩ : ∃ queue : List QueueEvent, events = queue.map (·.toLifecycleEvent) := by
    induction events with
    | nil => exact ⟨[], rfl⟩
    | cons event events ih =>
      obtain ⟨queue, rfl⟩ := ih fun e he => h e (List.mem_cons_of_mem event he)
      exact ⟨⟨event, h event List.mem_cons_self⟩ :: queue, rfl⟩
  rw [reconcile_queue, queueStatuses, List.filterMap_map]
  rfl

theorem sound_record (h : t.Sound ids) : (t.record ids now u).Sound ids :=
  sound_appendLifecycleEvent h u.orderId u.event

private theorem statusless_history (h : t.Sound ids) :
    ∀ event ∈ t.history ids now u, event.status = none := by
  intro event hev
  obtain ⟨row, hrow, rfl⟩ := List.mem_map.mp hev
  exact (sound_record h).statusless row (List.mem_of_mem_filter hrow)

theorem sound_reconciled (h : t.Sound ids) : (t.reconciled ids now u).Sound ids :=
  sound_upsertOrder (sound_record h) _

/-- Writing an update always reaches the position ledger. -/
theorem writeUpdate_eq (h : t.Sound ids) :
    t.writeUpdate ids base now u =
      match (t.reconciled ids now u).bookFill ids now u with
      | .error e => (t.reconciled ids now u, .error e)
      | .ok booked => booked.recordSnapshot base now u := by
  have hreconcile := reconcile_statusless (t.existingOrder ids u)
    (@statusless_history ids now t u h)
  unfold history at hreconcile
  unfold writeUpdate
  dsimp only
  rw [hreconcile]
  rfl

theorem recordSnapshot_fst : ∃ portfolioSnapshots,
    (t.recordSnapshot base now u).1 = { t with portfolioSnapshots } := by
  unfold recordSnapshot
  dsimp only
  split
  · exact ⟨t.portfolioSnapshots, rfl⟩
  · exact ⟨_, rfl⟩

private theorem reconciled_frame (h : t.Sound ids) :
    (t.reconciled ids now u).lifecycleEvents = (t.record ids now u).lifecycleEvents ∧
      (t.reconciled ids now u).fills = (t.record ids now u).fills ∧
      (t.reconciled ids now u).orders = t.orders.set (coerceUuid ids u.orderId)
        (orderRow ids now (symbolId ids (ids.upperCase (strip u.symbol)))
          (t.orders.get? (coerceUuid ids u.orderId)) (t.reconciledOrder ids now u)) := by
  obtain ⟨symbols, hfst⟩ :=
    @ensureSymbolRefs_fst ids (t.record ids now u) (t.reconciledOrder ids now u).symbol
  unfold reconciled upsertOrder
  dsimp only
  rw [ensureSymbolRefs_snd (sound_record h), hfst]
  exact ⟨rfl, rfl, rfl⟩

private theorem getPosition_reconciled (h : t.Sound ids) (mode symbol : String) :
    (t.reconciled ids now u).getPosition mode symbol = t.getPosition mode symbol := by
  rw [getPosition_eq (sound_reconciled h), getPosition_eq h]
  obtain ⟨symbols, hfst⟩ :=
    @ensureSymbolRefs_fst ids (t.record ids now u) (t.reconciledOrder ids now u).symbol
  have hpositions : (t.reconciled ids now u).positions = t.positions := by
    unfold reconciled upsertOrder
    dsimp only
    rw [hfst]
    rfl
  rw [hpositions]

/-- The tables a step leaves: the order part, and the position if one is written. Mark prices and
snapshots are written beside them. -/
theorem writeUpdate_fst (h : t.Sound ids) : ∃ markPrices portfolioSnapshots,
    (t.writeUpdate ids base now u).1 =
      { ((t.written now u).map ((t.reconciled ids now u).upsertPosition ids)).getD
          (t.reconciled ids now u) with markPrices, portfolioSnapshots } := by
  rw [writeUpdate_eq h, bookFill, written, getPosition_reconciled h]
  cases hf : u.positionFill with
  | none =>
    obtain ⟨snapshots, hsnapshot⟩ := @recordSnapshot_fst base now (t.reconciled ids now u) u
    exact ⟨(t.reconciled ids now u).markPrices, snapshots, hsnapshot⟩
  | some fill =>
    dsimp only
    rw [Option.bind_some]
    cases happly : applyFill now (t.getPosition u.mode u.symbol) fill with
    | error e => exact ⟨(t.reconciled ids now u).markPrices,
        (t.reconciled ids now u).portfolioSnapshots, rfl⟩
    | ok update =>
      obtain ⟨snapshots, hsnapshot⟩ := @recordSnapshot_fst base now
        (((t.reconciled ids now u).upsertPosition ids update.current).upsertMarkPrice ids u.mode
          u.symbol fill.price) u
      exact ⟨_, snapshots, hsnapshot⟩

/-- A written position is under the mode and the symbol of its update. -/
theorem written_eq_some {p : PositionState} (h : t.written now u = some p) :
    p.mode = u.mode ∧ p.symbol = u.symbol := by
  unfold written OrderUpdate.positionFill at h
  obtain ⟨fill, hf, happly⟩ := Option.bind_eq_some_iff.mp h
  obtain ⟨reported, -, rfl⟩ := Option.map_eq_some_iff.mp hf
  obtain ⟨update, hupdate, rfl⟩ := Option.map_eq_some_iff.mp happly
  obtain ⟨side, -, -, -, rfl⟩ :=
    (applyFill_eq_ok_iff _ _ _ _).mp (toOption_eq_some_iff.mp hupdate)
  exact ⟨rfl, rfl⟩

section

variable {d : Delivery}

/-- A delivery that holds no update leaves the tables as they are. -/
theorem receive_of_ne (h : ∀ u, readUpdate d.now d.envelope ≠ .ok (some u)) :
    t.receive ids base d = t := by
  unfold receive runOnce
  split
  · rfl
  · rfl
  · next u hu => exact absurd hu (h u)

theorem receive_of_update (hu : readUpdate d.now d.envelope = .ok (some u)) :
    t.receive ids base d = (t.writeUpdate ids base d.now u).1 := by
  rw [receive, runOnce, hu]

variable (h : t.Sound ids)
include h

theorem sound_receive : (t.receive ids base d).Sound ids := by
  by_cases hr : ∃ u, readUpdate d.now d.envelope = .ok (some u)
  · obtain ⟨u, hu⟩ := hr
    obtain ⟨marks, snapshots, hwritten⟩ := @writeUpdate_fst ids base d.now t u h
    have hsound : (((t.written d.now u).map ((t.reconciled ids d.now u).upsertPosition ids)).getD
        (t.reconciled ids d.now u)).Sound ids := by
      cases t.written d.now u with
      | none => exact sound_reconciled h
      | some p => exact sound_upsertPosition (sound_reconciled h) p
    rw [receive_of_update hu, hwritten]
    exact ⟨hsound.symbol, hsound.order, hsound.position, hsound.numbered, hsound.single,
      hsound.statusless⟩
  · rw [receive_of_ne fun u hu => hr ⟨u, hu⟩]
    exact h

variable (hu : readUpdate d.now d.envelope = .ok (some u))
include hu

/-- The order of the update is reconciled and the other orders stay as they are. -/
theorem getOrder_receive (orderId : String) :
    (t.receive ids base d).getOrder ids orderId =
      if coerceUuid ids u.orderId = coerceUuid ids orderId then
        some { (t.reconciledOrder ids d.now u).columns ids with
          orderId := coerceUuid ids orderId, symbol := ids.upperCase (strip u.symbol) }
      else t.getOrder ids orderId := by
  obtain ⟨marks, snapshots, hwritten⟩ := @writeUpdate_fst ids base d.now t u h
  rw [receive_of_update hu, hwritten]
  have hreconciled := @getOrder_upsertOrder ids d.now (t.record ids d.now u) (sound_record h)
    (t.reconciledOrder ids d.now u) orderId
  cases t.written d.now u with
  | none => exact hreconciled
  | some p => exact (getOrder_upsertPosition (sound_reconciled h) p orderId).trans hreconciled

/-- The event and the fill of the update are those that were recorded, and the row of its order is
written over the one before. -/
theorem receive_frame :
    (t.receive ids base d).lifecycleEvents = (t.record ids d.now u).lifecycleEvents ∧
      (t.receive ids base d).fills = (t.record ids d.now u).fills ∧
      (t.receive ids base d).orders = t.orders.set (coerceUuid ids u.orderId)
        (orderRow ids d.now (symbolId ids (ids.upperCase (strip u.symbol)))
          (t.orders.get? (coerceUuid ids u.orderId)) (t.reconciledOrder ids d.now u)) := by
  obtain ⟨marks, snapshots, hwritten⟩ := @writeUpdate_fst ids base d.now t u h
  have hreconciled := @reconciled_frame ids d.now t u h
  rw [receive_of_update hu, hwritten]
  cases t.written d.now u with
  | none => exact hreconciled
  | some p =>
    obtain ⟨symbols, positions, hframe⟩ :=
      @upsertPosition_frame ids (t.reconciled ids d.now u) p
    rw [Option.map_some, Option.getD_some, hframe]
    exact hreconciled

/-- The position that is written is read back under the upper-case text of the symbol, and the other
positions stay as they are. -/
theorem getPosition_receive (mode symbol : String) :
    ((t.receive ids base d).getPosition mode symbol).map (·.untimed) =
      if u.mode = mode ∧ ids.upperCase (strip u.symbol) = symbol then
        ((t.written d.now u).map fun p => { p.columns ids with symbol }.untimed).or
          ((t.getPosition mode symbol).map (·.untimed))
      else (t.getPosition mode symbol).map (·.untimed) := by
  obtain ⟨marks, snapshots, hwritten⟩ := @writeUpdate_fst ids base d.now t u h
  rw [receive_of_update hu, hwritten]
  cases hp : t.written d.now u with
  | none =>
    change ((t.reconciled ids d.now u).getPosition mode symbol).map _ = _
    rw [getPosition_reconciled h]
    simp
  | some p =>
    obtain ⟨hmode, hsym⟩ := written_eq_some hp
    change (((t.reconciled ids d.now u).upsertPosition ids p).getPosition mode symbol).map _ = _
    rw [getPosition_upsertPosition (sound_reconciled h), getPosition_reconciled h, hmode, hsym]
    simp

end

end Tables

end OpenTrader.Oms
