import OpenTrader.Base.Envelope
import OpenTrader.Oms.Book
import OpenTrader.Oms.Portfolio
import OpenTrader.Oms.Reconcile

/-!
# The OMS lifecycle runner

Library `Oms`. `services/workers/oms_lifecycle.py:20-205` without a state store. One
order-update envelope is recorded in the order ledger, booked in the position ledger when it
reports a fill, and followed by a portfolio snapshot. The ledgers are written one after the
other: an exception leaves the earlier writes in place.
-/

namespace OpenTrader.Oms
open Base

/-- Payload of an `oms.order.*` message, as the Go handler, the lifecycle worker and the
simulation engine publish it. Text entries hold `str(value)` and are `none` when missing. -/
structure OrderPayload where
  strategyId : Option String := none
  orderId : Option String := none
  exchangeOrderId : Option String := none
  clientOrderId : Option String := none
  exchange : Option String := none
  symbol : Option String := none
  mode : Option String := none
  action : Option String := none
  orderType : Option String := none
  timeInForce : Option String := none
  limitPrice : NumField := .absent
  triggerPrice : NumField := .absent
  reduceOnly : Option Bool := none
  quantity : NumField := .absent
  fillPrice : NumField := .absent
  price : NumField := .absent
  feePaid : NumField := .absent
  fee : NumField := .absent
  status : Option String := none
  source : Option String := none
  error : Option String := none
  triggeredLeg : Option Nat := none
  cancelledLeg : Option Nat := none
  reason : Option String := none
  deriving DecidableEq

/-- An `oms.order.*` message. -/
abbrev OrderEnvelope := Envelope OrderPayload

/-- What `run_once` raises. -/
inductive RunnerError where
  | quantityMissing
  | quantityNotPositive (quantity : ℚ)
  | invalidDecimal (raw : String)
  | invalidNumber (raw : String)
  | state (error : OmsStateTransitionError)
  | position (error : PositionEngineError)
  | snapshot (error : PortfolioSnapshotEngineError)
  deriving DecidableEq

/-- Message text of a runner error; numbers are rendered as rationals. -/
def RunnerError.message : RunnerError → String
  | .quantityMissing => "requested_quantity must be positive (got None)"
  | .quantityNotPositive quantity =>
    "requested_quantity must be positive (got " ++ toString quantity ++ ")"
  | .invalidDecimal _ => "[<class 'decimal.ConversionSyntax'>]"
  | .invalidNumber raw => "could not convert string to float: " ++ raw
  | .state error => error.message
  | .position error => error.message
  | .snapshot error => error.message

/-- `_last_activity`; `oms_lifecycle.py:190-204`. -/
structure Activity where
  event : String
  traceId : String
  decisionId : String
  orderId : String
  symbol : String
  mode : String
  orderStatus : OmsState
  filledQuantity : ℚ
  averagePrice : Option ℚ
  positionsTotal : Nat
  portfolioTotalBalanceUsd : ℚ
  portfolioUnrealizedPnl : ℚ
  portfolioRealizedPnlTotal : ℚ
  deriving DecidableEq

/-- State of the in-memory runner. -/
structure RunnerState where
  orders : Dict String ReconciliationOrder := Dict.empty
  lifecycleEvents : Dict String (List QueueEvent) := Dict.empty
  positions : PositionBook := PositionBook.empty
  markPrices : Dict String ℚ := Dict.empty
  lastActivity : Option Activity := none

/-- `_resolve_requested_quantity`; `services/workers/helpers.py:61-74`. -/
def resolveRequestedQuantity : NumField → Except RunnerError ℚ
  | .absent => .error .quantityMissing
  | .null => .error .quantityMissing
  | .num value => if |value| ≤ 0 then .error (.quantityNotPositive value) else .ok |value|
  | .invalid raw => .error (.invalidDecimal raw)

/-- A positive quantity is requested as it is. -/
theorem resolveRequestedQuantity_of_pos {quantity : ℚ} (h : 0 < quantity) :
    resolveRequestedQuantity (.num quantity) = .ok quantity := by
  rw [resolveRequestedQuantity, abs_of_pos h, if_neg (not_le.mpr h)]

/-- The event types that report a fill. -/
def isFillEventType (eventType : String) : Bool :=
  eventType == "oms.order.filled" || eventType == "oms.order.partially_filled"

/-- `_position_fill_to_reconciliation_fill`; `oms_lifecycle.py:49-59`. -/
def positionFillToReconciliationFill (now : String) (fill : PositionFill) : ReconciliationFill :=
  let filledAt := if truthy fill.filledAt then fill.filledAt.getD now else now
  { fillId := "fill:" ++ fill.orderId ++ ":" ++ filledAt
    orderId := fill.orderId
    quantity := |fill.quantity|
    price := fill.price
    fee := fill.fee
    source := "runtime_worker" }

/-- `_to_lifecycle_event`; `oms_lifecycle.py:20-46`. -/
def toLifecycleEvent (now : String) (envelope : OrderEnvelope) : Except RunnerError QueueEvent :=
  let eventType := envelope.eventType.getD ""
  match envelope.payload with
  | none => .ok ⟨{ eventType }, rfl⟩
  | some payload =>
    let orderId := payload.orderId.getD ""
    if !isFillEventType eventType || orderId == "" then .ok ⟨{ eventType }, rfl⟩
    else do
      let quantity ← payload.quantity.toFloat.mapError .invalidNumber
      let price ← (payload.fillPrice.orElse payload.price).toFloat.mapError .invalidNumber
      let fee ← (payload.feePaid.orElse payload.fee).toFloat.mapError .invalidNumber
      let fill : PositionFill :=
        { orderId
          mode := payload.mode.getD "MOCK"
          symbol := payload.symbol.getD ""
          side := payload.action.getD "BUY"
          quantity := |quantity|
          price
          fee
          filledAt := some (envelope.emittedAt.getD now) }
      return ⟨{ eventType, fill := some (positionFillToReconciliationFill now fill) }, rfl⟩

/-- Mode of a payload, `MOCK` by default; `oms_lifecycle.py:97`. -/
def payloadMode (payload : OrderPayload) : String :=
  let mode := upper (strip (payload.mode.getD "MOCK"))
  if mode = "" then "MOCK" else mode

theorem upper_strip_mock : upper (strip "MOCK") = "MOCK" := by decide +kernel

theorem upper_strip_real : upper (strip "REAL") = "REAL" := by decide +kernel

/-- What `run_once` reads from an envelope before it writes anything. -/
structure OrderUpdate where
  orderId : String
  symbol : String
  mode : String
  requestedQuantity : ℚ
  event : QueueEvent
  side : String
  filledAt : String
  deriving DecidableEq

/-- The reading part of `run_once`; `oms_lifecycle.py:92-101,119`. An envelope without an order id
or a symbol is skipped. -/
def readUpdate (now : String) (envelope : OrderEnvelope) :
    Except RunnerError (Option OrderUpdate) :=
  match envelope.payload with
  | none => .ok none
  | some payload =>
    let orderId := strip (payload.orderId.getD "")
    let symbol := strip (payload.symbol.getD "")
    if orderId = "" ∨ symbol = "" then .ok none
    else do
      let requestedQuantity ← resolveRequestedQuantity payload.quantity
      let event ← toLifecycleEvent now envelope
      return some
        { orderId
          symbol
          mode := payloadMode payload
          requestedQuantity
          event
          side := upper (payload.action.getD "BUY")
          filledAt := envelope.emittedAt.getD now }

/-- The fill `run_once` hands to the position engine; `oms_lifecycle.py:155-164`. -/
def OrderUpdate.toPositionFill (u : OrderUpdate) (fill : ReconciliationFill) : PositionFill :=
  { orderId := u.orderId
    mode := u.mode
    symbol := u.symbol
    side := u.side
    quantity := fill.quantity
    price := fill.price
    fee := fill.fee
    filledAt := some u.filledAt }

/-- The fill of an update whose event reports one. -/
def OrderUpdate.positionFill (u : OrderUpdate) : Option PositionFill :=
  u.event.toLifecycleEvent.fill.map u.toPositionFill

/-- The order an update starts from; `oms_lifecycle.py:102-111`. -/
def existingOrder (s : RunnerState) (u : OrderUpdate) : ReconciliationOrder :=
  (s.orders.get? u.orderId).getD
    { orderId := u.orderId, symbol := u.symbol, mode := u.mode,
      requestedQuantity := u.requestedQuantity }

/-- The history of an order with the update appended; `oms_lifecycle.py:120-122`. -/
def eventsForOrder (s : RunnerState) (u : OrderUpdate) : List QueueEvent :=
  (s.lifecycleEvents.get? u.orderId).getD [] ++ [u.event]

/-- The order written after reconciliation; `oms_lifecycle.py:132-140`. -/
def updatedOrder (s : RunnerState) (u : OrderUpdate) (result : FillReconciliationResult) :
    ReconciliationOrder :=
  { orderId := u.orderId
    symbol := u.symbol
    mode := u.mode
    requestedQuantity := (existingOrder s u).requestedQuantity
    status := result.status
    filledQuantity := result.filledQuantity
    averagePrice := result.averagePrice }

/-- Booking of a fill in the position ledger; `oms_lifecycle.py:146-168`. -/
def bookFill (now : String) (s : RunnerState) (u : OrderUpdate) : Except RunnerError RunnerState :=
  match u.positionFill with
  | none => .ok s
  | some fill =>
    match s.positions.apply now fill with
    | .error e => .error (.position e)
    | .ok positions =>
      .ok { s with positions, markPrices := s.markPrices.set u.symbol fill.price }

variable (baseBalanceUsd base : ℚ)

/-- The snapshot part of `run_once`; `oms_lifecycle.py:173-205`. -/
def recordSnapshot (now : String) (s : RunnerState) (envelope : OrderEnvelope) (u : OrderUpdate)
    (order : ReconciliationOrder) : RunnerState × Except RunnerError Bool :=
  let positions := s.positions.positions.values
  match buildSnapshot now u.mode baseBalanceUsd 0 positions s.markPrices
      (some (positions.map (·.realizedPnl)).sum) with
  | .error e => (s, .error (.snapshot e))
  | .ok snapshot =>
    let activity : Activity :=
      { event := envelope.eventType.getD ""
        traceId := envelope.traceId.getD ""
        decisionId := envelope.decisionId.getD ""
        orderId := u.orderId
        symbol := u.symbol
        mode := u.mode
        orderStatus := order.status
        filledQuantity := order.filledQuantity
        averagePrice := order.averagePrice
        positionsTotal := positions.length
        portfolioTotalBalanceUsd := snapshot.totalBalanceUsd
        portfolioUnrealizedPnl := snapshot.unrealizedPnl
        portfolioRealizedPnlTotal := snapshot.realizedPnlTotal }
    ({ s with lastActivity := some activity }, .ok true)

/-- The writing part of `run_once`; `oms_lifecycle.py:120-205`. -/
def writeUpdate (now : String) (s : RunnerState) (envelope : OrderEnvelope) (u : OrderUpdate) :
    RunnerState × Except RunnerError Bool :=
  let events := eventsForOrder s u
  let recorded := { s with lifecycleEvents := s.lifecycleEvents.set u.orderId events }
  match reconcile (existingOrder s u) (events.map (·.toLifecycleEvent)) none with
  | .error e => (recorded, .error (.state e))
  | .ok result =>
    let order := updatedOrder s u result
    let reconciled := { recorded with orders := recorded.orders.set u.orderId order }
    match bookFill now reconciled u with
    | .error e => (reconciled, .error e)
    | .ok booked => recordSnapshot baseBalanceUsd now booked envelope u order

/-- `OMSLifecycleWorkerRunner.run_once` on a consumed envelope; `oms_lifecycle.py:84-205`. -/
def runOnce (now : String) (s : RunnerState) (envelope : OrderEnvelope) :
    RunnerState × Except RunnerError Bool :=
  match readUpdate now envelope with
  | .error e => (s, .error e)
  | .ok none => (s, .ok false)
  | .ok (some u) => writeUpdate baseBalanceUsd now s envelope u

/-- An envelope holds an update, or the runner skips or refuses it and stays where it is. -/
theorem readUpdate_cases (now : String) (envelope : OrderEnvelope) :
    (∃ u, readUpdate now envelope = .ok (some u)) ∨
      (∀ u, readUpdate now envelope ≠ .ok (some u)) ∧
        ∃ result : Except RunnerError Bool, result.toOption ≠ some true ∧
          ∀ s, runOnce base now s envelope = (s, result) := by
  unfold runOnce
  cases readUpdate now envelope with
  | error e => exact .inr ⟨by simp, .error e, by simp [Except.toOption], fun _ => rfl⟩
  | ok update =>
    cases update with
    | none => exact .inr ⟨by simp, .ok false, by simp [Except.toOption], fun _ => rfl⟩
    | some u => exact .inl ⟨u, rfl⟩

/-- One envelope handed to the runner, with the clock text of the moment. -/
structure Delivery where
  now : String
  envelope : OrderEnvelope

/-- The state after a delivery, whether the runner raises on it or not. -/
def receive (s : RunnerState) (d : Delivery) : RunnerState :=
  (runOnce base d.now s d.envelope).1

/-- A `filled` message in mode `MOCK`. -/
def filledEnvelope (orderId emittedAt action : String) (quantity price : ℚ) : OrderEnvelope :=
  { traceId := none, decisionId := none, mode := none, idempotencyKey := none
    eventType := some "oms.order.filled"
    emittedAt := some emittedAt
    payload := some { orderId := some orderId, symbol := some "BTC/USDT", mode := some "MOCK",
                      action := some action, quantity := .num quantity,
                      fillPrice := .num price } }

variable {now : String} {envelope : OrderEnvelope} {u : OrderUpdate}

/-- What an update that is read says about its envelope. -/
theorem readUpdate_eq_some (h : readUpdate now envelope = .ok (some u)) :
    ∃ payload, envelope.payload = some payload ∧
      (u.orderId = strip (payload.orderId.getD "") ∧ u.orderId ≠ "") ∧
      (u.symbol = strip (payload.symbol.getD "") ∧ u.symbol ≠ "") ∧
      u.mode = payloadMode payload ∧
      resolveRequestedQuantity payload.quantity = .ok u.requestedQuantity ∧
      toLifecycleEvent now envelope = .ok u.event ∧
      u.side = upper (payload.action.getD "BUY") ∧
      u.filledAt = envelope.emittedAt.getD now := by
  unfold readUpdate at h
  split at h
  · cases h
  · next payload hbody =>
    dsimp only at h
    split at h
    · cases h
    · next hblank =>
      obtain ⟨ho, hsym⟩ := not_or.mp hblank
      cases hq : resolveRequestedQuantity payload.quantity with
      | error e => rw [hq] at h; cases h
      | ok quantity =>
        cases he : toLifecycleEvent now envelope with
        | error e => rw [hq, he] at h; cases h
        | ok event =>
          rw [hq, he] at h
          cases h
          refine ⟨payload, hbody, ?_⟩
          dsimp only
          exact ⟨⟨rfl, ho⟩, ⟨rfl, hsym⟩, rfl, hq, rfl, rfl, rfl⟩

/-! ### What a step writes -/

/-- The order record an update leaves: its queue events always reconcile. -/
def reconciledOrder (s : RunnerState) (u : OrderUpdate) : ReconciliationOrder :=
  let events := eventsForOrder s u
  let order := existingOrder s u
  updatedOrder s u (conclude order none (pickStatus (order.status :: queueStatuses events))
    (dedupeFills (queueFills order.orderId (events.map (·.toLifecycleEvent)))) false)

/-- The state with the order ledger written. -/
def reconciledState (s : RunnerState) (u : OrderUpdate) : RunnerState :=
  { s with
    lifecycleEvents := s.lifecycleEvents.set u.orderId (eventsForOrder s u)
    orders := s.orders.set u.orderId (reconciledOrder s u) }

/-- Writing an update always reaches the position ledger. -/
theorem writeUpdate_eq (now : String) (s : RunnerState) (envelope : OrderEnvelope)
    (u : OrderUpdate) :
    writeUpdate base now s envelope u =
      match bookFill now (reconciledState s u) u with
      | .error e => (reconciledState s u, .error e)
      | .ok booked => recordSnapshot base now booked envelope u (reconciledOrder s u) := by
  rw [writeUpdate, reconcile_queue]
  rfl

/-- The snapshot part writes nothing but the activity record. -/
theorem recordSnapshot_fst (base : ℚ) (now : String) (s : RunnerState) (envelope : OrderEnvelope)
    (u : OrderUpdate) (order : ReconciliationOrder) :
    ∃ activity, (recordSnapshot base now s envelope u order).1 =
      { s with lastActivity := activity } := by
  unfold recordSnapshot
  dsimp only
  split
  · exact ⟨s.lastActivity, rfl⟩
  · exact ⟨_, rfl⟩

/-- The fill an envelope brings to the position ledger, if any. -/
def ledgerFill (now : String) (envelope : OrderEnvelope) : Option PositionFill :=
  match readUpdate now envelope with
  | .ok (some u) => u.positionFill
  | _ => none

/-- Only fill messages bring a fill. -/
theorem ledgerFill_eq_none (h : isFillEventType (envelope.eventType.getD "") = false) :
    ledgerFill now envelope = none := by
  unfold ledgerFill
  split
  · next u hu =>
    obtain ⟨payload, hbody, -, -, -, -, hev, -, -⟩ := readUpdate_eq_some hu
    rw [toLifecycleEvent, hbody] at hev
    dsimp only at hev
    rw [h, Bool.not_false, Bool.true_or, if_pos rfl] at hev
    rw [OrderUpdate.positionFill, ← Except.ok.inj hev, Option.map_none]
  · rfl

/-- A fill message with readable ids and numbers brings its quantity at its price. -/
theorem ledgerFill_of_fill {now : String} {envelope : OrderEnvelope} {payload : OrderPayload}
    {quantity price fee : ℚ} (hpayload : envelope.payload = some payload)
    (htype : isFillEventType (envelope.eventType.getD ""))
    (hid : strip (payload.orderId.getD "") ≠ "") (hsymbol : strip (payload.symbol.getD "") ≠ "")
    (hquantity : payload.quantity = .num quantity) (hnonzero : quantity ≠ 0)
    (hprice : (payload.fillPrice.orElse payload.price).toFloat = .ok price)
    (hfee : (payload.feePaid.orElse payload.fee).toFloat = .ok fee) :
    ∃ fill ∈ ledgerFill now envelope, fill.symbol = strip (payload.symbol.getD "") ∧
      fill.mode = payloadMode payload ∧ fill.side = upper (payload.action.getD "BUY") ∧
      fill.quantity = |quantity| ∧ fill.price = price ∧ fill.fee = fee := by
  have hraw : payload.orderId.getD "" ≠ "" := by
    intro hraw
    rw [hraw] at hid
    exact hid (by decide +kernel)
  have hreq : resolveRequestedQuantity (.num quantity) = .ok |quantity| := by
    rw [resolveRequestedQuantity, if_neg (not_le.mpr (abs_pos.mpr hnonzero))]
  have hev : toLifecycleEvent now envelope = .ok ⟨{
      eventType := envelope.eventType.getD ""
      fill := some (positionFillToReconciliationFill now
        { orderId := payload.orderId.getD "", mode := payload.mode.getD "MOCK",
          symbol := payload.symbol.getD "", side := payload.action.getD "BUY",
          quantity := |quantity|, price, fee,
          filledAt := some (envelope.emittedAt.getD now) }) }, rfl⟩ := by
    have hnum : (NumField.num quantity).toFloat = .ok quantity := rfl
    rw [toLifecycleEvent, hpayload]
    simp [htype, hraw, hquantity, hnum, hprice, hfee]
    rfl
  unfold ledgerFill readUpdate
  rw [hpayload]
  dsimp only
  rw [if_neg (not_or.mpr ⟨hid, hsymbol⟩), hquantity, hreq, hev]
  refine ⟨_, rfl, rfl, rfl, rfl, ?_, rfl, rfl⟩
  simp [OrderUpdate.toPositionFill, positionFillToReconciliationFill]

/-- The mark prices after a fill; a refused fill leaves them as they are. -/
def bookMarkPrice (now : String) (s : RunnerState) (fill : PositionFill) : Dict String ℚ :=
  match s.positions.apply now fill with
  | .error _ => s.markPrices
  | .ok _ => s.markPrices.set fill.symbol fill.price

/-- The state with all ledgers written, a refused fill left out. -/
def bookedState (now : String) (s : RunnerState) (u : OrderUpdate) : RunnerState :=
  { reconciledState s u with
    positions := (u.positionFill.map (s.positions.book now)).getD s.positions
    markPrices := (u.positionFill.map (bookMarkPrice now s)).getD s.markPrices }

variable {fill : PositionFill}

private theorem positionFill_symbol (h : u.positionFill = some fill) : fill.symbol = u.symbol := by
  obtain ⟨f, -, rfl⟩ := Option.map_eq_some_iff.mp h
  rfl

/-- Whatever a step returns, the ledgers it leaves are those of `bookedState`. -/
theorem writeUpdate_fst (base : ℚ) (now : String) (s : RunnerState) (envelope : OrderEnvelope)
    (u : OrderUpdate) :
    ∃ activity, (writeUpdate base now s envelope u).1 =
      { bookedState now s u with lastActivity := activity } := by
  rw [writeUpdate_eq]
  unfold bookFill
  cases hf : u.positionFill with
  | none =>
    obtain ⟨activity, h⟩ :=
      recordSnapshot_fst base now (reconciledState s u) envelope u (reconciledOrder s u)
    exact ⟨activity, by simp only [h, bookedState, hf]; rfl⟩
  | some fill =>
    have hsym := positionFill_symbol hf
    have hkeep : (reconciledState s u).positions = s.positions := rfl
    dsimp only
    rw [hkeep]
    cases ha : s.positions.apply now fill with
    | error e =>
      refine ⟨s.lastActivity, ?_⟩
      simp only [bookedState, hf, Option.map_some, Option.getD_some, PositionBook.book,
        bookMarkPrice, ha]
      rfl
    | ok positions =>
      obtain ⟨activity, h⟩ := recordSnapshot_fst base now
        { reconciledState s u with
          positions
          markPrices := s.markPrices.set u.symbol fill.price } envelope u (reconciledOrder s u)
      refine ⟨activity, h.trans ?_⟩
      simp only [bookedState, hf, Option.map_some, Option.getD_some, PositionBook.book,
        bookMarkPrice, hsym, ha]

/-- Positions and mark prices move by the envelope's fill alone, whatever the step returns. -/
theorem runOnce_ledgers (now : String) (s : RunnerState) (envelope : OrderEnvelope) :
    (runOnce base now s envelope).1.positions =
        ((ledgerFill now envelope).map (s.positions.book now)).getD s.positions ∧
      (runOnce base now s envelope).1.markPrices =
        ((ledgerFill now envelope).map (bookMarkPrice now s)).getD s.markPrices := by
  unfold runOnce ledgerFill
  split
  · next h => simp [h]
  · next h => simp [h]
  · next u h =>
    obtain ⟨activity, hu⟩ := writeUpdate_fst base now s envelope u
    rw [hu, h]
    exact ⟨rfl, rfl⟩

variable {s : RunnerState}

/-- An envelope without a fill leaves positions and prices alone. -/
theorem runOnce_ledgers_of_no_fill (hfill : ledgerFill now envelope = none) :
    (runOnce base now s envelope).1.positions = s.positions ∧
      (runOnce base now s envelope).1.markPrices = s.markPrices := by
  obtain ⟨hpositions, hmarks⟩ := runOnce_ledgers base now s envelope
  rw [hpositions, hmarks, hfill]
  exact ⟨rfl, rfl⟩

/-- A fill that the book takes is booked and marks its symbol. -/
theorem runOnce_ledgers_of_apply {book : PositionBook} (hfill : ledgerFill now envelope = some fill)
    (hbook : s.positions.apply now fill = .ok book) :
    (runOnce base now s envelope).1.positions = book ∧
      (runOnce base now s envelope).1.markPrices = s.markPrices.set fill.symbol fill.price := by
  obtain ⟨hpositions, hmarks⟩ := runOnce_ledgers base now s envelope
  simp only [hpositions, hmarks, hfill, Option.map_some, Option.getD_some, PositionBook.book,
    bookMarkPrice, hbook, and_self]

/-- A fill without a signed quantity leaves positions and prices alone. -/
theorem runOnce_ledgers_of_refused {error : PositionEngineError}
    (hfill : ledgerFill now envelope = some fill) (hsigned : signedQuantity fill = .error error) :
    (runOnce base now s envelope).1.positions = s.positions ∧
      (runOnce base now s envelope).1.markPrices = s.markPrices := by
  obtain ⟨hpositions, hmarks⟩ := runOnce_ledgers base now s envelope
  rw [hpositions, hmarks, hfill, Option.map_some, Option.map_some, PositionBook.book, bookMarkPrice]
  cases hbook : s.positions.apply now fill with
  | error e => exact ⟨rfl, rfl⟩
  | ok book =>
    obtain ⟨⟨signed, hok⟩, -⟩ := (PositionBook.apply_isOk_iff _ _ _).mp ⟨book, hbook⟩
    rw [hsigned] at hok
    cases hok

/-- A fill of known side in the mode of the position it meets is booked. -/
theorem runOnce_positions_of_booked {signed : ℚ} (hfill : ledgerFill now envelope = some fill)
    (hsigned : signedQuantity fill = .ok signed)
    (hmode : ∀ p ∈ s.positions.get? fill.symbol, p.mode = fill.mode) :
    s.positions.apply now fill = .ok (runOnce base now s envelope).1.positions := by
  obtain ⟨book, hbook⟩ :=
    (PositionBook.apply_isOk_iff now s.positions fill).mpr ⟨⟨_, hsigned⟩, hmode⟩
  rw [(runOnce_ledgers_of_apply base hfill hbook).1, hbook]

/-! ### What a step returns -/

/-- Totals of the portfolio an activity record reports. -/
def Activity.totals (a : Activity) : ℚ × ℚ × ℚ :=
  (a.portfolioTotalBalanceUsd, a.portfolioUnrealizedPnl, a.portfolioRealizedPnlTotal)

/-- Totals of the portfolio a runner holds. -/
def bookTotals (s : RunnerState) : ℚ × ℚ × ℚ :=
  let unrealized := (s.positions.positions.values.map (markedPnl s.markPrices)).sum
  (base + unrealized, unrealized, (s.positions.positions.values.map (·.realizedPnl)).sum)

variable {base} {processed : Bool}

private theorem bookFill_ok {booked : RunnerState}
    (h : bookFill now (reconciledState s u) u = .ok booked) :
    ∀ fill ∈ u.positionFill, ∃ b, s.positions.apply now fill = .ok b := by
  intro fill hf
  unfold bookFill at h
  rw [Option.mem_def.mp hf] at h
  dsimp only at h
  split at h
  · cases h
  · next b hb => exact ⟨b, hb⟩

private theorem recordSnapshot_ok {order : ReconciliationOrder}
    (h : (recordSnapshot base now s envelope u order).2 = .ok processed) :
    processed = true ∧
      (recordSnapshot base now s envelope u order).1.lastActivity.map (·.totals) =
        some (bookTotals base (recordSnapshot base now s envelope u order).1) := by
  unfold recordSnapshot at *
  dsimp only at *
  split at h
  · cases h
  · next snapshot hs =>
    cases h
    obtain ⟨htotal, hunrealized, hrealized⟩ := buildSnapshot_pnl hs
    refine ⟨rfl, ?_⟩
    rw [Option.map_some, Activity.totals, bookTotals]
    simp only [htotal, hunrealized, hrealized, add_zero, Option.getD_some]

/-- An update written without raising was booked, and the totals reported are those held. -/
theorem writeUpdate_ok (h : (writeUpdate base now s envelope u).2 = .ok processed) :
    processed = true ∧ (∀ fill ∈ u.positionFill, ∃ b, s.positions.apply now fill = .ok b) ∧
      (writeUpdate base now s envelope u).1.lastActivity.map (·.totals) =
        some (bookTotals base (writeUpdate base now s envelope u).1) := by
  rw [writeUpdate_eq] at *
  cases hb : bookFill now (reconciledState s u) u with
  | error e =>
    rw [hb] at h
    cases h
  | ok booked =>
    rw [hb] at h
    obtain ⟨htrue, htotals⟩ := recordSnapshot_ok h
    exact ⟨htrue, bookFill_ok hb, htotals⟩

/-- What the step returns without raising: either it skipped the envelope, or the book took
its fill and the totals reported are those held. -/
theorem runOnce_ok (h : (runOnce base now s envelope).2 = .ok processed) :
    ((runOnce base now s envelope).1 = s ∧ ledgerFill now envelope = none) ∨
      (∀ fill ∈ ledgerFill now envelope, ∃ b, s.positions.apply now fill = .ok b) ∧
        (runOnce base now s envelope).1.lastActivity.map (·.totals) =
          some (bookTotals base (runOnce base now s envelope).1) := by
  unfold runOnce ledgerFill at *
  split at h
  · cases h
  · next hu => exact .inl (by simp only [hu]; exact ⟨trivial, trivial⟩)
  · next u hu =>
    simp only [hu]
    exact .inr (writeUpdate_ok h).2

end OpenTrader.Oms
