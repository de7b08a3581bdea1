import OpenTrader.Execution.Intent
import OpenTrader.Oms.Runner

/-!
# Simulated execution

Library `Simulation`. `services/simulation_execution/engine.py:11-387`. An intent in MOCK mode is
executed at once: the engine fills it at a reference price with slippage and fee, keeps it waiting
for its trigger, or ignores it, and reports what it did as order events.
-/

namespace OpenTrader.Simulation
open Base Oms Execution

/-- What `execute_intent` raises. -/
inductive SimulationError where
  | envelope (error : EnvelopeValidationError)
  | execution (message : String)
  | invalidNumber (raw : String)
  deriving DecidableEq

/-- `SimulationExecutionEngine`: slippage and fee, never negative. -/
structure Engine where
  slippageBps : ℚ := 3
  feeBps : ℚ := 5
  nonneg : 0 ≤ slippageBps ∧ 0 ≤ feeBps := by decide +kernel

/-- Status texts of a result. -/
inductive SimulationStatus where
  | ignored
  | submitted
  | filled
  deriving DecidableEq

/-- Text of a status. -/
def SimulationStatus.name : SimulationStatus → String
  | .ignored => "IGNORED"
  | .submitted => "SUBMITTED"
  | .filled => "FILLED"

/-- `SimulationExecutionResult`. -/
structure SimulationExecutionResult where
  orderId : String
  status : SimulationStatus
  action : String
  symbol : String
  quantity : ℚ
  fillPrice : ℚ := 0
  feePaid : ℚ := 0
  events : List OrderEnvelope
  deriving DecidableEq

/-- `float(value)` of an entry unless it is missing or `None`. -/
def optionalNumber : NumField → Except SimulationError (Option ℚ)
  | .num value => .ok (some value)
  | .invalid raw => .error (.invalidNumber raw)
  | .absent | .null => .ok none

/-- The first positive value of some entries. -/
def firstPositive : List NumField → Except SimulationError (Option ℚ)
  | [] => .ok none
  | field :: fields => do
    match ← optionalNumber field with
    | none => firstPositive fields
    | some value => if value > 0 then return some value else firstPositive fields

/-- `_reference_price`; `engine.py:174-190`. -/
def referencePrice (payload : IntentPayload) : Except SimulationError ℚ := do
  match ← firstPositive
      [payload.midPrice, payload.limitPrice, payload.price, payload.referencePrice] with
  | some price => return price
  | none => .error (.execution "unable to determine positive reference price")

/-- `_check_trigger`; `engine.py:192-211`. -/
def checkTrigger (orderType action : String) (referencePrice triggerPrice : ℚ) : Bool :=
  if orderType = "STOP_MARKET" then
    if action = "BUY" then referencePrice ≥ triggerPrice else referencePrice ≤ triggerPrice
  else if orderType = "TAKE_PROFIT_MARKET" then
    if action = "SELL" then referencePrice ≥ triggerPrice else referencePrice ≤ triggerPrice
  else false

/-- `_apply_slippage`; `engine.py:356-360`. -/
def applySlippage (engine : Engine) (referencePrice : ℚ) (action : String) : ℚ :=
  let slipRatio := engine.slippageBps / 10000
  if action = "BUY" then referencePrice * (1 + slipRatio) else referencePrice * (1 - slipRatio)

/-- `_order_id`; `engine.py:362-365`. -/
def simulatedOrderId (uuid5 : Uuid5) (envelope : IntentEnvelope) : String :=
  uuid5.text ("sim-order:" ++ envelope.idempotencyKey.getD "")

/-- An event that answers an intent. -/
def orderEvent (now : UtcStamp) (envelope : IntentEnvelope) (eventType idempotencySuffix : String)
    (payload : OrderPayload) : OrderEnvelope :=
  { traceId := envelope.traceId
    decisionId := envelope.decisionId
    mode := envelope.mode
    idempotencyKey := some (envelope.idempotencyKey.getD "" ++ ":" ++ idempotencySuffix)
    eventType := some eventType
    emittedAt := some now.text
    payload := some payload
    service := some "simulation_execution" }

/-- `_build_event`; `engine.py:367-387`. -/
def buildEvent (now : UtcStamp) (envelope : IntentEnvelope) (eventType idempotencySuffix : String)
    (payload : OrderPayload) : Except SimulationError OrderEnvelope := do
  let event := orderEvent now envelope eventType idempotencySuffix payload
  (validateEnvelope event).mapError .envelope
  return event

/-- What the engine reads from an intent before it executes it. -/
structure SimulatedOrder where
  orderId : String
  action : String
  symbol : String
  quantity : ℚ
  orderType : String
  mode : String
  deriving DecidableEq

/-- The payload entries all events of an order share. -/
def SimulatedOrder.payload (order : SimulatedOrder) (status : String) : OrderPayload :=
  { orderId := some order.orderId
    action := some order.action
    symbol := some order.symbol
    quantity := .num order.quantity
    orderType := some order.orderType
    mode := some order.mode
    status := some status }

/-- An ignored order; `engine.py:55-77`. -/
def ignore (now : UtcStamp) (envelope : IntentEnvelope) (order : SimulatedOrder) :
    Except SimulationError SimulationExecutionResult := do
  let ignored ← buildEvent now envelope "oms.order.ignored" "ignored"
    { order.payload "IGNORED" with orderType := none, mode := none }
  return ⟨order.orderId, .ignored, order.action, order.symbol, order.quantity, 0, 0, [ignored]⟩

/-- An order that waits for its trigger; `engine.py:95-121,259-284`. -/
def submit (now : UtcStamp) (envelope : IntentEnvelope) (order : SimulatedOrder)
    (triggerPrice : NumField) : Except SimulationError SimulationExecutionResult := do
  let created ← buildEvent now envelope "oms.order.created" "created"
    { order.payload "SUBMITTED" with triggerPrice }
  return ⟨order.orderId, .submitted, order.action, order.symbol, order.quantity, 0, 0, [created]⟩

/-- A filled order, with the events of a triggered leg if it is one of two;
`engine.py:129-172,286-354`. -/
def fill (engine : Engine) (now : UtcStamp) (envelope : IntentEnvelope) (order : SimulatedOrder)
    (fillPrice : ℚ) (triggeredLeg : Option ℕ) :
    Except SimulationError SimulationExecutionResult := do
  let feePaid := order.quantity * fillPrice * (engine.feeBps / 10000)
  let created ← buildEvent now envelope "oms.order.created" "created"
    { order.payload "OPEN" with triggeredLeg }
  let filled ← buildEvent now envelope "oms.order.filled" "filled"
    { order.payload "FILLED" with
      triggeredLeg
      fillPrice := .num fillPrice
      feePaid := .num feePaid }
  let cancelled ←
    match triggeredLeg with
    | none => .ok []
    | some leg => do
      let event ← buildEvent now envelope "oms.order.cancelled" "cancelled"
        { order.payload "CANCELLED" with
          quantity := .absent
          cancelledLeg := some (1 - leg)
          reason := some "oco_other_leg_filled" }
      .ok [event]
  return ⟨order.orderId, .filled, order.action, order.symbol, order.quantity, fillPrice, feePaid,
    [created, filled] ++ cancelled⟩

/-- The price a triggered leg fills at: its limit, or the reference price with slippage. -/
inductive LegPrice where
  | limit (price : ℚ)
  | market
  deriving DecidableEq

/-- The first leg that triggers; legs after it are not looked at. `engine.py:226-257`. -/
def triggeredLeg (action : String) (referencePrice : ℚ) :
    ℕ → List (Option OcoLeg) → Except SimulationError (Option (ℕ × LegPrice))
  | _, [] => .ok none
  | i, none :: _ => .error (.execution ("OCO leg " ++ toString i ++ " must be a mapping"))
  | i, some leg :: legs =>
    let legType := upper (leg.orderType.getD "")
    if legType = "LIMIT" then do
      match ← optionalNumber leg.limitPrice with
      | none => .error (.execution ("OCO LIMIT leg " ++ toString i ++ " requires limit_price"))
      | some limitPrice =>
        if (action = "BUY" ∧ referencePrice ≤ limitPrice) ∨
            (action = "SELL" ∧ referencePrice ≥ limitPrice) then
          return some (i, .limit limitPrice)
        else triggeredLeg action referencePrice (i + 1) legs
    else if legType = "STOP_MARKET" ∨ legType = "TAKE_PROFIT_MARKET" then do
      match ← optionalNumber leg.triggerPrice with
      | none =>
        .error (.execution
          ("OCO " ++ legType ++ " leg " ++ toString i ++ " requires trigger_price"))
      | some triggerPrice =>
        if checkTrigger legType action referencePrice triggerPrice then return some (i, .market)
        else triggeredLeg action referencePrice (i + 1) legs
    else triggeredLeg action referencePrice (i + 1) legs

/-- `_execute_oco`; `engine.py:213-354`. -/
def executeOco (engine : Engine) (now : UtcStamp) (envelope : IntentEnvelope)
    (payload : IntentPayload) (order : SimulatedOrder) :
    Except SimulationError SimulationExecutionResult :=
  match payload.ocoLegs with
  | some [first, second] => do
    let price ← referencePrice payload
    match ← triggeredLeg order.action price 0 [first, second] with
    | none => submit now envelope order .absent
    | some (leg, .limit limitPrice) => fill engine now envelope order limitPrice (some leg)
    | some (leg, .market) =>
      fill engine now envelope order (applySlippage engine price order.action) (some leg)
  | _ => .error (.execution "OCO order requires exactly 2 oco_legs")

/-- The trigger of a STOP_MARKET or TAKE_PROFIT_MARKET order, which must be positive. -/
def requiredTrigger (payload : IntentPayload) : Except SimulationError ℚ := do
  match ← optionalNumber payload.triggerPrice with
  | some trigger =>
    if trigger ≤ 0 then
      .error (.execution "trigger_price must be positive for STOP_MARKET and TAKE_PROFIT_MARKET")
    else return trigger
  | none =>
    .error (.execution "trigger_price must be positive for STOP_MARKET and TAKE_PROFIT_MARKET")

/-- The order the engine reads from an accepted envelope; `engine.py:35-54`. -/
def readOrder (uuid5 : Uuid5) (envelope : IntentEnvelope) (payload : IntentPayload) :
    Except SimulationError SimulatedOrder := do
  let action := upper (payload.action.getD "")
  let symbol := strip (payload.symbol.getD "")
  let quantity ← payload.quantity.toFloat.mapError .invalidNumber
  let orderType := upper (payload.orderType.getD "MARKET")
  if symbol = "" then .error (.execution "execution intent must include symbol")
  else if action ∉ ["BUY", "SELL", "HOLD", "CLOSE"] then
    .error (.execution ("unsupported action: " ++ action))
  else if orderType ∉ ["MARKET", "LIMIT", "STOP_MARKET", "TAKE_PROFIT_MARKET", "OCO"] then
    .error (.execution ("unsupported order_type: " ++ orderType))
  else return { orderId := simulatedOrderId uuid5 envelope, action, symbol, quantity := |quantity|,
                orderType, mode := upper (envelope.mode.getD "") }

/-- Execution of an order that was read; `engine.py:55-172`. -/
def executeOrder (engine : Engine) (now : UtcStamp) (envelope : IntentEnvelope)
    (payload : IntentPayload) (order : SimulatedOrder) :
    Except SimulationError SimulationExecutionResult := do
  if order.action = "HOLD" ∨ order.quantity ≤ 0 then ignore now envelope order
  else
    let price ← referencePrice payload
    if order.orderType = "STOP_MARKET" ∨ order.orderType = "TAKE_PROFIT_MARKET" then
      let trigger ← requiredTrigger payload
      if checkTrigger order.orderType order.action price trigger then
        fill engine now envelope order (applySlippage engine price order.action) none
      else submit now envelope order (.num trigger)
    else if order.orderType = "OCO" then executeOco engine now envelope payload order
    else fill engine now envelope order (applySlippage engine price order.action) none

/-- `SimulationExecutionEngine.execute_intent`; `engine.py:32-172`. -/
def executeIntent (engine : Engine) (uuid5 : Uuid5) (now : UtcStamp) (envelope : IntentEnvelope) :
    Except SimulationError SimulationExecutionResult := do
  (validateEnvelope envelope).mapError .envelope
  if upper (envelope.mode.getD "") ≠ "MOCK" then
    .error (.execution "SimulationExecutionEngine accepts MOCK mode only")
  else
    let payload := envelope.payload.getD {}
    let order ← readOrder uuid5 envelope payload
    executeOrder engine now envelope payload order

/-! ### What an intent is read as -/

section

variable {engine : Engine} {uuid5 : Uuid5} {now : UtcStamp} {envelope : IntentEnvelope}
  {payload : IntentPayload} {order : SimulatedOrder} {result : SimulationExecutionResult}

/-- What an order was read from. -/
theorem readOrder_eq_ok_iff :
    readOrder uuid5 envelope payload = .ok order ↔
      strip (payload.symbol.getD "") ≠ "" ∧
      upper (payload.action.getD "") ∈ ["BUY", "SELL", "HOLD", "CLOSE"] ∧
      upper (payload.orderType.getD "MARKET") ∈
        ["MARKET", "LIMIT", "STOP_MARKET", "TAKE_PROFIT_MARKET", "OCO"] ∧
      ∃ quantity, payload.quantity.toFloat = .ok quantity ∧
        order = ⟨simulatedOrderId uuid5 envelope, upper (payload.action.getD ""),
          strip (payload.symbol.getD ""), |quantity|, upper (payload.orderType.getD "MARKET"),
          upper (envelope.mode.getD "")⟩ := by
  rw [readOrder]
  simp only [bind_eq_ok_iff, mapError_eq_ok_iff, guard_eq_ok_iff, pure_eq_ok_iff, not_not]
  constructor
  · rintro ⟨quantity, hq, hsym, hact, htype, rfl⟩
    exact ⟨hsym, hact, htype, quantity, hq, rfl⟩
  · rintro ⟨hsym, hact, htype, quantity, hq, rfl⟩
    exact ⟨quantity, hq, hsym, hact, htype, rfl⟩

/-- An intent is executed when it is a valid MOCK intent that an order can be read from. -/
theorem executeIntent_eq_ok_iff :
    executeIntent engine uuid5 now envelope = .ok result ↔
      validateEnvelope envelope = .ok () ∧ upper (envelope.mode.getD "") = "MOCK" ∧
      ∃ order, readOrder uuid5 envelope (envelope.payload.getD {}) = .ok order ∧
        executeOrder engine now envelope (envelope.payload.getD {}) order = .ok result := by
  rw [executeIntent]
  simp only [bind_eq_ok_iff, mapError_eq_ok_iff, guard_eq_ok_iff, not_not]
  constructor
  · rintro ⟨_, hvalid, hmode, ho⟩
    exact ⟨hvalid, hmode, ho⟩
  · rintro ⟨hvalid, hmode, ho⟩
    exact ⟨(), hvalid, hmode, ho⟩

end

/-! ### The clock of the engine -/

private theorem buildEvent_ok {envelope : IntentEnvelope}
    (hvalid : validateEnvelope envelope = .ok ()) (now : UtcStamp) {eventType : String}
    (htype : strip eventType ≠ "") (suffix : String) (payload : OrderPayload) :
    buildEvent now envelope eventType suffix payload =
      .ok (orderEvent now envelope eventType suffix payload) := by
  obtain ⟨htrace, hdec, hmode, hkey, -, -, -⟩ := (validateEnvelope_ok_iff envelope).mp hvalid
  have hev : validateEnvelope (orderEvent now envelope eventType suffix payload) = .ok () := by
    rw [validateEnvelope_ok_iff]
    refine ⟨htrace, hdec, hmode, ?_, ?_, now.valid, rfl⟩
    · cases hk : envelope.idempotencyKey with
      | none => rw [hk] at hkey; cases hkey
      | some key =>
        rw [hk, Option.any_some, decide_eq_true_eq] at hkey
        rw [orderEvent, hk, Option.getD_some, Option.any_some, decide_eq_true_eq,
          String.append_assoc]
        exact strip_append_ne_empty _ hkey
    · simpa [orderEvent] using htype
  rw [buildEvent, hev]
  rfl

section

variable {envelope : IntentEnvelope} {payload : IntentPayload}
  (hvalid : validateEnvelope envelope = .ok ())

section

include hvalid

variable (engine : Engine) (now : UtcStamp) (order : SimulatedOrder)

private theorem ignore_isOk : ∃ result, ignore now envelope order = .ok result := by
  have htype : strip "oms.order.ignored" ≠ "" := by decide +kernel
  rw [ignore, buildEvent_ok hvalid now htype]
  exact ⟨_, rfl⟩

private theorem submit_isOk (triggerPrice : NumField) :
    ∃ result, submit now envelope order triggerPrice = .ok result := by
  have htype : strip "oms.order.created" ≠ "" := by decide +kernel
  rw [submit, buildEvent_ok hvalid now htype]
  exact ⟨_, rfl⟩

theorem fill_isOk (fillPrice : ℚ) (leg : Option ℕ) :
    ∃ result, fill engine now envelope order fillPrice leg = .ok result := by
  have htypes : strip "oms.order.created" ≠ "" ∧ strip "oms.order.filled" ≠ "" ∧
      strip "oms.order.cancelled" ≠ "" := by decide +kernel
  rw [fill, buildEvent_ok hvalid now htypes.1, buildEvent_ok hvalid now htypes.2.1]
  cases leg with
  | none => exact ⟨_, rfl⟩
  | some leg =>
    simp only [buildEvent_ok hvalid now htypes.2.2]
    exact ⟨_, rfl⟩

private theorem executeOco_isOk (later : UtcStamp) (order : SimulatedOrder)
    (h : ∃ result, executeOco engine now envelope payload order = .ok result) :
    ∃ result, executeOco engine later envelope payload order = .ok result := by
  unfold executeOco at h ⊢
  split at h
  · obtain ⟨price, hprice, h⟩ := bind_isOk_iff.mp h
    obtain ⟨leg, hleg, h⟩ := bind_isOk_iff.mp h
    refine bind_isOk_iff.mpr ⟨price, hprice, bind_isOk_iff.mpr ⟨leg, hleg, ?_⟩⟩
    split
    · exact submit_isOk hvalid later order _
    · exact fill_isOk hvalid engine later order _ _
    · exact fill_isOk hvalid engine later order _ _
  · exact h

private theorem executeOrder_isOk (later : UtcStamp) (order : SimulatedOrder)
    (h : ∃ result, executeOrder engine now envelope payload order = .ok result) :
    ∃ result, executeOrder engine later envelope payload order = .ok result := by
  unfold executeOrder at h ⊢
  split at h
  · next hignored =>
    rw [if_pos hignored]
    exact ignore_isOk hvalid later order
  · next hactive =>
    rw [if_neg hactive]
    obtain ⟨price, hprice, h⟩ := bind_isOk_iff.mp h
    refine bind_isOk_iff.mpr ⟨price, hprice, ?_⟩
    split at h
    · next htype =>
      rw [if_pos htype]
      obtain ⟨trigger, htrigger, -⟩ := bind_isOk_iff.mp h
      refine bind_isOk_iff.mpr ⟨trigger, htrigger, ?_⟩
      split
      · exact fill_isOk hvalid engine later order _ _
      · exact submit_isOk hvalid later order _
    · next htype =>
      rw [if_neg htype]
      split at h
      · next hoco =>
        rw [if_pos hoco]
        exact executeOco_isOk hvalid engine now later order h
      · next hoco =>
        rw [if_neg hoco]
        exact fill_isOk hvalid engine later order _ _

end

/-- Whether an intent is executed does not depend on the clock. -/
theorem executeIntent_isOk (engine : Engine) (uuid5 : Uuid5) (now later : UtcStamp)
    (h : ∃ result, executeIntent engine uuid5 now envelope = .ok result) :
    ∃ result, executeIntent engine uuid5 later envelope = .ok result := by
  unfold executeIntent at h ⊢
  obtain ⟨valid, hvalid, h⟩ := bind_isOk_iff.mp h
  refine bind_isOk_iff.mpr ⟨valid, hvalid, ?_⟩
  have hvalid := mapError_eq_ok_iff.mp hvalid
  split at h
  · obtain ⟨_, ⟨⟩⟩ := h
  · next hmode =>
    rw [if_neg hmode]
    obtain ⟨order, ho, h⟩ := bind_isOk_iff.mp h
    exact bind_isOk_iff.mpr ⟨order, ho, executeOrder_isOk hvalid engine now later order h⟩

end

/-! ### Market orders -/

/-- A BUY or SELL at market in MOCK mode, priced by its mid price alone. -/
structure MarketIntent (envelope : IntentEnvelope) (payload : IntentPayload) (action : String)
    (quantity midPrice : ℚ) : Prop where
  valid : validateEnvelope envelope = .ok ()
  mode : envelope.mode = some "MOCK"
  payload_eq : envelope.payload = some payload
  action_eq : payload.action = some action
  side : action = "BUY" ∨ action = "SELL"
  orderType_eq : payload.orderType = some "MARKET"
  quantity_eq : payload.quantity = .num quantity
  quantity_ne_zero : quantity ≠ 0
  midPrice_eq : payload.midPrice = .num midPrice
  unpriced : payload.limitPrice = .null ∧ payload.price = .absent ∧
    payload.referencePrice = .absent

section

variable {envelope : IntentEnvelope} {payload : IntentPayload} {action : String}
  {quantity midPrice : ℚ} (engine : Engine) (uuid5 : Uuid5) (now : UtcStamp)
  (h : MarketIntent envelope payload action quantity midPrice)
include h

/-- The order of a market intent. -/
theorem readOrder_market (hsymbol : strip (payload.symbol.getD "") ≠ "") :
    readOrder uuid5 envelope payload = .ok ⟨simulatedOrderId uuid5 envelope, action,
      strip (payload.symbol.getD ""), |quantity|, "MARKET", "MOCK"⟩ := by
  have htexts : upper "MARKET" = "MARKET" ∧ upper "MOCK" = "MOCK" := by decide +kernel
  have hact : upper action = action ∧ action ∈ ["BUY", "SELL", "HOLD", "CLOSE"] := by
    rcases h.side with rfl | rfl <;> decide +kernel
  rw [readOrder_eq_ok_iff, h.action_eq, h.orderType_eq, h.quantity_eq, h.mode]
  simp only [Option.getD_some, hact.1, htexts]
  exact ⟨hsymbol, hact.2, by simp, quantity, rfl, rfl⟩

private theorem referencePrice_isOk_iff :
    (∃ price, referencePrice payload = .ok price) ↔ 0 < midPrice := by
  obtain ⟨hlimit, hprice, hreference⟩ := h.unpriced
  rw [referencePrice, h.midPrice_eq, hlimit, hprice, hreference]
  by_cases hpos : 0 < midPrice
  · simp [firstPositive, optionalNumber, hpos, bind, Except.bind, pure, Except.pure]
  · simp [firstPositive, optionalNumber, hpos, bind, Except.bind]

private theorem executeOrder_isOk_iff (orderId symbol : String) :
    (∃ result, executeOrder engine now envelope payload
        ⟨orderId, action, symbol, |quantity|, "MARKET", "MOCK"⟩ = .ok result) ↔ 0 < midPrice := by
  have hactive : ¬ (action = "HOLD" ∨ |quantity| ≤ 0) := by
    rintro (rfl | hq)
    · rcases h.side with hside | hside <;> exact absurd hside (by decide)
    · exact h.quantity_ne_zero (abs_nonpos_iff.mp hq)
  rw [← referencePrice_isOk_iff h, executeOrder, if_neg hactive, bind_isOk_iff]
  exact exists_congr fun price => and_iff_left (fill_isOk h.valid engine now _ _ none)

/-- A market order is executed exactly when it has a symbol and a positive mid price. -/
theorem executeIntent_market_isOk_iff :
    (∃ result, executeIntent engine uuid5 now envelope = .ok result) ↔
      strip (payload.symbol.getD "") ≠ "" ∧ 0 < midPrice := by
  have hmock : upper "MOCK" = "MOCK" := by decide +kernel
  simp only [executeIntent_eq_ok_iff, h.valid, h.mode, hmock, h.payload_eq, Option.getD_some,
    true_and]
  constructor
  · rintro ⟨result, order, hread, hexecute⟩
    have hsymbol := (readOrder_eq_ok_iff.mp hread).1
    cases (readOrder_market uuid5 h hsymbol).symm.trans hread
    exact ⟨hsymbol, (executeOrder_isOk_iff engine now h _ _).mp ⟨result, hexecute⟩⟩
  · rintro ⟨hsymbol, hmid⟩
    obtain ⟨result, hexecute⟩ := (executeOrder_isOk_iff engine now h _ _).mpr hmid
    exact ⟨result, _, readOrder_market uuid5 h hsymbol, hexecute⟩

end

/-! ### Intents of the examples -/

private theorem defaultCosts_nonneg : (0 : ℚ) ≤ 3 ∧ (0 : ℚ) ≤ 5 := by decide +kernel

/-- The engine with its default costs. -/
def defaultEngine : Engine where
  nonneg := defaultCosts_nonneg

/-- One id for every order. -/
def oneUuid5 : Uuid5 where
  text _ := "sim"
  stripped _ := by decide +kernel
  nonempty _ := by decide

/-- The clock two seconds after the intents were emitted. -/
def sampleTime : UtcStamp := ⟨"2026-01-01T00:00:02Z", by decide +kernel⟩

/-- A MOCK intent with the given payload. -/
def mockIntent (idempotencyKey : String) (payload : IntentPayload) : IntentEnvelope :=
  { traceId := some "11111111-1111-1111-1111-111111111111"
    decisionId := some "22222222-2222-2222-2222-222222222222"
    mode := some "MOCK"
    idempotencyKey := some idempotencyKey
    eventType := some "execution.intent.created"
    emittedAt := some "2026-01-01T00:00:00Z"
    payload := some payload }

end OpenTrader.Simulation
