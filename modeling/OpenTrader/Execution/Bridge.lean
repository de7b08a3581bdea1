import OpenTrader.Base.Envelope

/-!
# Bridge commands

Library `Execution`. `services/real_execution_go/internal/bridge/contracts.go:9-201`. The command
the Go handler sends to the exchange bridge, with its validation, and the result it gets back.
-/

namespace OpenTrader.Execution
open Base

/-- `bridge.Operation`. -/
inductive Operation where
  | createOrder
  | cancelOrder
  deriving DecidableEq

/-- Text of an operation. -/
def Operation.name : Operation → String
  | .createOrder => "CREATE_ORDER"
  | .cancelOrder => "CANCEL_ORDER"

/-- `bridge.Action`. -/
inductive Action where
  | buy
  | sell
  | close
  | cancel
  deriving DecidableEq

/-- Text of an action. -/
def Action.name : Action → String
  | .buy => "BUY"
  | .sell => "SELL"
  | .close => "CLOSE"
  | .cancel => "CANCEL"

/-- `bridge.OrderType`. -/
inductive OrderType where
  | market
  | limit
  | stopMarket
  | takeProfitMarket
  deriving DecidableEq

/-- Text of an order type. -/
def OrderType.name : OrderType → String
  | .market => "MARKET"
  | .limit => "LIMIT"
  | .stopMarket => "STOP_MARKET"
  | .takeProfitMarket => "TAKE_PROFIT_MARKET"

/-- `normalizeOrderType`; `contracts.go:189-201`. -/
def normalizeOrderType (orderType : String) : OrderType :=
  let normalized := upper (trimSpace orderType)
  if normalized = "LIMIT" then .limit
  else if normalized = "STOP_MARKET" then .stopMarket
  else if normalized = "TAKE_PROFIT_MARKET" then .takeProfitMarket
  else .market

/-- `bridge.Command`; `contracts.go:34-51`. -/
structure Command where
  commandId : String
  operation : Operation
  action : Action
  exchange : String
  symbol : String
  quantity : ℚ
  orderType : OrderType
  timeInForce : String := ""
  limitPrice : Option ℚ := none
  triggerPrice : Option ℚ := none
  reduceOnly : Bool := false
  idempotencyKey : String
  clientOrderId : String
  exchangeOrderId : String := ""
  traceId : String
  decisionId : String
  deriving DecidableEq

/-- `bridge.Result`; the raw response is left out. -/
structure BridgeResult where
  orderId : String
  status : String
  deriving DecidableEq

variable (commandId idempotencyKey : String) (c : Command)

/-- `NewCreateOrderCommand`; `contracts.go:136-170`. -/
def newCreateOrderCommand (action : Action) (exchange symbol : String) (quantity : ℚ)
    (traceId decisionId clientOrderId : String) (orderType : String) (timeInForce : String)
    (limitPrice triggerPrice : Option ℚ) (reduceOnly : Bool) : Command :=
  { commandId
    operation := .createOrder
    action
    exchange
    symbol
    quantity
    orderType := normalizeOrderType orderType
    timeInForce := trimSpace timeInForce
    limitPrice
    triggerPrice
    reduceOnly := reduceOnly || decide (action = .close)
    idempotencyKey
    clientOrderId
    traceId
    decisionId }

/-- `NewCancelOrderCommand`; `contracts.go:172-187`. -/
def newCancelOrderCommand
    (exchange symbol exchangeOrderId clientOrderId traceId decisionId : String) : Command :=
  { commandId
    operation := .cancelOrder
    action := .cancel
    exchange
    symbol
    quantity := 0
    orderType := .market
    idempotencyKey
    clientOrderId
    exchangeOrderId
    traceId
    decisionId }

/-- The order type checks of `Command.Validate`; `contracts.go:93-121`. -/
def Command.validateOrderType : Except String Unit :=
  match c.orderType with
  | .market =>
    if c.limitPrice.isSome then .error "limit_price is not allowed for MARKET orders"
    else if c.triggerPrice.isSome then .error "trigger_price is not allowed for MARKET orders"
    else .ok ()
  | .limit =>
    if !c.limitPrice.any (0 < ·) then .error "limit_price must be positive for LIMIT orders"
    else if c.triggerPrice.isSome then .error "trigger_price is not allowed for LIMIT orders"
    else if trimSpace c.timeInForce = "" then .error "time_in_force is required for LIMIT orders"
    else .ok ()
  | .stopMarket | .takeProfitMarket =>
    if !c.triggerPrice.any (0 < ·) then
      .error "trigger_price must be positive for STOP_MARKET/TAKE_PROFIT_MARKET orders"
    else if c.limitPrice.isSome then
      .error "limit_price is not allowed for STOP_MARKET/TAKE_PROFIT_MARKET orders"
    else .ok ()

/-- The checks of an operation; `contracts.go:83-131`. -/
def Command.validateOperation : Except String Unit :=
  match c.operation with
  | .createOrder =>
    if c.action = .cancel then
      .error ("invalid action for create operation: " ++ c.action.name)
    else if c.quantity ≤ 0 then .error "quantity must be positive for create operation"
    else c.validateOrderType
  | .cancelOrder =>
    if c.action ≠ .cancel then .error "cancel operation requires action CANCEL"
    else if trimSpace c.exchangeOrderId = "" ∧ trimSpace c.clientOrderId = "" then
      .error "cancel operation requires exchange_order_id or client_order_id"
    else .ok ()

/-- `Command.Validate`; `contracts.go:63-134`. -/
def Command.validate : Except String Unit :=
  if trimSpace c.commandId = "" then .error "command_id is required"
  else if trimSpace c.idempotencyKey = "" then .error "idempotency_key is required"
  else if trimSpace c.symbol = "" then .error "symbol is required"
  else if trimSpace c.exchange = "" then .error "exchange is required"
  else if trimSpace c.traceId = "" then .error "trace_id is required"
  else if trimSpace c.decisionId = "" then .error "decision_id is required"
  else c.validateOperation

end OpenTrader.Execution
