import OpenTrader.Execution.Bridge

/-!
# Spot execution adapters

Library `Api`. `services/api/internal_execution/adapters.py:20-666`. The normalisation and the
field checks of a dispatch command, and the adapters that turn its payload into an order: the
simulated ones answer by themselves, the signed ones send a request to their exchange. Base
URLs, timeouts, signatures and the raw responses are left out.
-/

namespace OpenTrader.Api
open Base Execution

/-- `InternalDispatchValidationError` and `InternalDispatchUpstreamError`. -/
inductive DispatchError where
  | validation (message : String)
  | upstream (message : String)
  deriving DecidableEq

/-- `_ALLOWED_EXCHANGES`. -/
inductive Exchange where
  | binance
  | bitget
  deriving DecidableEq

/-- `_ALLOWED_TIME_IN_FORCE`. -/
inductive TimeInForce where
  | gtc
  | ioc
  | fok
  deriving DecidableEq

/-- Text of a time in force. -/
def TimeInForce.name : TimeInForce → String
  | .gtc => "GTC"
  | .ioc => "IOC"
  | .fok => "FOK"

/-- The operations of a dispatch command. -/
inductive DispatchOperation where
  | createOrder
  | cancelOrder
  | getOrderStatus
  deriving DecidableEq

/-- The payload the endpoint hands to an adapter; `services/api/routers/internal.py:64-81`. -/
structure DispatchPayload where
  commandId : String
  operation : DispatchOperation
  action : Action
  exchange : Exchange
  symbol : String
  quantity : ℚ
  orderType : Execution.OrderType
  timeInForce : Option TimeInForce
  limitPrice : Option ℚ
  triggerPrice : Option ℚ
  reduceOnly : Bool
  idempotencyKey : String
  clientOrderId : Option String
  exchangeOrderId : Option String
  traceId : String
  decisionId : String
  deriving DecidableEq

/-- `DispatchOutcome`. -/
structure DispatchOutcome where
  orderId : String
  status : String
  deriving DecidableEq

/-! ### Normalisation and field checks -/

/-- `normalize_exchange`; `adapters.py:464-470`. -/
def normalizeExchange (exchange : String) : Except DispatchError Exchange :=
  let normalized := lower (strip exchange)
  if normalized = "binance" then .ok .binance
  else if normalized = "bitget" then .ok .bitget
  else .error (.validation
    ("unsupported exchange: " ++ exchange ++ "; allowed=['binance', 'bitget']"))

/-- `normalize_order_type`; `adapters.py:473-479`. A blank type is a market order. -/
def normalizeOrderType (orderType : String) : Except DispatchError Execution.OrderType :=
  let normalized := upper (strip orderType)
  if normalized = "" ∨ normalized = "MARKET" then .ok .market
  else if normalized = "LIMIT" then .ok .limit
  else if normalized = "STOP_MARKET" then .ok .stopMarket
  else if normalized = "TAKE_PROFIT_MARKET" then .ok .takeProfitMarket
  else .error (.validation
    "order_type must be one of MARKET, LIMIT, STOP_MARKET, TAKE_PROFIT_MARKET")

/-- `normalize_time_in_force`; `adapters.py:482-490`. -/
def normalizeTimeInForce (value : Option String) : Except DispatchError (Option TimeInForce) :=
  let normalized := upper (strip (value.getD ""))
  if normalized = "" then .ok none
  else if normalized = "GTC" then .ok (some .gtc)
  else if normalized = "IOC" then .ok (some .ioc)
  else if normalized = "FOK" then .ok (some .fok)
  else .error (.validation "time_in_force must be one of GTC, IOC, FOK")

/-- `validate_create_order_fields`; `adapters.py:493-530`. -/
def validateCreateOrderFields (orderType : Execution.OrderType) (timeInForce : Option TimeInForce)
    (quantity : ℚ) (limitPrice triggerPrice : Option ℚ) : Except DispatchError Unit :=
  if quantity < 1 / 1000000000 then
    .error (.validation "quantity must be positive for create operation")
  else
    match orderType with
    | .market =>
      if limitPrice.isSome then
        .error (.validation "limit_price is not allowed for MARKET orders")
      else if triggerPrice.isSome then
        .error (.validation "trigger_price is not allowed for MARKET orders")
      else .ok ()
    | .limit =>
      if !limitPrice.any (0 < ·) then
        .error (.validation "limit_price must be positive for LIMIT orders")
      else if triggerPrice.isSome then
        .error (.validation "trigger_price is not allowed for LIMIT orders")
      else if timeInForce.isNone then
        .error (.validation "time_in_force is required for LIMIT orders")
      else .ok ()
    | .stopMarket | .takeProfitMarket =>
      if !triggerPrice.any (0 < ·) then
        .error (.validation "trigger_price must be positive for STOP_MARKET and TAKE_PROFIT_MARKET")
      else if limitPrice.isSome then
        .error (.validation "limit_price is not allowed for STOP_MARKET and TAKE_PROFIT_MARKET")
      else .ok ()

/-! ### Identifiers and request fields -/

/-- `str(payload.get(key, ""))` of an optional text: the payload always has the key, so an absent
value reads as `None`. -/
def pyStr (value : Option String) : String := value.getD "None"

/-- The first `n` characters of a text. -/
def takeText (n : ℕ) (text : String) : String := String.ofList (text.toList.take n)

variable (payload : DispatchPayload)

/-- `_resolve_order_id`; `adapters.py:577-588`. -/
def resolveOrderId : String :=
  let exchangeOrderId := strip (pyStr payload.exchangeOrderId)
  let clientOrderId := strip (pyStr payload.clientOrderId)
  let commandId := strip payload.commandId
  let decisionId := strip payload.decisionId
  if exchangeOrderId ≠ "" then exchangeOrderId
  else if clientOrderId ≠ "" then clientOrderId
  else if commandId ≠ "" then commandId
  else if decisionId ≠ "" then "bridge-" ++ takeText 8 decisionId
  else "bridge-unknown"

/-- `_resolve_client_order_id`; `adapters.py:591-601`. -/
def resolveClientOrderId : String :=
  let candidate := strip (pyStr payload.clientOrderId)
  let commandId := strip payload.commandId
  let idempotencyKey := strip payload.idempotencyKey
  if candidate ≠ "" then takeText 32 candidate
  else if commandId ≠ "" then takeText 32 commandId
  else takeText 32
    (String.ofList (idempotencyKey.toList.map fun c => if c = ':' then '_' else c))

/-- `_to_exchange_symbol`; `adapters.py:604-608`. -/
def toExchangeSymbol (symbol : String) : Except DispatchError String :=
  let normalized := String.ofList ((upper (strip symbol)).toList.filter (· ≠ '/'))
  if normalized = "" then .error (.validation "symbol must be non-empty") else .ok normalized

/-- `_resolve_exchange_side`; `adapters.py:611-619`. Anything but a BUY goes out as a SELL. -/
def resolveExchangeSide : Action → String
  | .buy => "BUY"
  | .sell | .close | .cancel => "SELL"

/-- `_binance_order_type`; `adapters.py:622-629`. -/
def binanceOrderType : Execution.OrderType → String
  | .market => "MARKET"
  | .limit => "LIMIT"
  | .stopMarket => "STOP_LOSS"
  | .takeProfitMarket => "TAKE_PROFIT"

/-- `_bitget_time_in_force`; `adapters.py:632-638`. -/
def bitgetTimeInForce : Option TimeInForce → String
  | some .ioc => "ioc"
  | some .fok => "fok"
  | _ => "gtc"

/-- A value of a request parameter; a decimal stands for its rendering. -/
inductive ParamValue where
  | text (value : String)
  | decimal (value : ℚ)
  deriving DecidableEq

/-- Parameters of a request, in order. -/
abbrev Params := List (String × ParamValue)

/-- A parameter rendered by `_decimal_string`; `adapters.py:641-651`. The value at the end of the
second message is left out. -/
def decimalParam (key : String) (value : Option ℚ) : Except DispatchError Params :=
  match value with
  | none => .error (.validation "numeric field is required")
  | some q =>
    if q ≤ 0 then .error (.validation "numeric field must be positive")
    else .ok [(key, .decimal q)]

/-- The parameters a signed query carries: texts are stripped and blank ones dropped. -/
def renderParams (params : Params) : Params :=
  params.filterMap fun (key, value) =>
    match value with
    | .text s => if strip s = "" then none else some (key, .text (strip s))
    | .decimal q => some (key, .decimal q)

/-- A text parameter that is sent only when it is not empty. -/
def optionalParam (key value : String) : Params := if value = "" then [] else [(key, .text value)]

/-- A request to an exchange, without its timestamp, window and signature. -/
structure SignedRequest where
  method : String
  path : String
  query : Params := []
  body : Params := []
  deriving DecidableEq

/-- What comes back for a request: a transport error, a reply that is no JSON object, or the
fields read from it. An identifier or status that is missing, null, empty or zero is `none`. -/
inductive ExchangeReply where
  | failed (detail : String)
  | notObject
  | object (code msg orderId status : Option String)
  deriving DecidableEq

/-- `_normalize_exchange_status`; `adapters.py:654-671`. -/
def normalizeExchangeStatus (status : Option String) (fallback : String) : String :=
  let normalized := upper (strip (status.getD ""))
  if normalized = "" then fallback
  else if normalized = "NEW" ∨ normalized = "LIVE" ∨ normalized = "INIT" then "submitted"
  else if normalized = "PARTIALLY_FILLED" ∨ normalized = "PARTIAL_FILL" ∨
      normalized = "PARTIALLYFILLED" then "partially_filled"
  else if normalized = "FILLED" then "filled"
  else if normalized = "CANCELED" ∨ normalized = "CANCELLED" then "canceled"
  else if normalized = "REJECTED" then "rejected"
  else if normalized = "EXPIRED" then "expired"
  else lower normalized

/-! ### Adapters -/

/-- The environment variables the endpoint and its adapters read. -/
structure BridgeEnv where
  bridgeApiKey : String := ""
  realDispatch : String := "false"
  binanceApiKey : String := ""
  binanceApiSecret : String := ""
  bitgetApiKey : String := ""
  bitgetApiSecret : String := ""
  bitgetApiPassphrase : String := ""
  deriving DecidableEq

/-- The four adapters: simulated or signed, of one exchange. -/
structure SpotAdapter where
  exchange : Exchange
  signed : Bool
  deriving DecidableEq

/-- `_to_bool`; `adapters.py:554-556`. -/
def toBool (raw : String) : Bool :=
  let normalized := lower (strip raw)
  normalized = "1" ∨ normalized = "true" ∨ normalized = "yes" ∨ normalized = "on"

/-- `get_spot_adapter`; `adapters.py:532-551`. A signed adapter needs the credentials of its
exchange. -/
def getSpotAdapter (env : BridgeEnv) (exchange : Exchange) : Except DispatchError SpotAdapter :=
  if !toBool env.realDispatch then .ok ⟨exchange, false⟩
  else
    match exchange with
    | .binance =>
      if strip env.binanceApiKey = "" ∨ strip env.binanceApiSecret = "" then
        .error (.validation ("missing Binance credentials for real dispatch; " ++
          "set BINANCE_API_KEY and BINANCE_API_SECRET"))
      else .ok ⟨.binance, true⟩
    | .bitget =>
      if strip env.bitgetApiKey = "" ∨ strip env.bitgetApiSecret = "" ∨
          strip env.bitgetApiPassphrase = "" then
        .error (.validation ("missing Bitget credentials for real dispatch; " ++
          "set BITGET_API_KEY, BITGET_API_SECRET, BITGET_API_PASSPHRASE"))
      else .ok ⟨.bitget, true⟩

/-- The identifiers of a cancel or status request; `adapters.py:155-160,187-192,333-338,370-375`. -/
def identifierParams (clientKey : String) (payload : DispatchPayload) : Params :=
  optionalParam "orderId" (strip (pyStr payload.exchangeOrderId)) ++
    optionalParam clientKey (strip (pyStr payload.clientOrderId))

/-- The request of `BinanceSignedSpotExecutionAdapter.create_order`; `adapters.py:119-135`. -/
def binanceCreateRequest : Except DispatchError SignedRequest := do
  let symbol ← toExchangeSymbol payload.symbol
  let quantity ← decimalParam "quantity" (some payload.quantity)
  let timeInForce :=
    if payload.orderType = .limit then
      [("timeInForce", .text (pyStr (payload.timeInForce.map (·.name))))]
    else []
  let price ←
    if payload.orderType = .limit then decimalParam "price" payload.limitPrice else .ok []
  let stopPrice ←
    if payload.orderType = .stopMarket ∨ payload.orderType = .takeProfitMarket then
      decimalParam "stopPrice" payload.triggerPrice
    else .ok []
  return { method := "POST"
           path := "/api/v3/order"
           query := renderParams
            ([("symbol", .text symbol),
              ("side", .text (resolveExchangeSide payload.action)),
              ("type", .text (binanceOrderType payload.orderType))] ++ quantity ++
              [("newOrderRespType", .text "RESULT")] ++
              optionalParam "newClientOrderId" (resolveClientOrderId payload) ++
              timeInForce ++ price ++ stopPrice) }

/-- The request of `BitgetSignedSpotExecutionAdapter.create_order`; `adapters.py:273-313`. -/
def bitgetCreateRequest : Except DispatchError SignedRequest := do
  let symbol ← toExchangeSymbol payload.symbol
  let side := lower (resolveExchangeSide payload.action)
  let clientOid := optionalParam "clientOid" (resolveClientOrderId payload)
  if payload.orderType = .stopMarket ∨ payload.orderType = .takeProfitMarket then
    let triggerPrice ← decimalParam "triggerPrice" payload.triggerPrice
    let size ← decimalParam "size" (some payload.quantity)
    return { method := "POST"
             path := "/api/v2/spot/trade/place-plan-order"
             body := [("symbol", .text symbol), ("side", .text side)] ++ triggerPrice ++
                [("triggerType", .text "mark_price"), ("orderType", .text "market")] ++ size ++
                [("planType", .text "amount")] ++ clientOid }
  else
    let size ← decimalParam "size" (some payload.quantity)
    let price ←
      if payload.orderType = .limit then decimalParam "price" payload.limitPrice else .ok []
    let force :=
      if payload.orderType = .limit then
        [("force", .text (bitgetTimeInForce payload.timeInForce))]
      else []
    return { method := "POST"
             path := "/api/v2/spot/trade/place-order"
             body := [("symbol", .text symbol), ("side", .text side),
                ("orderType", .text (if payload.orderType = .limit then "limit" else "market"))] ++
                size ++ clientOid ++ price ++ force }

namespace SpotAdapter

variable (adapter : SpotAdapter) (operation : DispatchOperation)

/-- The request a signed adapter sends for an operation. -/
def request (payload : DispatchPayload) : Except DispatchError SignedRequest :=
  match adapter.exchange, operation with
  | .binance, .createOrder => binanceCreateRequest payload
  | .bitget, .createOrder => bitgetCreateRequest payload
  | .binance, operation => do
    let symbol ← toExchangeSymbol payload.symbol
    return { method := if operation = .cancelOrder then "DELETE" else "GET"
             path := "/api/v3/order"
             query := renderParams
              (("symbol", .text symbol) :: identifierParams "origClientOrderId" payload) }
  | .bitget, .cancelOrder => do
    let symbol ← toExchangeSymbol payload.symbol
    return { method := "POST"
             path := "/api/v2/spot/trade/cancel-order"
             body := ("symbol", .text symbol) :: identifierParams "clientOid" payload }
  | .bitget, .getOrderStatus => do
    let symbol ← toExchangeSymbol payload.symbol
    return { method := "GET"
             path := "/api/v2/spot/trade/orderInfo"
             query := renderParams
              (("symbol", .text symbol) :: identifierParams "clientOid" payload) }

/-- The reply of an exchange as `_signed_request` reads it: the order id and the status of an
accepted request; `adapters.py:237-253,444-461`. -/
def readReply : ExchangeReply → Except DispatchError (Option String × Option String)
  | .failed detail => .error (.upstream detail)
  | .notObject =>
    match adapter.exchange with
    | .binance => .error (.upstream "Binance response must be a JSON object")
    | .bitget => .error (.upstream "Bitget response must be a JSON object")
  | .object code msg orderId status =>
    match adapter.exchange with
    | .binance =>
      if truthy msg ∧ (code.getD "").toList.head? = some '-' then
        .error (.upstream ("Binance order rejected (code=" ++ code.getD "" ++ ")"))
      else .ok (orderId, status)
    | .bitget =>
      let code := strip (code.getD "")
      if code ≠ "" ∧ code ≠ "00000" ∧ code ≠ "0" then
        .error (.upstream ("Bitget order rejected (code=" ++ code ++ ")"))
      else .ok (orderId, status)

/-- The id of an accepted request: the exchange's, or for a cancel or a status read the one asked
for, or what the payload resolves to. -/
def acceptedOrderId (payload : DispatchPayload) (orderId : Option String) : String :=
  let asked :=
    if operation = .createOrder then []
    else [strip (pyStr payload.exchangeOrderId), strip (pyStr payload.clientOrderId)]
  ((orderId.toList ++ asked).find? (· ≠ "")).getD (resolveOrderId payload)

/-- `create_order`, `cancel_order` and `get_order_status` of the four adapters;
`adapters.py:49-404`. Bitget reports no status for an order it creates or cancels. -/
def perform (exchange : SignedRequest → ExchangeReply) (operation : DispatchOperation)
    (payload : DispatchPayload) : Except DispatchError DispatchOutcome := do
  let fallback := if operation = .cancelOrder then "canceled" else "submitted"
  if !adapter.signed then return ⟨resolveOrderId payload, fallback⟩
  else
    let request ← adapter.request operation payload
    let (orderId, status) ← adapter.readReply (exchange request)
    let status :=
      if adapter.exchange = .bitget ∧ operation ≠ .getOrderStatus then none else status
    return ⟨acceptedOrderId operation payload orderId, normalizeExchangeStatus status fallback⟩

end SpotAdapter

end OpenTrader.Api
