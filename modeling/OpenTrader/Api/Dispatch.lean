import OpenTrader.Api.Adapters
import OpenTrader.Base.Fallible

/-!
# Execution dispatch endpoint

Library `Api`. `services/api/routers/internal.py:23-138`. The internal endpoint the bridge client
calls: it checks the bridge key, normalises the command and hands its payload to the adapter of
the exchange. The result says whether `create_order` was reached, next to the response.
-/

namespace OpenTrader.Api
open Base Execution

/-- `HTTPException`. -/
structure HttpError where
  statusCode : ℕ
  detail : String
  deriving DecidableEq

/-- `ExecutionDispatchCommand`; `internal.py:23-39`. -/
structure ExecutionDispatchCommand where
  commandId : String
  operation : DispatchOperation
  action : Action
  exchange : String
  symbol : String
  quantity : ℚ := 0
  orderType : String := "MARKET"
  timeInForce : Option String := none
  limitPrice : Option ℚ := none
  triggerPrice : Option ℚ := none
  reduceOnly : Bool := false
  idempotencyKey : String
  clientOrderId : Option String := none
  exchangeOrderId : Option String := none
  traceId : String
  decisionId : String
  deriving DecidableEq

variable (env : BridgeEnv) (c : ExecutionDispatchCommand)

/-- The fields that may not be empty, by name. -/
def ExecutionDispatchCommand.requiredTexts : List (String × String) :=
  [("command_id", c.commandId), ("exchange", c.exchange), ("symbol", c.symbol),
    ("order_type", c.orderType), ("idempotency_key", c.idempotencyKey), ("trace_id", c.traceId),
    ("decision_id", c.decisionId)]

/-- A request to the endpoint: the command and the `Authorization` header. -/
structure DispatchRequest where
  authorization : Option String := none
  command : ExecutionDispatchCommand
  deriving DecidableEq

/-- The model's validation of the body: the first empty field is named. -/
def validateBody (command : ExecutionDispatchCommand) : Except HttpError Unit :=
  match command.requiredTexts.find? (·.2 = "") with
  | some (field, _) => .error ⟨422, field ++ ": String should have at least 1 character"⟩
  | none => .ok ()

/-- `_validate_bridge_api_key`; `internal.py:122-138`. Comparing texts with characters outside ASCII
raises. -/
def validateBridgeApiKey (authorization : Option String) : Except HttpError Unit :=
  let expectedKey := strip env.bridgeApiKey
  let authHeader := strip (authorization.getD "")
  let expectedHeader := "Bearer " ++ expectedKey
  if expectedKey = "" then
    .error ⟨503, "execution bridge not configured: REAL_EXECUTION_BRIDGE_API_KEY is required"⟩
  else if !(authHeader ++ expectedHeader).toList.all (·.toNat < 128) then
    .error ⟨500, "comparing strings with non-ASCII characters is not supported"⟩
  else if authHeader ≠ expectedHeader then .error ⟨401, "invalid bridge authorization"⟩
  else .ok ()

/-- The HTTP status of a dispatch error; `internal.py:108-113`. -/
def DispatchError.toHttp : DispatchError → HttpError
  | .validation message => ⟨422, message⟩
  | .upstream message => ⟨502, message⟩

/-- What the endpoint did: the payload `create_order` was called with, if it was, and the
response. -/
structure DispatchResult where
  created : Option DispatchPayload := none
  response : Except HttpError DispatchOutcome

/-- The payload of a command with its normalised values; `internal.py:63-80`. -/
def ExecutionDispatchCommand.payload (exchange : Exchange) (orderType : Execution.OrderType)
    (timeInForce : Option TimeInForce) : DispatchPayload :=
  { commandId := c.commandId
    operation := c.operation
    action := c.action
    exchange
    symbol := c.symbol
    quantity := c.quantity
    orderType
    timeInForce
    limitPrice := c.limitPrice
    triggerPrice := c.triggerPrice
    reduceOnly := c.reduceOnly
    idempotencyKey := c.idempotencyKey
    clientOrderId := c.clientOrderId
    exchangeOrderId := c.exchangeOrderId
    traceId := c.traceId
    decisionId := c.decisionId }

/-- Normalised payload and adapter of a command; `internal.py:59-82`. -/
def prepare : Except DispatchError (DispatchPayload × SpotAdapter) := do
  let exchange ← normalizeExchange c.exchange
  let orderType ← normalizeOrderType c.orderType
  let timeInForce ← normalizeTimeInForce c.timeInForce
  let adapter ← getSpotAdapter env exchange
  return (c.payload exchange orderType timeInForce, adapter)

/-- The checks of an operation; `internal.py:83-106`. -/
def checkOperation (payload : DispatchPayload) : Except DispatchError Unit :=
  let unidentified := strip (payload.exchangeOrderId.getD "") = "" ∧
    strip (payload.clientOrderId.getD "") = ""
  match payload.operation with
  | .createOrder =>
    validateCreateOrderFields payload.orderType payload.timeInForce payload.quantity
      payload.limitPrice payload.triggerPrice
  | .cancelOrder =>
    if unidentified then
      .error (.validation "cancel operation requires exchange_order_id or client_order_id")
    else .ok ()
  | .getOrderStatus =>
    if unidentified then
      .error (.validation "status operation requires exchange_order_id or client_order_id")
    else .ok ()

variable (exchange : SignedRequest → ExchangeReply) (request : DispatchRequest)

/-- Everything the endpoint checks before it calls the adapter. -/
def acceptRequest : Except HttpError (DispatchPayload × SpotAdapter) := do
  validateBody request.command
  validateBridgeApiKey env request.authorization
  let prepared ← (prepare env request.command).mapError (·.toHttp)
  (checkOperation prepared.1).mapError (·.toHttp)
  return prepared

/-- `dispatch_execution_command`; `internal.py:53-119`. -/
def dispatchExecutionCommand : DispatchResult :=
  match acceptRequest env request with
  | .error error => { response := .error error }
  | .ok (payload, adapter) =>
    { created := if payload.operation = .createOrder then some payload else none
      response := (adapter.perform exchange payload.operation payload).mapError (·.toHttp) }

/-- The request is a CREATE_ORDER that passes the checks of the endpoint: the required fields, the
bridge key, the names of exchange, order type and time in force, the credentials and the order's
own fields. -/
def IsAdmittedOrder : Prop :=
  let c := request.command
  c.operation = .createOrder ∧ validateBody c = .ok () ∧
    validateBridgeApiKey env request.authorization = .ok () ∧
    ∃ exchange orderType timeInForce adapter,
      normalizeExchange c.exchange = .ok exchange ∧ normalizeOrderType c.orderType = .ok orderType ∧
      normalizeTimeInForce c.timeInForce = .ok timeInForce ∧
      getSpotAdapter env exchange = .ok adapter ∧
      validateCreateOrderFields orderType timeInForce c.quantity c.limitPrice c.triggerPrice =
        .ok ()

/-- A body is valid when none of its required texts is empty. -/
theorem validateBody_eq_ok_iff :
    validateBody c = .ok () ↔ ∀ field ∈ c.requiredTexts, field.2 ≠ "" := by
  unfold validateBody
  split
  · next field _ hfind =>
    have hfound := List.find?_some hfind
    refine iff_of_false (by simp) fun h => ?_
    exact h _ (List.mem_of_find?_eq_some hfind) (of_decide_eq_true hfound)
  · next hn =>
    refine iff_of_true rfl fun field hfield hempty => ?_
    exact List.find?_eq_none.mp hn field hfield (decide_eq_true hempty)

variable {prepared : DispatchPayload × SpotAdapter}

/-- What a command goes through before its adapter is known. -/
theorem prepare_eq_ok_iff {env : BridgeEnv} {c : ExecutionDispatchCommand} :
    prepare env c = .ok prepared ↔
      ∃ exchange, normalizeExchange c.exchange = .ok exchange ∧
      ∃ orderType, normalizeOrderType c.orderType = .ok orderType ∧
      ∃ timeInForce, normalizeTimeInForce c.timeInForce = .ok timeInForce ∧
      ∃ adapter, getSpotAdapter env exchange = .ok adapter ∧
      (c.payload exchange orderType timeInForce, adapter) = prepared := by
  simp only [prepare, bind_eq_ok_iff, pure_eq_ok_iff]

/-- What a request goes through before the adapter is called. -/
theorem acceptRequest_eq_ok_iff {env : BridgeEnv} {request : DispatchRequest} :
    acceptRequest env request = .ok prepared ↔
      validateBody request.command = .ok () ∧
      validateBridgeApiKey env request.authorization = .ok () ∧
      prepare env request.command = .ok prepared ∧ checkOperation prepared.1 = .ok () := by
  simp only [acceptRequest, bind_eq_ok_iff, pure_eq_ok_iff, mapError_eq_ok_iff]
  constructor
  · rintro ⟨_, hbody, _, hk, _, hprepare, _, hcheck, rfl⟩
    exact ⟨hbody, hk, hprepare, hcheck⟩
  · rintro ⟨hbody, hk, hprepare, hcheck⟩
    exact ⟨_, hbody, _, hk, _, hprepare, _, hcheck, rfl⟩

private theorem checkOperation_create {payload : DispatchPayload}
    (h : payload.operation = .createOrder) :
    checkOperation payload = validateCreateOrderFields payload.orderType payload.timeInForce
      payload.quantity payload.limitPrice payload.triggerPrice := by
  rw [checkOperation, h]

/-- `create_order` is reached exactly by the admitted orders. -/
theorem created_isSome_iff :
    (dispatchExecutionCommand env exchange request).created.isSome = true ↔
      IsAdmittedOrder env request := by
  have hpayload : ∀ {payload adapter}, acceptRequest env request = .ok (payload, adapter) →
      ((dispatchExecutionCommand env exchange request).created.isSome = true ↔
        payload.operation = .createOrder) := by
    intro payload adapter h
    rw [dispatchExecutionCommand, h]
    by_cases hop : payload.operation = .createOrder <;> simp [hop]
  constructor
  · intro hcreated
    cases hacc : acceptRequest env request with
    | error e => rw [dispatchExecutionCommand, hacc] at hcreated; cases hcreated
    | ok prepared =>
      have hop := (hpayload hacc).mp hcreated
      obtain ⟨hbody, hk, hprepare, hcheck⟩ := acceptRequest_eq_ok_iff.mp hacc
      obtain ⟨venue, hvenue, orderType, htype, tif, htif, adapter, hadapter, rfl⟩ :=
        prepare_eq_ok_iff.mp hprepare
      refine ⟨hop, hbody, hk, venue, orderType, tif, adapter, hvenue, htype, htif, hadapter, ?_⟩
      exact (checkOperation_create hop).symm.trans hcheck
  · rintro ⟨hop, hbody, hk, venue, orderType, tif, adapter, hvenue, htype, htif, hadapter,
      hfields⟩
    have hprepare := prepare_eq_ok_iff.mpr
      ⟨venue, hvenue, orderType, htype, tif, htif, adapter, hadapter, rfl⟩
    have hcheck : checkOperation (request.command.payload venue orderType tif) = .ok () :=
      (checkOperation_create hop).trans hfields
    have hacc := acceptRequest_eq_ok_iff.mpr ⟨hbody, hk, hprepare, hcheck⟩
    exact (hpayload hacc).mpr hop

/-- The bridge key of a deployment that dispatches to no exchange. -/
def simulatedEnv : BridgeEnv := { bridgeApiKey := "test-bridge-key" }

/-- A market order with the given identifiers. -/
def bridgeOrder (exchangeOrderId clientOrderId : Option String) : DispatchRequest :=
  { authorization := some "Bearer test-bridge-key"
    command :=
      { commandId := "cmd-1"
        operation := .createOrder
        action := .buy
        exchange := "binance"
        symbol := "BTC/USDT"
        quantity := 1 / 10
        idempotencyKey := "idem-1"
        clientOrderId
        exchangeOrderId
        traceId := "trace-1"
        decisionId := "decision-1" } }

end OpenTrader.Api
