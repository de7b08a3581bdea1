import OpenTrader.Execution.Bridge
import OpenTrader.Execution.Intent
import OpenTrader.Oms.Runner

/-!
# The Go execution handler

Library `Execution`. `services/real_execution_go/internal/service/handler.go:48-219` and
`envelope.go:9-104`, over the in-memory store of `internal/idempotency/store.go:11-89`. A REAL
intent is turned into a bridge command, sent at most once per dispatch key, and the bridge's
reply is published as one lifecycle event, with the quantity of the command whatever the reply.
-/

namespace OpenTrader.Execution
open Base Oms

/-! ### Decoding -/

/-- `service.IntentPayload`; a missing text is empty, a missing price is `nil`. -/
structure GoIntentPayload where
  strategyId : String := ""
  exchange : String := ""
  symbol : String := ""
  action : String := ""
  orderType : String := ""
  timeInForce : String := ""
  limitPrice : Option ℚ := none
  triggerPrice : Option ℚ := none
  reduceOnly : Bool := false
  quantity : ℚ := 0
  clientOrderId : String := ""
  exchangeOrderId : String := ""
  deriving DecidableEq

/-- `service.Envelope`. -/
structure GoEnvelope where
  traceId : String
  decisionId : String
  mode : String
  idempotencyKey : String
  eventType : String
  emittedAt : String
  payload : GoIntentPayload
  deriving DecidableEq

/-- A number of a JSON object; a text is refused. -/
def decodeNumber (field : String) : NumField → Except String (Option ℚ)
  | .absent => .ok none
  | .null => .ok none
  | .num value => .ok (some value)
  | .invalid _ => .error ("decode envelope: json: cannot unmarshal string into Go struct field " ++
      "Envelope.payload." ++ field ++ " of type float64")

/-- The payload `json.Unmarshal` fills in. -/
def decodePayload (payload : IntentPayload) : Except String GoIntentPayload := do
  let limitPrice ← decodeNumber "limit_price" payload.limitPrice
  let triggerPrice ← decodeNumber "trigger_price" payload.triggerPrice
  let quantity ← decodeNumber "quantity" payload.quantity
  return {
    strategyId := payload.strategyId.getD ""
    exchange := payload.exchange.getD ""
    symbol := payload.symbol.getD ""
    action := payload.action.getD ""
    orderType := payload.orderType.getD ""
    timeInForce := payload.timeInForce.getD ""
    limitPrice
    triggerPrice
    reduceOnly := payload.reduceOnly.getD false
    quantity := quantity.getD 0
    clientOrderId := payload.clientOrderId.getD ""
    exchangeOrderId := payload.exchangeOrderId.getD "" }

/-- The order type checks of `Envelope.Validate`; `internal/service/envelope.go:71-102`. -/
def GoIntentPayload.validateOrderType (p : GoIntentPayload) : Except String Unit :=
  let normalized := upper (trimSpace p.orderType)
  let orderType := if normalized = "" then "MARKET" else normalized
  if orderType = "MARKET" then
    if p.limitPrice.isSome then .error "payload.limit_price is not allowed for MARKET"
    else if p.triggerPrice.isSome then .error "payload.trigger_price is not allowed for MARKET"
    else .ok ()
  else if orderType = "LIMIT" then
    if !p.limitPrice.any (0 < ·) then .error "payload.limit_price must be positive for LIMIT"
    else if trimSpace p.timeInForce = "" then .error "payload.time_in_force is required for LIMIT"
    else if p.triggerPrice.isSome then .error "payload.trigger_price is not allowed for LIMIT"
    else .ok ()
  else if orderType = "STOP_MARKET" ∨ orderType = "TAKE_PROFIT_MARKET" then
    if !p.triggerPrice.any (0 < ·) then
      .error "payload.trigger_price must be positive for STOP_MARKET/TAKE_PROFIT_MARKET"
    else if p.limitPrice.isSome then
      .error "payload.limit_price is not allowed for STOP_MARKET/TAKE_PROFIT_MARKET"
    else .ok ()
  else .error ("unsupported payload.order_type: " ++ p.orderType)

/-- `Envelope.Validate`; `internal/service/envelope.go:46-104`. -/
def GoEnvelope.validate (e : GoEnvelope) : Except String Unit :=
  if trimSpace e.traceId = "" then .error "trace_id is required"
  else if trimSpace e.decisionId = "" then .error "decision_id is required"
  else if upper (trimSpace e.mode) ≠ "REAL" then
    .error ("real execution service only accepts mode REAL, got " ++ e.mode)
  else if trimSpace e.idempotencyKey = "" then .error "idempotency_key is required"
  else if trimSpace e.eventType ≠ "execution.intent.created" then
    .error ("unexpected event_type " ++ e.eventType)
  else if trimSpace e.payload.symbol = "" then .error "payload.symbol is required"
  else if trimSpace e.payload.exchange = "" then .error "payload.exchange is required"
  else if trimSpace e.payload.action = "" then .error "payload.action is required"
  else e.payload.validateOrderType

/-- `DecodeEnvelope`; `internal/service/envelope.go:35-44`. -/
def decodeEnvelope (envelope : IntentEnvelope) : Except String GoEnvelope := do
  let payload ← (envelope.payload.map decodePayload).getD (.ok {})
  let decoded : GoEnvelope :=
    { traceId := envelope.traceId.getD ""
      decisionId := envelope.decisionId.getD ""
      mode := envelope.mode.getD ""
      idempotencyKey := envelope.idempotencyKey.getD ""
      eventType := envelope.eventType.getD ""
      emittedAt := envelope.emittedAt.getD ""
      payload }
  decoded.validate
  return decoded

/-! ### Commands -/

/-- The actions the handler knows. -/
def parseBridgeAction (action : String) : Option Action :=
  if action = "BUY" then some .buy
  else if action = "SELL" then some .sell
  else if action = "CLOSE" then some .close
  else if action = "CANCEL" then some .cancel
  else none

/-- The order type the handler passes on; `handler.go:81-84`. -/
def handlerOrderType (orderType : String) : String :=
  let normalized := upper (trimSpace orderType)
  if normalized = "" then "MARKET" else normalized

variable (deps : HandlerDeps) (now : String) (store : DispatchStore) (envelope : GoEnvelope)
  (command : Command) (reply : Except String BridgeResult)

/-- The command of an envelope that creates an order; `handler.go:80-114`. -/
def createCommand (action : Action) : Command :=
  let payload := envelope.payload
  newCreateOrderCommand ("cmd-" ++ envelope.decisionId) envelope.idempotencyKey action
    payload.exchange payload.symbol |payload.quantity| envelope.traceId envelope.decisionId
    payload.clientOrderId (handlerOrderType payload.orderType)
    (upper (trimSpace payload.timeInForce)) payload.limitPrice payload.triggerPrice
    (payload.reduceOnly || decide (action = .close))

/-- The command of an envelope and an action, before its validation;
`handler.go:80-133`. -/
def bridgeCommand (action : Action) : Except String Command :=
  let payload := envelope.payload
  match action with
  | .cancel =>
    .ok (newCancelOrderCommand ("cmd-" ++ envelope.decisionId) envelope.idempotencyKey
      payload.exchange payload.symbol payload.exchangeOrderId payload.clientOrderId
      envelope.traceId envelope.decisionId)
  | _ =>
    if |payload.quantity| = 0 then
      .error ("quantity must be non-zero for " ++ action.name ++ " action")
    else .ok (createCommand envelope action)

/-- `toBridgeCommand`; `handler.go:78-137`. -/
def toBridgeCommand : Except String (Command × String) :=
  let action := upper (trimSpace envelope.payload.action)
  (parseBridgeAction action).elim (.error ("unsupported action: " ++ action)) fun action => do
    let command ← bridgeCommand envelope action
    command.validate
    return (command, envelope.idempotencyKey ++ ":" ++ command.operation.name)

/-! ### Idempotency store -/

/-- `idempotency.Status`. -/
inductive DispatchStatus where
  | started
  | completed
  | failed
  deriving DecidableEq

/-- `idempotency.Record`. -/
structure DispatchRecord where
  dispatchKey : String
  status : DispatchStatus
  orderId : String := ""
  updatedAt : String
  lastError : String := ""
  deriving DecidableEq

/-- `InMemoryStore`. -/
abbrev DispatchStore := Dict String DispatchRecord

/-- `TryStart`; `none` when the key is taken. `store.go:44-57`. -/
def DispatchStore.tryStart (dispatchKey now : String) : Option DispatchStore :=
  match store.get? dispatchKey with
  | some _ => none
  | none => some (store.set dispatchKey { dispatchKey, status := .started, updatedAt := now })

/-! ### Lifecycle events -/

/-- `firstNonEmpty`; `handler.go:211-219`. -/
def firstNonEmpty (values : List String) : String :=
  ((values.map trimSpace).find? (· ≠ "")).getD ""

/-- Event type and status text of a reply; `handler.go:150-169`. -/
def replyStatus : String × String :=
  match reply with
  | .error _ => ("oms.order.rejected", "REJECTED")
  | .ok result =>
    let status := upper (trimSpace result.status)
    if status = "FILLED" then ("oms.order.filled", status)
    else if status = "PARTIALLY_FILLED" then ("oms.order.partially_filled", status)
    else if status = "CANCELLED" ∨ status = "CANCELED" then ("oms.order.canceled", status)
    else if status = "REJECTED" then ("oms.order.rejected", status)
    else ("oms.order.submitted", "SUBMITTED")

/-- The exchange's order id in a reply, empty after a bridge error. -/
def replyOrderId : String :=
  match reply with
  | .error _ => ""
  | .ok result => result.orderId

/-- The order id of a lifecycle event; `handler.go:171-176`. -/
def handlerOrderId : String :=
  firstNonEmpty [replyOrderId reply, command.exchangeOrderId, command.clientOrderId,
    "order-" ++ envelope.decisionId]

/-- The message of `publishLifecycleEvent`; `handler.go:149-208`. -/
def lifecycleEvent : OrderEnvelope :=
  { traceId := some envelope.traceId
    decisionId := some envelope.decisionId
    mode := some "REAL"
    idempotencyKey := some ((replyStatus reply).1 ++ ":" ++ envelope.idempotencyKey)
    eventType := some (replyStatus reply).1
    emittedAt := some now
    payload := some
      { strategyId := some envelope.payload.strategyId
        orderId := some (handlerOrderId envelope command reply)
        exchangeOrderId := some (firstNonEmpty [replyOrderId reply, command.exchangeOrderId])
        clientOrderId := some command.clientOrderId
        exchange := some command.exchange
        symbol := some command.symbol
        mode := some "REAL"
        action := some command.action.name
        orderType := some command.orderType.name
        timeInForce := some command.timeInForce
        limitPrice := .ofOption command.limitPrice
        triggerPrice := .ofOption command.triggerPrice
        reduceOnly := some command.reduceOnly
        quantity := .num |command.quantity|
        status := some (replyStatus reply).2
        error :=
          match reply with
          | .error text => some text
          | .ok _ => none }
    service := some "real_execution_go" }

/-! ### Handling -/

/-- What the handler is built with: the bridge, and the publisher if there is one. A publisher
returns the error of a message it could not publish. -/
structure HandlerDeps where
  execute : Command → Except String BridgeResult
  publish : Option (OrderEnvelope → Option String)

/-- What one call leaves: the store, the command that reached the bridge, the message that was
published, and the error. -/
structure HandleResult where
  store : DispatchStore
  command : Option Command := none
  published : Option OrderEnvelope := none
  error : Option String := none

/-- The record of a reply; `store.go:59-81`. -/
def replyRecord (dispatchKey now : String) (reply : Except String BridgeResult) : DispatchRecord :=
  match reply with
  | .error text => { dispatchKey, status := .failed, updatedAt := now, lastError := text }
  | .ok result => { dispatchKey, status := .completed, updatedAt := now, orderId := result.orderId }

/-- The error a call returns for a reply and an error of the publisher;
`handler.go:64-76`. -/
def handleError (publishError : Option String) : Option String :=
  match reply, publishError with
  | .error text, none => some ("bridge execute failed: " ++ text)
  | .error text, some failure =>
    some ("bridge execute failed: " ++ text ++ "; publish failed: " ++ failure)
  | .ok _, none => none
  | .ok _, some failure => some ("publish lifecycle event failed: " ++ failure)

/-- `Handle` once the dispatch key is taken; `handler.go:63-76`. -/
def dispatchCommand (dispatchKey : String) : HandleResult :=
  let reply := deps.execute command
  let store := store.set dispatchKey (replyRecord dispatchKey now reply)
  let message := lifecycleEvent now envelope command reply
  match deps.publish with
  | none => { store, command := some command, error := handleError reply none }
  | some publish =>
    { store
      command := some command
      published := if (publish message).isNone then some message else none
      error := handleError reply (publish message) }

/-- `Handle`; `handler.go:48-76`. -/
def handle (envelope : IntentEnvelope) : HandleResult :=
  match decodeEnvelope envelope with
  | .error text => { store, error := some text }
  | .ok decoded =>
    match toBridgeCommand decoded with
    | .error text => { store, error := some text }
    | .ok (command, dispatchKey) =>
      match store.tryStart dispatchKey now with
      | none => { store }
      | some started => dispatchCommand deps now started decoded command dispatchKey

variable {payload : IntentPayload} {decoded : GoEnvelope} {dispatchKey : String}

/-- An intent that can be read takes its key or is skipped. -/
theorem handle_of_command {deps : HandlerDeps} {now : String} {store : DispatchStore}
    {envelope : IntentEnvelope} {command : Command}
    (hdecode : decodeEnvelope envelope = .ok decoded)
    (hcommand : toBridgeCommand decoded = .ok (command, dispatchKey)) :
    handle deps now store envelope =
      match store.tryStart dispatchKey now with
      | none => { store }
      | some started => dispatchCommand deps now started decoded command dispatchKey := by
  unfold handle
  rw [hdecode]
  dsimp only
  rw [hcommand]

/-- What a call does: nothing reaches the bridge and nothing is published, or the command of the
intent reaches the bridge under a key that was free, and the reply is published if it can be. -/
inductive HandleCase (deps : HandlerDeps) (now : String) (store : DispatchStore)
    (envelope : IntentEnvelope) (result : HandleResult) : Prop where
  | silent : result.command = none → result.published = none →
      HandleCase deps now store envelope result
  | dispatched (decoded : GoEnvelope) (command : Command) (dispatchKey : String) :
      decodeEnvelope envelope = .ok decoded → toBridgeCommand decoded = .ok (command, dispatchKey) →
      store.get? dispatchKey = none → result.command = some command →
      result.published = (deps.publish.bind fun publish =>
        let message := lifecycleEvent now decoded command (deps.execute command)
        if (publish message).isNone then some message else none) →
      HandleCase deps now store envelope result

/-- Every call is one of the two cases. -/
theorem handle_cases (envelope : IntentEnvelope) :
    HandleCase deps now store envelope (handle deps now store envelope) := by
  unfold handle
  split
  · exact .silent rfl rfl
  · next decoded hdecoded =>
    split
    · exact .silent rfl rfl
    · next command dispatchKey hcmd =>
      split
      · exact .silent rfl rfl
      · next started hstarted =>
        have hfree : store.get? dispatchKey = none := by
          unfold DispatchStore.tryStart at hstarted
          split at hstarted
          · cases hstarted
          · assumption
        unfold dispatchCommand
        dsimp only
        split
        · next hn =>
          exact .dispatched decoded command dispatchKey hdecoded hcmd hfree rfl
            (by rw [hn]; rfl)
        · next publish hsome =>
          exact .dispatched decoded command dispatchKey hdecoded hcmd hfree rfl
            (by rw [hsome]; rfl)

/-- What the command of a decoded intent takes from it. -/
theorem toBridgeCommand_eq_ok {envelope : GoEnvelope} {command : Command}
    (h : toBridgeCommand envelope = .ok (command, dispatchKey)) :
    ∃ action, parseBridgeAction (upper (trimSpace envelope.payload.action)) = some action ∧
      bridgeCommand envelope action = .ok command ∧ command.validate = .ok () ∧
      dispatchKey = envelope.idempotencyKey ++ ":" ++ command.operation.name := by
  unfold toBridgeCommand at h
  dsimp only at h
  cases hact : parseBridgeAction (upper (trimSpace envelope.payload.action)) with
  | none => rw [hact, Option.elim_none] at h; cases h
  | some action =>
    rw [hact, Option.elim_some] at h
    cases hcmd : bridgeCommand envelope action with
    | error text => rw [hcmd] at h; cases h
    | ok built =>
      cases hv : built.validate with
      | error text => simp only [hcmd, bind, Except.bind, hv] at h; cases h
      | ok =>
        simp only [hcmd, bind, Except.bind, hv, pure, Except.pure] at h
        cases h
        exact ⟨action, rfl, hcmd, hv, rfl⟩

/-- A command that creates an order takes its symbol, its action, the size of its quantity and the
client's id from the intent, and no exchange id. -/
theorem bridgeCommand_eq_ok {envelope : GoEnvelope} {action : Action} {command : Command}
    (h : bridgeCommand envelope action = .ok command) (hcreate : action ≠ .cancel) :
    command.symbol = envelope.payload.symbol ∧ command.action = action ∧
      command.quantity = |envelope.payload.quantity| ∧
      command.clientOrderId = envelope.payload.clientOrderId ∧ command.exchangeOrderId = "" := by
  unfold bridgeCommand at h
  dsimp only at h
  split at h
  · exact absurd rfl hcreate
  · split at h
    · cases h
    · cases h
      exact ⟨rfl, rfl, rfl, rfl, rfl⟩

/-- What a decoded payload takes from the message, with its quantity as Python reads it. -/
theorem decodePayload_eq_ok {decoded : GoIntentPayload} (h : decodePayload payload = .ok decoded) :
    decoded.symbol = payload.symbol.getD "" ∧ decoded.action = payload.action.getD "" ∧
      decoded.clientOrderId = payload.clientOrderId.getD "" ∧
      payload.quantity.toFloat = .ok decoded.quantity := by
  unfold decodePayload at h
  cases hlimit : decodeNumber "limit_price" payload.limitPrice with
  | error text => rw [hlimit] at h; cases h
  | ok limitPrice =>
    cases htrigger : decodeNumber "trigger_price" payload.triggerPrice with
    | error text => rw [hlimit, htrigger] at h; cases h
    | ok triggerPrice =>
      cases hq : decodeNumber "quantity" payload.quantity with
      | error text => rw [hlimit, htrigger, hq] at h; cases h
      | ok quantity =>
        rw [hlimit, htrigger, hq] at h
        cases h
        refine ⟨rfl, rfl, rfl, ?_⟩
        dsimp only
        cases hfield : payload.quantity with
        | absent | null | num => rw [hfield] at hq; cases hq; rfl
        | invalid raw => rw [hfield] at hq; cases hq

/-- A decoded envelope is valid, and its payload is decoded from the message's. -/
theorem decodeEnvelope_eq_ok {envelope : IntentEnvelope} (h : decodeEnvelope envelope = .ok decoded)
    (hpayload : envelope.payload = some payload) :
    decodePayload payload = .ok decoded.payload ∧ decoded.validate = .ok () := by
  unfold decodeEnvelope at h
  rw [hpayload, Option.map_some, Option.getD_some] at h
  cases hdecoded : decodePayload payload with
  | error text => rw [hdecoded] at h; cases h
  | ok built =>
    rw [hdecoded] at h
    simp only [bind, Except.bind, pure, Except.pure] at h
    split at h
    · cases h
    · next hv =>
      cases h
      exact ⟨rfl, hv⟩

end OpenTrader.Execution
