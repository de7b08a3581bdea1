import OpenTrader.Base.Trace
import OpenTrader.Execution.Intent
import OpenTrader.Worker.Order

/-!
# Steps of the lifecycle worker

Library `Worker`. `services/workers/execution_lifecycle.py:320-385,418-420,512-559`. The worker
tracks REAL intents, applies status snapshots to the order they resolve to, and evicts terminal
orders. `run_once` takes these steps in some order that depends on its queues and timers; a run
here takes them in any order.
-/

namespace OpenTrader.Worker
open Base Oms Execution

/-- Settings of the worker. -/
structure WorkerConfig where
  terminalRetentionSeconds : ℚ := 600
  maxTrackedOrders : Int := 10000

/-- `_tracked_orders`, by idempotency key. -/
abbrev TrackedOrders := Dict String TrackedLifecycleOrder

/-! ### Intents -/

/-- The actions an intent is tracked for. -/
def parseAction (action : String) : Option OrderAction :=
  if action = "BUY" then some .buy
  else if action = "SELL" then some .sell
  else if action = "CLOSE" then some .close
  else none

private theorem isUuid_getD {text : Option String} (h : text.any isUuid = true) :
    isUuid (text.getD "") = true := by
  cases text with
  | none => cases h
  | some text => simpa only [Option.any_some, Option.getD_some] using h

/-- The order built from a valid intent and the size of its quantity;
`execution_lifecycle.py:333-351,366-384`. -/
def newOrder (envelope : IntentEnvelope) (payload : IntentPayload) (quantity : ℚ)
    (hvalid : validateEnvelope envelope = .ok ()) : Option TrackedLifecycleOrder :=
  let idempotencyKey := strip (envelope.idempotencyKey.getD "")
  let exchange := lower (strip (payload.exchange.getD "binance"))
  let symbol := strip (payload.symbol.getD "")
  match parseAction (upper (strip (payload.action.getD ""))) with
  | none => none
  | some action =>
    if h : idempotencyKey ≠ "" ∧ exchange ≠ "" ∧ symbol ≠ "" ∧ 0 < quantity then
      some
        { traceId := envelope.traceId.getD ""
          decisionId := envelope.decisionId.getD ""
          idempotencyKey
          strategyId := payload.strategyId.getD ""
          exchange
          symbol := upper symbol
          action
          orderType :=
            if truthy payload.orderType then upper (payload.orderType.getD "") else "MARKET"
          timeInForce := stripOrNone payload.timeInForce
          limitPrice := payload.limitPrice.positiveOrNone
          triggerPrice := payload.triggerPrice.positiveOrNone
          reduceOnly := payload.reduceOnly.getD false
          requestedQuantity := quantity
          clientOrderId := stripOrNone payload.clientOrderId
          exchangeOrderId := stripOrNone payload.exchangeOrderId
          validIds :=
            ⟨isUuid_getD ((validateEnvelope_ok_iff envelope).mp hvalid).1,
              isUuid_getD ((validateEnvelope_ok_iff envelope).mp hvalid).2.1⟩
          keyed := by rw [strip_strip]; exact h.1
          named := ⟨strip_upper_strip _, fun he => h.2.2.1 ((upper_eq_empty_iff _).mp he)⟩
          requested_pos := h.2.2.2
          reported_nonneg := le_refl 0
          fee_nonneg := le_refl 0 }
    else none

/-- What `_track_execution_intent` reads from an envelope; the error is a quantity that `float`
refuses. `execution_lifecycle.py:321-351`. -/
def intentOrder (envelope : IntentEnvelope) : Except String (Option TrackedLifecycleOrder) :=
  match hvalid : validateEnvelope envelope with
  | .error _ => .ok none
  | .ok () =>
    if upper (envelope.mode.getD "") ≠ "REAL" ∨
        envelope.eventType.getD "" ≠ "execution.intent.created" then .ok none
    else
      match envelope.payload with
      | none => .ok none
      | some payload =>
        payload.quantity.toFloat.map fun quantity => newOrder envelope payload |quantity| hvalid

/-- An order as `_track_execution_intent` creates it: nothing reported, nothing emitted. -/
structure IsFresh (order : TrackedLifecycleOrder) : Prop where
  status_eq : order.status = .submitted
  reported_eq : order.reportedFilledQuantity = 0
  fee_eq : order.reportedFeeTotal = 0
  average_eq : order.averagePrice = none
  emitted_eq : order.emittedEvents = 0

/-- What an order built from an intent takes from it. -/
structure FromIntent (envelope : IntentEnvelope) (payload : IntentPayload) (quantity : ℚ)
    (order : TrackedLifecycleOrder) : Prop where
  key_eq : order.idempotencyKey = strip (envelope.idempotencyKey.getD "")
  exchange_eq : order.exchange = lower (strip (payload.exchange.getD "binance"))
  symbol_eq : order.symbol = upper (strip (payload.symbol.getD ""))
  action_eq : parseAction (upper (strip (payload.action.getD ""))) = some order.action
  quantity_eq : order.requestedQuantity = quantity
  client_eq : order.clientOrderId = stripOrNone payload.clientOrderId
  exchangeId_eq : order.exchangeOrderId = stripOrNone payload.exchangeOrderId
  fresh : IsFresh order

variable {envelope : IntentEnvelope}

private theorem fromIntent_of_newOrder {payload : IntentPayload} {quantity : ℚ}
    {hv : validateEnvelope envelope = .ok ()} {order : TrackedLifecycleOrder}
    (h : newOrder envelope payload quantity hv = some order) :
    FromIntent envelope payload quantity order := by
  unfold newOrder at h
  dsimp only at h
  split at h
  · cases h
  · next action hact =>
    split at h
    · cases h
      exact ⟨rfl, rfl, rfl, hact, rfl, rfl, rfl, ⟨rfl, rfl, rfl, rfl, rfl⟩⟩
    · cases h

/-- A tracked intent is a valid REAL intent, and its order is built from the payload. -/
theorem fromIntent_of_intentOrder {order : TrackedLifecycleOrder}
    (h : intentOrder envelope = .ok (some order)) :
    ∃ payload quantity, envelope.payload = some payload ∧
      payload.quantity.toFloat = .ok quantity ∧ FromIntent envelope payload |quantity| order := by
  unfold intentOrder at h
  split at h
  · cases h
  · split at h
    · cases h
    · split at h
      · cases h
      · next payload hbody =>
        cases hq : payload.quantity.toFloat with
        | error raw => rw [hq] at h; cases h
        | ok quantity =>
          rw [hq] at h
          exact ⟨payload, quantity, hbody, hq, fromIntent_of_newOrder (Except.ok.inj h)⟩

/-- A tracked intent starts a fresh order. -/
theorem isFresh_of_intentOrder {order : TrackedLifecycleOrder}
    (h : intentOrder envelope = .ok (some order)) : IsFresh order := by
  obtain ⟨payload, quantity, -, -, hfrom⟩ := fromIntent_of_intentOrder h
  exact hfrom.fresh

/-- A further intent under a tracked key; `execution_lifecycle.py:352-359`. -/
def amend (existing intent : TrackedLifecycleOrder) : TrackedLifecycleOrder :=
  { existing with
    clientOrderId :=
      if truthy intent.clientOrderId then intent.clientOrderId else existing.clientOrderId
    exchangeOrderId :=
      if truthy intent.exchangeOrderId then intent.exchangeOrderId else existing.exchangeOrderId
    requestedQuantity := intent.requestedQuantity
    requested_pos := intent.requested_pos
    action := intent.action }

variable (config : WorkerConfig) (now : ℚ) (uuid5 : Uuid5)

/-- The orders an eviction removes; `execution_lifecycle.py:550-557`. -/
def isRemovable (force : Bool) (order : TrackedLifecycleOrder) : Bool :=
  order.isTerminal &&
    match order.terminalMarkedAtMonotonic with
    | none => true
    | some markedAt => force || decide (now - markedAt ≥ max 0 config.terminalRetentionSeconds)

/-- `_evict_terminal_orders`; `execution_lifecycle.py:544-559`. -/
def evictTerminalOrders (force : Bool) (orders : TrackedOrders) : TrackedOrders :=
  orders.filter fun _ order => !isRemovable config now force order

/-- No room for another order; `execution_lifecycle.py:266,361,363`. -/
def atCapacity (orders : TrackedOrders) : Bool :=
  decide ((orders.size : Int) ≥ max 10 config.maxTrackedOrders)

/-- A forced eviction when there is no room; `execution_lifecycle.py:361-362`. -/
def makeRoom (orders : TrackedOrders) : TrackedOrders :=
  if atCapacity config orders then evictTerminalOrders config now true orders else orders

/-- `_track_execution_intent`; `execution_lifecycle.py:320-385`. -/
def trackExecutionIntent (orders : TrackedOrders) (envelope : IntentEnvelope) :
    TrackedOrders × Except String (Option TrackedLifecycleOrder) :=
  match intentOrder envelope with
  | .error raw => (orders, .error raw)
  | .ok none => (orders, .ok none)
  | .ok (some intent) =>
    match orders.get? intent.idempotencyKey with
    | some existing =>
      let amended := amend existing intent
      (orders.set intent.idempotencyKey amended, .ok (some amended))
    | none =>
      let room := makeRoom config now orders
      if atCapacity config room then (room, .ok none)
      else (room.set intent.idempotencyKey intent, .ok (some intent))

/-! ### Snapshots -/

/-- The first order of an exchange whose recorded id is the snapshot's;
`execution_lifecycle.py:517-530`. -/
def findById (orders : TrackedOrders) (exchange : String)
    (recorded : TrackedLifecycleOrder → Option String) (id : Option String) :
    Option (String × TrackedLifecycleOrder) :=
  if truthy id then
    orders.entries.find? fun e => e.2.exchange == exchange && truthy (recorded e.2) &&
      recorded e.2 == some (strip (id.getD ""))
  else none

/-- The only order of an exchange in a symbol; `execution_lifecycle.py:532-542`. -/
def findBySymbol (orders : TrackedOrders) (exchange symbol : String) :
    Option (String × TrackedLifecycleOrder) :=
  if symbol = "" then none
  else
    match orders.entries.filter fun e => e.2.exchange == exchange && e.2.symbol == symbol with
    | [candidate] => some candidate
    | _ => none

/-- `_resolve_order`, with the key of the order; `execution_lifecycle.py:512-542`. -/
def resolveOrder (orders : TrackedOrders) (snapshot : LifecycleStatusSnapshot) :
    Option (String × TrackedLifecycleOrder) :=
  let exchange := lower (strip snapshot.exchange)
  if exchange = "" then none
  else
    ((findById orders exchange (·.exchangeOrderId) snapshot.exchangeOrderId).or
      (findById orders exchange (·.clientOrderId) snapshot.clientOrderId)).or
      (findBySymbol orders exchange (upper (strip snapshot.symbol)))

/-- `_apply_snapshot`; `execution_lifecycle.py:418-510`. The published event comes with the key of
its order. -/
def applySnapshot (clock : Clock) (source : SnapshotSource) (orders : TrackedOrders)
    (snapshot : LifecycleStatusSnapshot) : TrackedOrders × Option (String × PublishedEvent) :=
  match resolveOrder orders snapshot with
  | none => (orders, none)
  | some (key, order) =>
    let result := applyToOrder uuid5 clock source order snapshot
    (orders.set key result.1, result.2.map fun event => (key, event))

/-! ### Steps -/

/-- What the worker can be given. -/
inductive WorkerInput where
  | intent (envelope : IntentEnvelope) (now : ℚ)
  | snapshot (snapshot : LifecycleStatusSnapshot) (source : SnapshotSource) (clock : Clock)
  | evict (now : ℚ)

/-- One step of the worker with the event it publishes. -/
def step (orders : TrackedOrders) : WorkerInput → TrackedOrders × Option (String × PublishedEvent)
  | .intent envelope now => ((trackExecutionIntent config now orders envelope).1, none)
  | .snapshot snapshot source clock => applySnapshot uuid5 clock source orders snapshot
  | .evict now => (evictTerminalOrders config now false orders, none)

/-- The orders after one step. -/
def trackStep (orders : TrackedOrders) (input : WorkerInput) : TrackedOrders :=
  (step config uuid5 orders input).1

/-! ### What a step does to one order -/

/-- The event a step publishes for the order under a key. -/
def eventFor (result : TrackedOrders × Option (String × PublishedEvent)) (key : String) :
    Option PublishedEvent :=
  result.2.bind fun e => if e.1 = key then some e.2 else none

/-- What a step can do to the order under a key: the order before, the order after and the
event published for it. -/
inductive KeyStep (uuid5 : Uuid5) (orders : TrackedOrders) (key : String) :
    WorkerInput → Option TrackedLifecycleOrder → Option TrackedLifecycleOrder →
      Option PublishedEvent → Prop where
  | kept (input : WorkerInput) (order : Option TrackedLifecycleOrder) :
      KeyStep uuid5 orders key input order order none
  | evicted (input : WorkerInput) (order : TrackedLifecycleOrder) : order.isTerminal →
      KeyStep uuid5 orders key input (some order) none none
  | created (envelope : IntentEnvelope) (now : ℚ) (order : TrackedLifecycleOrder) :
      intentOrder envelope = .ok (some order) →
      KeyStep uuid5 orders key (.intent envelope now) none (some order) none
  | amended (envelope : IntentEnvelope) (now : ℚ) (order intent after : TrackedLifecycleOrder) :
      intentOrder envelope = .ok (some intent) → intent.idempotencyKey = key →
      after = amend order intent →
      KeyStep uuid5 orders key (.intent envelope now) (some order) (some after) none
  | reported (snapshot : LifecycleStatusSnapshot) (source : SnapshotSource) (clock : Clock)
      (order after : TrackedLifecycleOrder) (event : Option PublishedEvent) :
      resolveOrder orders snapshot = some (key, order) →
      applyToOrder uuid5 clock source order snapshot = (after, event) →
      KeyStep uuid5 orders key (.snapshot snapshot source clock) (some order) (some after) event

/-- A resolved order is tracked under the key it is resolved with. -/
theorem get?_of_resolveOrder {orders : TrackedOrders} {snapshot : LifecycleStatusSnapshot}
    {key : String} {order : TrackedLifecycleOrder}
    (h : resolveOrder orders snapshot = some (key, order)) : orders.get? key = some order := by
  rw [Dict.get?_eq_some_iff]
  have hid : ∀ exchange recorded id, findById orders exchange recorded id = some (key, order) →
      (key, order) ∈ orders.entries := by
    intro exchange recorded id hf
    unfold findById at hf
    split at hf
    · exact List.mem_of_find?_eq_some hf
    · cases hf
  have hsym : ∀ exchange symbol, findBySymbol orders exchange symbol = some (key, order) →
      (key, order) ∈ orders.entries := by
    intro exchange symbol hf
    unfold findBySymbol at hf
    split at hf
    · cases hf
    · split at hf
      · next candidate hc =>
        cases hf
        exact List.mem_of_mem_filter (hc ▸ List.mem_singleton_self _)
      · cases hf
  unfold resolveOrder at h
  dsimp only at h
  split at h
  · cases h
  · rw [Option.or_eq_some_iff, Option.or_eq_some_iff] at h
    rcases h with (h | ⟨-, h⟩) | ⟨-, h⟩
    · exact hid _ _ _ h
    · exact hid _ _ _ h
    · exact hsym _ _ h

private theorem evict_keyStep (config : WorkerConfig) (now : ℚ) (force : Bool)
    (orders : TrackedOrders) (key : String) (input : WorkerInput) :
    KeyStep uuid5 orders key input (orders.get? key)
      ((evictTerminalOrders config now force orders).get? key) none := by
  rw [evictTerminalOrders, Dict.get?_filter]
  cases orders.get? key with
  | none => exact .kept input none
  | some order =>
    rw [Option.filter_some]
    cases h : isRemovable config now force order with
    | false => exact .kept input _
    | true => exact .evicted input order (Bool.and_eq_true_iff.mp h).1

private theorem makeRoom_keyStep (config : WorkerConfig) (now : ℚ) (orders : TrackedOrders)
    (key : String) (input : WorkerInput) :
    KeyStep uuid5 orders key input (orders.get? key) ((makeRoom config now orders).get? key)
      none := by
  unfold makeRoom
  split
  · exact evict_keyStep uuid5 config now true orders key input
  · exact .kept _ _

section

variable {orders : TrackedOrders} {snapshot : LifecycleStatusSnapshot} {key : String}
  {order : TrackedLifecycleOrder}

variable (uuid5 : Uuid5) (clock : Clock) (source : SnapshotSource)

/-- The resolved order is replaced by the outcome of the snapshot. -/
theorem applySnapshot_get? (h : resolveOrder orders snapshot = some (key, order)) :
    (applySnapshot uuid5 clock source orders snapshot).1.get? key =
      some (applyToOrder uuid5 clock source order snapshot).1 := by
  simp only [applySnapshot, h, Dict.get?_set_self]

/-- What is published for the resolved order is what the snapshot emits. -/
theorem eventFor_applySnapshot (h : resolveOrder orders snapshot = some (key, order)) :
    eventFor (applySnapshot uuid5 clock source orders snapshot) key =
      (applyToOrder uuid5 clock source order snapshot).2 := by
  simp only [applySnapshot, h, eventFor]
  cases (applyToOrder uuid5 clock source order snapshot).2 <;> simp

/-- A snapshot leaves the orders it does not resolve to alone. -/
theorem applySnapshot_of_ne (h : ∀ o, resolveOrder orders snapshot ≠ some (key, o)) :
    (applySnapshot uuid5 clock source orders snapshot).1.get? key = orders.get? key ∧
      eventFor (applySnapshot uuid5 clock source orders snapshot) key = none := by
  unfold applySnapshot
  split
  · exact ⟨rfl, rfl⟩
  · next resolved o hr =>
    have hk : resolved ≠ key := fun hk => h o (hk ▸ hr)
    refine ⟨Dict.get?_set_of_ne _ _ hk, ?_⟩
    unfold eventFor
    cases (applyToOrder uuid5 clock source o snapshot).2 <;> simp [hk]

end

private theorem snapshot_keyStep (orders : TrackedOrders) (key : String)
    (snapshot : LifecycleStatusSnapshot) (source : SnapshotSource) (clock : Clock) :
    KeyStep uuid5 orders key (.snapshot snapshot source clock) (orders.get? key)
      ((applySnapshot uuid5 clock source orders snapshot).1.get? key)
      (eventFor (applySnapshot uuid5 clock source orders snapshot) key) := by
  by_cases h : ∃ order, resolveOrder orders snapshot = some (key, order)
  · obtain ⟨order, hr⟩ := h
    rw [get?_of_resolveOrder hr, applySnapshot_get? uuid5 clock source hr,
      eventFor_applySnapshot uuid5 clock source hr]
    exact .reported snapshot source clock order _ _ hr Prod.mk.eta.symm
  · obtain ⟨hg, hev⟩ := applySnapshot_of_ne uuid5 clock source (not_exists.mp h)
    rw [hg, hev]
    exact .kept _ _

private theorem intent_keyStep (config : WorkerConfig) (orders : TrackedOrders) (key : String)
    (envelope : IntentEnvelope) (now : ℚ) :
    KeyStep uuid5 orders key (.intent envelope now) (orders.get? key)
      ((trackExecutionIntent config now orders envelope).1.get? key) none := by
  unfold trackExecutionIntent
  split
  · exact .kept _ _
  · exact .kept _ _
  · next intent hi =>
    split
    · next existing he =>
      by_cases hk : intent.idempotencyKey = key
      · subst hk
        rw [he, Dict.get?_set_self]
        exact .amended envelope now existing intent _ hi rfl rfl
      · rw [Dict.get?_set_of_ne _ _ hk]
        exact .kept _ _
    · next hn =>
      dsimp only
      split
      · exact makeRoom_keyStep uuid5 config now orders key _
      · by_cases hk : intent.idempotencyKey = key
        · subst hk
          rw [hn, Dict.get?_set_self]
          exact .created envelope now intent hi
        · rw [Dict.get?_set_of_ne _ _ hk]
          exact makeRoom_keyStep uuid5 config now orders key _

/-- Every step is one of the five cases at every key. -/
theorem step_keyStep (orders : TrackedOrders) (input : WorkerInput) (key : String) :
    KeyStep uuid5 orders key input (orders.get? key)
      ((step config uuid5 orders input).1.get? key)
      (eventFor (step config uuid5 orders input) key) := by
  cases input with
  | intent envelope now => exact intent_keyStep uuid5 config orders key envelope now
  | snapshot snapshot source clock => exact snapshot_keyStep uuid5 orders key snapshot source clock
  | evict now => exact evict_keyStep uuid5 config now false orders key _

/-! ### Audited runs -/

/-- The worker with the events each tracked order has published since it was created. -/
structure AuditedWorker where
  orders : TrackedOrders := Dict.empty
  log : String → List PublishedEvent := fun _ => []

/-- One step with its log; an order that is not tracked has no log to continue. -/
def record (a : AuditedWorker) (input : WorkerInput) : AuditedWorker :=
  let result := step config uuid5 a.orders input
  { orders := result.1
    log := fun key =>
      if (a.orders.get? key).isNone then [] else a.log key ++ (eventFor result key).toList }

/-- What a step did to an order tracked after it, and the log the order has then. -/
theorem record_keyStep {config : WorkerConfig} {uuid5 : Uuid5} {a : AuditedWorker}
    {input : WorkerInput} {key : String} {order : TrackedLifecycleOrder}
    (h : (record config uuid5 a input).orders.get? key = some order) :
    ∃ event, KeyStep uuid5 a.orders key input (a.orders.get? key) (some order) event ∧
      (record config uuid5 a input).log key =
        if (a.orders.get? key).isNone then [] else a.log key ++ event.toList :=
  ⟨_, h ▸ step_keyStep config uuid5 a.orders input key, rfl⟩

/-- The outcome of a snapshot that resolves, with the log of its order. -/
theorem record_resolved {a : AuditedWorker} {snapshot : LifecycleStatusSnapshot} {key : String}
    {order : TrackedLifecycleOrder} (source : SnapshotSource) (clock : Clock)
    (h : resolveOrder a.orders snapshot = some (key, order)) :
    (record config uuid5 a (.snapshot snapshot source clock)).orders.get? key =
        some (applyToOrder uuid5 clock source order snapshot).1 ∧
      (record config uuid5 a (.snapshot snapshot source clock)).log key =
        a.log key ++ (applyToOrder uuid5 clock source order snapshot).2.toList := by
  simp only [record, step, applySnapshot_get? uuid5 clock source h, get?_of_resolveOrder h,
    Option.isNone_some, Bool.false_eq_true, if_false, eventFor_applySnapshot uuid5 clock source h,
    true_and]

/-! ### Sample inputs -/

/-- An identifier source that ignores its name. -/
def sampleUuid5 : Uuid5 :=
  ⟨fun _ => "6f1c7b0e-6d5f-5c2a-9a55-0d8b8f6f3b11", fun _ => by decide +kernel,
    fun _ => by decide +kernel⟩

/-- A clock reading. -/
def sampleClock : Clock := ⟨⟨"2026-01-01T00:00:00Z", by decide +kernel⟩, 0⟩

/-- A later clock reading. -/
def laterClock : Clock := ⟨⟨"2026-01-01T00:00:05Z", by decide +kernel⟩, 5⟩

/-- A REAL intent of an action and a quantity in `BTC/USDT`, with the ids it carries. -/
def sampleIntent (action : String) (quantity : ℚ) (clientOrderId exchangeOrderId : Option String) :
    IntentEnvelope :=
  { traceId := some "11111111-1111-1111-1111-111111111111"
    decisionId := some "22222222-2222-2222-2222-222222222222"
    mode := some "REAL"
    idempotencyKey := some "k"
    eventType := some "execution.intent.created"
    emittedAt := some "2026-01-01T00:00:00Z"
    payload := some { exchange := some "binance", symbol := some "BTC/USDT", action := some action,
                      quantity := .num quantity, clientOrderId, exchangeOrderId } }

/-- A snapshot of a status, a filled total and an average price for the order `exchangeOrderId`. -/
def sampleSnapshot (status : String) (total : ℚ) (averagePrice : Option ℚ)
    (exchangeOrderId : Option String) : LifecycleStatusSnapshot :=
  { exchange := "binance", symbol := "BTC/USDT", status, exchangeOrderId, clientOrderId := none,
    filledQuantityTotal := total, averagePrice, feeTotal := none }

end OpenTrader.Worker
