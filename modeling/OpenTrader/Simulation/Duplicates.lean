import OpenTrader.Oms.FillLedger
import OpenTrader.Simulation.Settlement

/-!
# Intents delivered twice

Library `Simulation`. `services/simulation_execution/worker.py:36-73` and the OMS behind it,
`services/workers/oms_lifecycle.py:84-205`. The broker delivers at least once, and the worker
executes every delivery: the id of the order comes from the idempotency key of the intent,
`services/simulation_execution/engine.py:362-365`, and is the same each time, but the position
ledger books each fill event, and a fill is known again by the time it was published.
-/

namespace OpenTrader.Simulation
open Base Oms Execution

/-! ### The worker -/

/-- What the worker raises. -/
inductive WorkerError where
  | safety (message : String)
  | engine (error : SimulationError)
  deriving DecidableEq

/-- `MockModeSafetyGuard.assert_mock_intent`;
`services/simulation_execution/safety_guard.py:26-33`. -/
def assertMockIntent (mode queueName : String) : Except WorkerError Unit :=
  if upper mode ≠ "MOCK" then
    .error (.safety ("Simulation worker accepts MOCK mode only, got " ++ mode))
  else if queueName ≠ "execution.intent.mock" then
    .error (.safety "Simulation worker must consume execution.intent.mock queue only")
  else .ok ()

/-- `SimulationExecutionWorker.run_once` on a consumed envelope: the events of the result are
published. `worker.py:36-73`. -/
def workerRunOnce (engine : Engine) (uuid5 : Uuid5) (now : UtcStamp) (envelope : IntentEnvelope) :
    Except WorkerError SimulationExecutionResult := do
  assertMockIntent (envelope.mode.getD "unknown") "execution.intent.mock"
  (executeIntent engine uuid5 now envelope).mapError .engine

/-- The BUY and SELL intents of a run, by idempotency key. -/
structure Outbox where
  message : String → IntentEnvelope
  keyed : ∀ key, (message key).idempotencyKey = some key
  trades : ∀ key, upper (((message key).payload.getD {}).action.getD "") ∈ ["BUY", "SELL"]

/-- One delivery of an intent to the worker: the clock of the worker, and the clock of the OMS at
each event it publishes. -/
structure IntentDelivery where
  key : String
  now : UtcStamp
  received : ℕ → String

section

variable (engine : Engine) (uuid5 : Uuid5) (base : ℚ) (outbox : Outbox)

variable (s : SimulationState) (d : IntentDelivery)

/-- What the worker does with a delivery. -/
def execution : Except WorkerError SimulationExecutionResult :=
  workerRunOnce engine uuid5 d.now (outbox.message d.key)

/-- The events of a delivery, as the OMS receives them; a delivery the worker raises on has none. -/
def orderUpdates : List Delivery :=
  match execution engine uuid5 outbox d with
  | .error _ => []
  | .ok result => result.events.zipIdx.map fun (event, i) => ⟨d.received i, event⟩

/-- The OMS, and the deliveries so far. -/
structure SimulationState where
  oms : RunnerState := {}
  delivered : List IntentDelivery := []

/-- One delivery, and the OMS consumes its events in order. -/
def deliverIntent : SimulationState :=
  { oms := run (receive base) s.oms (orderUpdates engine uuid5 outbox d)
    delivered := s.delivered ++ [d] }

/-- The signed quantity that a delivery fills in a symbol. -/
def filledIn (symbol : String) (d : IntentDelivery) : ℚ :=
  match execution engine uuid5 outbox d with
  | .error _ => 0
  | .ok result =>
    if result.symbol = symbol then signedMove result.action 0 (reportedFill result.events) else 0

/-- The signed sum of what is filled in a symbol, once for each key. -/
def netFilled (symbol : String) (delivered : List IntentDelivery) : ℚ :=
  ((distinctBy (·.key) delivered).map (filledIn engine uuid5 outbox symbol)).sum

/-- No order is filled beyond its requested quantity. -/
def WithinRequested (oms : RunnerState) : Prop :=
  ∀ id, ∀ order ∈ oms.orders.get? id, order.filledQuantity ≤ order.requestedQuantity

/-- Every intent counts once. -/
structure AppliedOnce (s : SimulationState) : Prop where
  position : ∀ symbol, s.oms.positions.quantity symbol =
    netFilled engine uuid5 outbox symbol s.delivered
  orders : WithinRequested s.oms

/-- The order of an accepted delivery fills, and what it fills is not zero. -/
def FillsOrder (order : SimulatedOrder) : Prop :=
  let payload := (outbox.message d.key).payload.getD {}
  (∃ result, execution engine uuid5 outbox d = .ok result) ∧
    readOrder uuid5 (outbox.message d.key) payload = .ok order ∧
    order.quantity ≠ 0 ∧ Fills payload order

/-- The delivery is the first of its key, and what it fills of the order is no dust and leaves
none. -/
def FreshFill (order : SimulatedOrder) : Prop :=
  d.key ∉ s.delivered.map (·.key) ∧ epsilon < order.quantity ∧
    let position := s.oms.positions.quantity order.symbol
    let moved := position + signedMove order.action position order.quantity
    snap moved = moved

/-- A delivery that fills is the first of its key, and what it fills is no dust and leaves none. -/
def FillsFresh : Prop :=
  ∀ order, FillsOrder engine uuid5 outbox d order → FreshFill s d order

end

/-! ### What the OMS makes of the events of an order -/

section

variable {base : ℚ} {oms : RunnerState} {order : SimulatedOrder}

section

variable {d : Delivery} {u : OrderUpdate} (hread : readUpdate d.now d.envelope = .ok (some u))
  (h : Ledger oms)
include hread h

private theorem withinRequested_receive
    (hown : aboveDust (countedTotal oms u) ≤ (existingOrder oms u).requestedQuantity)
    (hwithin : WithinRequested oms) : WithinRequested (receive base oms d) := by
  intro id found hfound
  rw [orders_receive hread] at hfound
  split at hfound
  · cases hfound
    rw [h.filledQuantity_eq hread]
    exact hown
  · exact hwithin id found hfound

private theorem withinRequested_of_quiet (hquiet : u.positionFill = none)
    (hreq : 0 ≤ u.requestedQuantity) (hwithin : WithinRequested oms) :
    WithinRequested (receive base oms d) := by
  have hn : u.event.toLifecycleEvent.fill = none := Option.map_eq_none_iff.mp hquiet
  apply withinRequested_receive hread h _ hwithin
  rw [countedTotal, reportedFills_eventsForOrder, hn, Option.toList_none, List.append_nil,
    existingOrder]
  cases hbefore : oms.orders.get? u.orderId with
  | none =>
    have hz : aboveDust (firstFillsTotal []) = 0 := by decide +kernel
    rw [h.ledgerFills_eq_nil hbefore]
    exact hz.trans_le hreq
  | some before =>
    rw [← h.counts _ before hbefore]
    exact hwithin u.orderId before hbefore

private theorem withinRequested_of_fill {fill : ReconciliationFill} {before : ReconciliationOrder}
    (hf : u.event.toLifecycleEvent.fill = some fill) (hfst : ledgerFills u.orderId oms = [])
    (hbefore : oms.orders.get? u.orderId = some before) (hquantity : 0 ≤ fill.quantity)
    (hreq : fill.quantity ≤ before.requestedQuantity) (hwithin : WithinRequested oms) :
    WithinRequested (receive base oms d) := by
  have htotal : countedTotal oms u ≤ fill.quantity := by
    rw [countedTotal, reportedFills_eventsForOrder, hfst, hf, Option.toList_some, List.nil_append,
      List.filter_singleton]
    cases spells u.orderId fill with
    | false => exact hquantity
    | true => simp [firstFillsTotal, distinctBy, distinctFrom]
  have hd : aboveDust (countedTotal oms u) ≤ fill.quantity := by
    unfold aboveDust
    split
    · exact htotal
    · exact hquantity
  apply withinRequested_receive hread h _ hwithin
  rw [existingOrder, hbefore, Option.getD_some]
  exact hd.trans hreq

end

private def HoldsMockOnly (oms : RunnerState) : Prop :=
  ∀ symbol, ∀ p ∈ oms.positions.get? symbol, p.mode = "MOCK"

variable (horder : Readable order)
include horder

section

variable {d : Delivery} {quantity : NumField} {eventType : String}

private theorem receive_unreadable {error : RunnerError} (oms : RunnerState)
    (htells : Tells order quantity eventType d.envelope)
    (hquantity : resolveRequestedQuantity quantity = .error error) : receive base oms d = oms := by
  rw [receive, runOnce, readUpdate_of_unreadable horder htells hquantity]

variable (hid : strip order.orderId = order.orderId) (hquantity : 0 < order.quantity)
include hid

variable (h : Ledger oms)
include h hquantity

private theorem receive_created
    (htells : Tells order (.num order.quantity) "oms.order.created" d.envelope) :
    ledgerFills order.orderId (receive base oms d) = ledgerFills order.orderId oms ∧
      (receive base oms d).positions = oms.positions ∧
      (∀ id, id ≠ order.orderId → (receive base oms d).orders.get? id = oms.orders.get? id) ∧
      (WithinRequested oms → WithinRequested (receive base oms d)) ∧
      ∃ stored, (receive base oms d).orders.get? order.orderId = some stored ∧
        (oms.orders.get? order.orderId = none → stored.requestedQuantity = order.quantity) := by
  obtain ⟨u, hread, -, hquiet, huid, hreq⟩ :=
    @readUpdate_of_tells _ _ _ d.now horder hquantity htells (by decide)
  rw [hid] at huid
  refine ⟨?_, (processed_of_tells horder hquantity htells (by decide)).2.1, fun id hne => ?_,
    withinRequested_of_quiet hread h hquiet (hreq ▸ hquantity.le), reconciledOrder oms u, ?_, ?_⟩
  · rw [ledgerFills_receive hread, if_pos huid, reportedFills_eventsForOrder,
      Option.map_eq_none_iff.mp hquiet, Option.toList_none, List.append_nil, huid]
  · rw [orders_receive hread, if_neg (huid ▸ hne.symm)]
  · rw [orders_receive hread, if_pos huid]
  · intro hnew
    change (existingOrder oms u).requestedQuantity = order.quantity
    rw [existingOrder, huid, hnew, Option.getD_none]
    exact hreq

private theorem receive_filled
    (htells : Tells order (.num order.quantity) "oms.order.filled" d.envelope) :
    (∀ id, id ≠ order.orderId → (receive base oms d).orders.get? id = oms.orders.get? id) ∧
      ∀ before, oms.orders.get? order.orderId = some before →
        ledgerFills order.orderId oms = [] → before.requestedQuantity = order.quantity →
        WithinRequested oms → WithinRequested (receive base oms d) := by
  obtain ⟨u, fill, hread, -, -, hf, -, -, -, -, hfq, huid⟩ :=
    @readUpdate_of_filled _ _ d.now horder hquantity htells
  rw [hid] at huid
  refine ⟨fun id hne => by rw [orders_receive hread, if_neg (huid ▸ hne.symm)], ?_⟩
  intro before hbefore hfst hreq hwithin
  obtain ⟨raw, hraw, rfl⟩ := Option.map_eq_some_iff.mp hf
  have hrawq : raw.quantity = order.quantity := hfq
  exact withinRequested_of_fill hread h hraw (huid ▸ hfst) (huid ▸ hbefore)
    (hrawq ▸ hquantity.le) (by rw [hrawq, hreq]) hwithin

end

/-- What the OMS makes of an order: it books the fill, up to dust, and leaves the records of other
orders alone; a first fill leaves the order within its requested quantity. -/
private structure Consumes (payload : IntentPayload) (order : SimulatedOrder)
    (oms oms' : RunnerState) : Prop where
  ledger : Ledger oms'
  mock : HoldsMockOnly oms'
  moved : Fills payload order → epsilon < order.quantity → ∀ symbol,
    oms'.positions.quantity symbol =
      if order.symbol = symbol then
        snap (oms.positions.quantity symbol +
          signedMove order.action (oms.positions.quantity symbol) order.quantity)
      else oms.positions.quantity symbol
  kept : (Fills payload order → order.quantity ≤ epsilon) → ∀ symbol,
    oms'.positions.quantity symbol = oms.positions.quantity symbol
  others : ∀ id, id ≠ order.orderId → oms'.orders.get? id = oms.orders.get? id
  within : WithinRequested oms →
    (order.quantity ≠ 0 → Fills payload order → oms.orders.get? order.orderId = none) →
      WithinRequested oms'

variable {payload : IntentPayload} {side : Side} (hid : strip order.orderId = order.orderId)
  (hside : parseSide order.action = some side) (h : Ledger oms) (hmock : HoldsMockOnly oms)

include hid hside h hmock in
private theorem consumes_filled (hquantity : 0 < order.quantity) (hfills : Fills payload order)
    {opened filled : Delivery}
    (hopened : Tells order (.num order.quantity) "oms.order.created" opened.envelope)
    (hfilled : Tells order (.num order.quantity) "oms.order.filled" filled.envelope) :
    Consumes payload order oms (receive base (receive base oms opened) filled) := by
  obtain ⟨hfills₁, hpositions, hothers₁, hwithin₁, stored, hstored, hnew⟩ :=
    @receive_created base oms order horder opened hid hquantity h hopened
  have hledger := (h.receive base opened).1
  have hmock₁ : HoldsMockOnly (receive base oms opened) := by
    rw [HoldsMockOnly, hpositions]
    exact hmock
  have hfilled' := @positions_of_filled _ base _ horder hquantity _ hfilled (hmock₁ order.symbol) _
    hside
  obtain ⟨hothers₂, hwithin₂⟩ :=
    @receive_filled base _ order horder filled hid hquantity hledger hfilled
  refine ⟨(hledger.receive base filled).1, fun symbol p hp => ?_, fun _ hd symbol => ?_,
    fun hd symbol => ?_, fun id hne => ?_, fun hwithin hfresh => ?_⟩
  · exact ((hfilled' symbol).2 p hp).elim id (hmock₁ symbol p)
  · rw [(hfilled' symbol).1, hpositions, signedMove_of_side horder hside]
    simp only [hd, and_true]
  · rw [(hfilled' symbol).1, hpositions, if_neg fun h => absurd h.2 (not_lt.mpr (hd hfills))]
  · rw [hothers₂ id hne, hothers₁ id hne]
  · have hn := hfresh hquantity.ne' hfills
    exact hwithin₂ stored hstored (hfills₁.trans (h.ledgerFills_eq_nil hn)) (hnew hn)
      (hwithin₁ hwithin)

include hid hside h hmock in
private theorem consumes_of_reports {events : List OrderEnvelope}
    (hreports : Reports payload order events) {deliveries : List Delivery}
    (hdeliveries : deliveries.map (·.envelope) = events) :
    Consumes payload order oms (run (receive base) oms deliveries) := by
  cases hreports with
  | ignored event hz htells =>
    obtain ⟨d, rfl, rfl⟩ := List.map_eq_singleton_iff.mp hdeliveries
    have hrefused : resolveRequestedQuantity (.num order.quantity) =
        .error (.quantityNotPositive order.quantity) := by
      rw [resolveRequestedQuantity, if_pos (by rw [hz, abs_zero])]
    rw [run_cons, run_nil, receive_unreadable horder _ htells hrefused]
    refine ⟨h, hmock, fun _ hd => ?_, fun _ _ => rfl, fun _ _ => rfl, fun h _ => h⟩
    exact absurd (hz ▸ hd) (not_lt.mpr epsilon_pos.le)
  | waiting event hquantity hwaits htells =>
    obtain ⟨d, rfl, rfl⟩ := List.map_eq_singleton_iff.mp hdeliveries
    obtain ⟨-, hpositions, hothers, hwithin, -⟩ :=
      @receive_created base oms order horder d hid hquantity h htells
    rw [run_cons, run_nil]
    refine ⟨(h.receive base d).1, ?_, fun hfills => absurd hfills hwaits, fun _ symbol => ?_,
      hothers, fun h _ => hwithin h⟩
    · rw [HoldsMockOnly, hpositions]
      exact hmock
    · rw [hpositions]
  | filled created event hquantity hfills hoco hcreated htells =>
    obtain ⟨d, rest, rfl, rfl, hrest⟩ := List.map_eq_cons_iff.mp hdeliveries
    obtain ⟨d', rfl, rfl⟩ := List.map_eq_singleton_iff.mp hrest
    exact consumes_filled horder hid hside h hmock hquantity hfills hcreated htells
  | filledLeg created event cancelled hquantity hfills hoco hcreated htells hcancelled =>
    obtain ⟨d, rest, rfl, rfl, hrest⟩ := List.map_eq_cons_iff.mp hdeliveries
    obtain ⟨d', rest', rfl, rfl, hrest'⟩ := List.map_eq_cons_iff.mp hrest
    obtain ⟨d'', rfl, rfl⟩ := List.map_eq_singleton_iff.mp hrest'
    rw [run_cons, run_cons, run_cons, run_nil, receive_unreadable horder _ hcancelled rfl]
    exact consumes_filled horder hid hside h hmock hquantity hfills hcreated htells

omit horder in
private theorem reportedFill_of_reports {events : List OrderEnvelope}
    (h : Reports payload order events) :
    (Fills payload order → reportedFill events = order.quantity) ∧
      (¬ Fills payload order → reportedFill events = 0) := by
  have hfilled {event : OrderEnvelope}
      (htells : Tells order (.num order.quantity) "oms.order.filled" event) :
      reportedQuantity event = order.quantity := by
    obtain ⟨p, hbody, -, -, -, hq, -⟩ := htells.payload
    simp [reportedQuantity, hbody, hq, NumField.toFloatD]
  cases h with
  | ignored event hz htells => simp [reportedFill, htells.type, hz]
  | waiting event hquantity hwaits htells => simp [reportedFill, htells.type, hwaits]
  | filled created event hquantity hfills hoco hcreated htells =>
    simp [reportedFill, hcreated.type, htells.type, hfilled htells, hfills]
  | filledLeg created event cancelled hquantity hfills hoco hcreated htells hcancelled =>
    simp [reportedFill, hcreated.type, htells.type, hcancelled.type, hfilled htells, hfills]

end

/-! ### One delivery -/

section

variable {engine : Engine} {uuid5 : Uuid5} {base : ℚ} {outbox : Outbox} {s : SimulationState}
  {d : IntentDelivery}

private def orderIdFor (uuid5 : Uuid5) (key : String) : String := uuid5.text ("sim-order:" ++ key)

private theorem orderIdFor_inj (hinj : Function.Injective uuid5.text) {key key' : String}
    (h : orderIdFor uuid5 key = orderIdFor uuid5 key') : key = key' := by
  have hnames := congrArg String.toList (hinj h)
  rw [String.toList_append, String.toList_append] at hnames
  exact String.toList_inj.mp (List.append_cancel_left hnames)

private abbrev payloadOf (outbox : Outbox) (d : IntentDelivery) : IntentPayload :=
  (outbox.message d.key).payload.getD {}

/-- The order of a delivery that the worker executes. -/
private structure Executes (engine : Engine) (uuid5 : Uuid5) (outbox : Outbox) (d : IntentDelivery)
    (result : SimulationExecutionResult) (order : SimulatedOrder) : Prop where
  executed : execution engine uuid5 outbox d = .ok result
  read : readOrder uuid5 (outbox.message d.key) (payloadOf outbox d) = .ok order
  readable : Readable order
  orderId : order.orderId = orderIdFor uuid5 d.key
  side : ∃ side, parseSide order.action = some side
  action : result.action = order.action
  symbol : result.symbol = order.symbol
  reports : Reports (payloadOf outbox d) order result.events

variable {result : SimulationExecutionResult} {order : SimulatedOrder}

private theorem execution_eq_ok_iff :
    execution engine uuid5 outbox d = .ok result ↔
      assertMockIntent ((outbox.message d.key).mode.getD "unknown") "execution.intent.mock" =
        .ok () ∧ executeIntent engine uuid5 d.now (outbox.message d.key) = .ok result := by
  simp only [execution, workerRunOnce, bind_eq_ok_iff, mapError_eq_ok_iff]
  exact ⟨fun ⟨_, hguard, hok⟩ => ⟨hguard, hok⟩, fun ⟨hguard, hok⟩ => ⟨(), hguard, hok⟩⟩

private theorem executes_of_execution (h : execution engine uuid5 outbox d = .ok result) :
    ∃ order, Executes engine uuid5 outbox d result order := by
  obtain ⟨order, hread, hreadable, hact, hsym, hreports⟩ :=
    reports_of_executeIntent (execution_eq_ok_iff.mp h).2
  obtain ⟨-, -, -, quantity, -, horder⟩ := readOrder_eq_ok_iff.mp hread
  have hsides : parseSide "BUY" = some .buy ∧ parseSide "SELL" = some .sell := by decide +kernel
  have hid : order.orderId = orderIdFor uuid5 d.key := by
    rw [horder]
    change uuid5.text _ = _
    rw [outbox.keyed, Option.getD_some]
    rfl
  have htrades : order.action = "BUY" ∨ order.action = "SELL" := by
    rw [horder]
    simpa using outbox.trades d.key
  rcases htrades with htrades | htrades
  · exact ⟨order, h, hread, hreadable, hid, ⟨.buy, htrades ▸ hsides.1⟩, hact, hsym,
      hreports (by rw [htrades]; decide)⟩
  · exact ⟨order, h, hread, hreadable, hid, ⟨.sell, htrades ▸ hsides.2⟩, hact, hsym,
      hreports (by rw [htrades]; decide)⟩

/-- What holds between deliveries: the OMS holds MOCK positions only, knows no order of a key that
was not delivered, and what was filled is no dust. -/
private structure Booked (engine : Engine) (uuid5 : Uuid5) (outbox : Outbox)
    (s : SimulationState) : Prop where
  ledger : Ledger s.oms
  mock : HoldsMockOnly s.oms
  unknown : ∀ key, key ∉ s.delivered.map (·.key) →
    s.oms.orders.get? (orderIdFor uuid5 key) = none
  sized : ∀ d ∈ s.delivered, ∀ order, FillsOrder engine uuid5 outbox d order →
    epsilon < order.quantity

private theorem oms_of_error {error : WorkerError}
    (h : execution engine uuid5 outbox d = .error error) :
    (deliverIntent engine uuid5 base outbox s d).oms = s.oms := by
  simp [deliverIntent, orderUpdates, h]

private theorem consumes_of_execution (base : ℚ) (hbooked : Booked engine uuid5 outbox s)
    (horder : Executes engine uuid5 outbox d result order) :
    Consumes (payloadOf outbox d) order s.oms
      (deliverIntent engine uuid5 base outbox s d).oms := by
  obtain ⟨side, hside⟩ := horder.side
  have hid : strip order.orderId = order.orderId := by
    rw [horder.orderId, orderIdFor, uuid5.stripped]
  have hupdates : (orderUpdates engine uuid5 outbox d).map (·.envelope) = result.events := by
    simp [orderUpdates, horder.executed, Function.comp_def]
  exact consumes_of_reports horder.readable hid hside hbooked.ledger hbooked.mock horder.reports
    hupdates

private theorem netFilled_concat (symbol : String) (delivered : List IntentDelivery)
    (d : IntentDelivery) :
    netFilled engine uuid5 outbox symbol (delivered ++ [d]) =
      if d.key ∈ delivered.map (·.key) then netFilled engine uuid5 outbox symbol delivered
      else netFilled engine uuid5 outbox symbol delivered +
        filledIn engine uuid5 outbox symbol d := by
  unfold netFilled
  rw [distinctBy_concat]
  split
  · rfl
  · rw [List.map_append, List.sum_append, List.map_singleton, List.sum_singleton]

private theorem filledIn_of_execution
    (horder : Executes engine uuid5 outbox d result order) (symbol : String) (position : ℚ) :
    (Fills (payloadOf outbox d) order →
        filledIn engine uuid5 outbox symbol d =
          if order.symbol = symbol then signedMove order.action position order.quantity else 0) ∧
      (¬ Fills (payloadOf outbox d) order →
        filledIn engine uuid5 outbox symbol d = 0) := by
  obtain ⟨hfilled, hwaiting⟩ := reportedFill_of_reports horder.reports
  obtain ⟨side, hside⟩ := horder.side
  have heq : filledIn engine uuid5 outbox symbol d =
      if order.symbol = symbol then signedMove order.action 0 (reportedFill result.events)
      else 0 := by
    simp only [filledIn, horder.executed, horder.symbol, horder.action]
  rw [heq]
  constructor
  · intro hfills
    rw [hfilled hfills, signedMove_of_side horder.readable hside,
      signedMove_of_side horder.readable hside]
  · intro hwaits
    rw [hwaiting hwaits]
    simp [signedMove]

private theorem fillsOrder_iff
    (horder : Executes engine uuid5 outbox d result order) (order' : SimulatedOrder) :
    FillsOrder engine uuid5 outbox d order' ↔ order' = order ∧ order.quantity ≠ 0 ∧
      Fills (payloadOf outbox d) order := by
  constructor
  · rintro ⟨-, hread, hquantity, hfills⟩
    obtain rfl := Except.ok.inj (hread.symm.trans horder.read)
    exact ⟨rfl, hquantity, hfills⟩
  · rintro ⟨rfl, hquantity, hfills⟩
    exact ⟨⟨result, horder.executed⟩, horder.read, hquantity, hfills⟩

private theorem fillsFresh_iff
    (horder : Executes engine uuid5 outbox d result order) :
    FillsFresh engine uuid5 outbox s d ↔ (order.quantity ≠ 0 →
      Fills (payloadOf outbox d) order → FreshFill s d order) := by
  constructor
  · intro hfresh hquantity hfills
    exact hfresh order ((fillsOrder_iff horder order).mpr ⟨rfl, hquantity, hfills⟩)
  · intro hfresh order' hfills
    obtain ⟨rfl, hquantity, hfills⟩ := (fillsOrder_iff horder order').mp hfills
    exact hfresh hquantity hfills

private theorem booked_deliverIntent (hinj : Function.Injective uuid5.text)
    (hbooked : Booked engine uuid5 outbox s) (hfresh : FillsFresh engine uuid5 outbox s d) :
    Booked engine uuid5 outbox (deliverIntent engine uuid5 base outbox s d) := by
  have hsized : ∀ d' ∈ s.delivered ++ [d], ∀ order, FillsOrder engine uuid5 outbox d' order →
      epsilon < order.quantity := by
    intro d' hd' order hfills
    rcases List.mem_append.mp hd' with hd' | hd'
    · exact hbooked.sized d' hd' order hfills
    · obtain rfl := List.mem_singleton.mp hd'
      exact (hfresh order hfills).2.1
  have hkeys {key : String} (hk : key ∉ (s.delivered ++ [d]).map (·.key)) :
      key ∉ s.delivered.map (·.key) ∧ key ≠ d.key := by
    rw [List.map_append, List.mem_append, not_or] at hk
    exact ⟨hk.1, fun heq => hk.2 (by simp [heq])⟩
  cases h : execution engine uuid5 outbox d with
  | error error =>
    have homs := @oms_of_error engine uuid5 base outbox s d error h
    refine ⟨homs ▸ hbooked.ledger, homs ▸ hbooked.mock, fun key hk => ?_, hsized⟩
    rw [homs]
    exact hbooked.unknown key (hkeys hk).1
  | ok result =>
    obtain ⟨order, horder⟩ := executes_of_execution h
    have hconsumes := consumes_of_execution base hbooked horder
    refine ⟨hconsumes.ledger, hconsumes.mock, fun key hk => ?_, hsized⟩
    obtain ⟨hold, hother⟩ := hkeys hk
    have hne : orderIdFor uuid5 key ≠ order.orderId := by
      rw [horder.orderId]
      exact fun heq => hother (orderIdFor_inj hinj heq)
    rw [hconsumes.others _ hne]
    exact hbooked.unknown key hold

private theorem snap_add_ne {position moved : ℚ} (h : epsilon < |moved|) :
    snap (position + moved) ≠ position := by
  unfold snap
  split
  · next hd =>
    rintro rfl
    rw [zero_add] at hd
    exact absurd hd (not_le.mpr h)
  · intro hsame
    have hz : moved = 0 := by linarith
    rw [hz, abs_zero] at h
    exact absurd h (not_lt.mpr epsilon_pos.le)

private theorem fillsOrder_of_key {d' : IntentDelivery} (hk : d'.key = d.key)
    (h : FillsOrder engine uuid5 outbox d order) : FillsOrder engine uuid5 outbox d' order := by
  obtain ⟨⟨result, hres⟩, hread, hquantity, hfills⟩ := h
  obtain ⟨hguard, hok⟩ := execution_eq_ok_iff.mp hres
  obtain ⟨result', hok'⟩ := executeIntent_isOk engine uuid5 d.now d'.now ⟨result, hok⟩
  rw [← hk] at hguard hok' hread hfills
  exact ⟨⟨result', execution_eq_ok_iff.mpr ⟨hguard, hok'⟩⟩, hread, hquantity, hfills⟩

private theorem appliedOnce_of_fills (hbooked : Booked engine uuid5 outbox s)
    (hs : AppliedOnce engine uuid5 outbox s)
    (horder : Executes engine uuid5 outbox d result order) (hquantity : order.quantity ≠ 0)
    (hfills : Fills (payloadOf outbox d) order) :
    AppliedOnce engine uuid5 outbox (deliverIntent engine uuid5 base outbox s d) ↔
      FreshFill s d order := by
  have hconsumes := consumes_of_execution base hbooked horder
  have hnet (symbol : String) := @netFilled_concat engine uuid5 outbox symbol s.delivered d
  have hfilled (symbol : String) := (filledIn_of_execution horder symbol
    (s.oms.positions.quantity symbol)).1 hfills
  obtain ⟨side, hside⟩ := horder.side
  have hmove (position : ℚ) : |signedMove order.action position order.quantity| =
      order.quantity := by
    rw [signedMove_of_side horder.readable hside, Side.abs_sign_mul,
      abs_of_nonneg horder.readable.quantity]
  constructor
  · intro happlied
    have hposition : (deliverIntent engine uuid5 base outbox s d).oms.positions.quantity
        order.symbol = netFilled engine uuid5 outbox order.symbol (s.delivered ++ [d]) :=
      happlied.position order.symbol
    rw [hnet, ← hs.position, hfilled, if_pos rfl] at hposition
    have hnew : d.key ∉ s.delivered.map (·.key) := by
      intro hold
      obtain ⟨d', hd', hk⟩ := List.mem_map.mp hold
      have hd := hbooked.sized d' hd' order
        (fillsOrder_of_key hk ((fillsOrder_iff horder order).mpr ⟨rfl, hquantity, hfills⟩))
      rw [if_pos hold, hconsumes.moved hfills hd, if_pos rfl] at hposition
      exact snap_add_ne (by rw [hmove]; exact hd) hposition
    rw [if_neg hnew] at hposition
    have hd : epsilon < order.quantity := by
      by_contra hd
      rw [hconsumes.kept fun _ => not_lt.mp hd, left_eq_add] at hposition
      have hz := hmove (s.oms.positions.quantity order.symbol)
      rw [hposition, abs_zero] at hz
      exact hquantity hz.symm
    rw [hconsumes.moved hfills hd, if_pos rfl] at hposition
    exact ⟨hnew, hd, hposition⟩
  · rintro ⟨hnew, hd, hsettled⟩
    refine ⟨fun symbol => ?_, hconsumes.within hs.orders fun _ _ => ?_⟩
    · change _ = netFilled engine uuid5 outbox symbol (s.delivered ++ [d])
      rw [hconsumes.moved hfills hd, hnet, if_neg hnew, ← hs.position, hfilled]
      by_cases hsym : order.symbol = symbol
      · subst hsym
        rw [if_pos rfl, if_pos rfl]
        exact hsettled
      · rw [if_neg hsym, if_neg hsym, add_zero]
    · rw [horder.orderId]
      exact hbooked.unknown d.key hnew

private theorem appliedOnce_of_nothing (hs : AppliedOnce engine uuid5 outbox s)
    (hfilled : ∀ symbol, filledIn engine uuid5 outbox symbol d = 0)
    (hkept : ∀ symbol, (deliverIntent engine uuid5 base outbox s d).oms.positions.quantity symbol =
      s.oms.positions.quantity symbol)
    (hwithin : WithinRequested (deliverIntent engine uuid5 base outbox s d).oms) :
    AppliedOnce engine uuid5 outbox (deliverIntent engine uuid5 base outbox s d) := by
  refine ⟨fun symbol => ?_, hwithin⟩
  change _ = netFilled engine uuid5 outbox symbol (s.delivered ++ [d])
  rw [hkept, netFilled_concat, hfilled, add_zero, ite_self]
  exact hs.position symbol

private theorem appliedOnce_of_waits (hbooked : Booked engine uuid5 outbox s)
    (hs : AppliedOnce engine uuid5 outbox s) (horder : Executes engine uuid5 outbox d result order)
    (hwaits : order.quantity ≠ 0 → ¬ Fills (payloadOf outbox d) order) :
    AppliedOnce engine uuid5 outbox (deliverIntent engine uuid5 base outbox s d) := by
  have hconsumes := consumes_of_execution base hbooked horder
  have hz (hfills : Fills (payloadOf outbox d) order) :
      order.quantity = 0 := not_not.mp fun hquantity => hwaits hquantity hfills
  apply appliedOnce_of_nothing hs
  · intro symbol
    obtain ⟨hfills, hn⟩ := filledIn_of_execution horder symbol 0
    by_cases hf : Fills (payloadOf outbox d) order
    · rw [hfills hf, hz hf]
      simp [signedMove]
    · exact hn hf
  · exact hconsumes.kept fun hfills => hz hfills ▸ epsilon_pos.le
  · exact hconsumes.within hs.orders fun hquantity hfills => absurd hfills (hwaits hquantity)

private theorem appliedOnce_deliverIntent (hbooked : Booked engine uuid5 outbox s)
    (hs : AppliedOnce engine uuid5 outbox s) :
    AppliedOnce engine uuid5 outbox (deliverIntent engine uuid5 base outbox s d) ↔
      FillsFresh engine uuid5 outbox s d := by
  cases h : execution engine uuid5 outbox d with
  | error error =>
    have homs := @oms_of_error engine uuid5 base outbox s d error h
    have hnothing (symbol : String) : filledIn engine uuid5 outbox symbol d = 0 := by
      simp only [filledIn, h]
    apply iff_of_true
    · exact appliedOnce_of_nothing hs hnothing (fun _ => by rw [homs]) (homs ▸ hs.orders)
    · rintro order ⟨⟨result, hres⟩, -⟩
      rw [h] at hres
      cases hres
  | ok result =>
    obtain ⟨order, horder⟩ := executes_of_execution h
    rw [fillsFresh_iff horder]
    by_cases hfills : order.quantity ≠ 0 ∧
        Fills (payloadOf outbox d) order
    · rw [appliedOnce_of_fills hbooked hs horder hfills.1 hfills.2]
      exact ⟨fun hfresh _ _ => hfresh, fun hfresh => hfresh hfills.1 hfills.2⟩
    · have hwaits := not_and.mp hfills
      refine iff_of_true (appliedOnce_of_waits hbooked hs horder hwaits) ?_
      exact fun hquantity hf => absurd hf (hwaits hquantity)

end

/-! ### Whole runs -/

private theorem booked_start (engine : Engine) (uuid5 : Uuid5) (outbox : Outbox) :
    Booked engine uuid5 outbox {} := by
  refine ⟨ledger_empty, ?_, fun _ _ => rfl, ?_⟩
  · rintro symbol p ⟨⟩
  · rintro d ⟨⟩

private theorem appliedOnce_start (engine : Engine) (uuid5 : Uuid5) (outbox : Outbox) :
    AppliedOnce engine uuid5 outbox {} := by
  refine ⟨fun _ => rfl, ?_⟩
  rintro id order ⟨⟩

/-- In every run of deliveries to the worker, with the OMS consuming all events and order ids that
differ for different keys, every intent counts once throughout exactly when every delivery that
fills is the first of its key and neither fills nor leaves dust. -/
theorem appliedOnce_iff_fillsFresh (engine : Engine) (uuid5 : Uuid5)
    (hinj : Function.Injective uuid5.text) (base : ℚ) (outbox : Outbox)
    (deliveries : List IntentDelivery) :
    Throughout (deliverIntent engine uuid5 base outbox) (AppliedOnce engine uuid5 outbox) {}
        deliveries ↔
      Along (deliverIntent engine uuid5 base outbox) (FillsFresh engine uuid5 outbox) {}
        deliveries :=
  throughout_iff_along_of_inv (fun _ _ hbooked hfresh => booked_deliverIntent hinj hbooked hfresh)
    (fun _ _ hbooked hs => appliedOnce_deliverIntent hbooked hs) deliveries
    (booked_start engine uuid5 outbox) (appliedOnce_start engine uuid5 outbox)

/-! ### An intent to buy, once and twice -/

private theorem freeOfCost : (0 : ℚ) ≤ 0 ∧ (0 : ℚ) ≤ 0 := ⟨le_refl 0, le_refl 0⟩

private def plainEngine : Engine where
  slippageBps := 0
  feeBps := 0
  nonneg := freeOfCost

variable (name key : String)

private def quotedName : String := String.ofList ('q' :: (name.toList ++ ['q']))

private theorem strip_quotedName : strip (quotedName name) = quotedName name :=
  strip_between (by decide) (by decide) name.toList

private theorem quotedName_ne_empty : quotedName name ≠ "" := by
  intro h
  have hlist := congrArg String.toList h
  rw [quotedName, String.toList_ofList] at hlist
  cases hlist

private def quotingUuid5 : Uuid5 where
  text := quotedName
  stripped := strip_quotedName
  nonempty := quotedName_ne_empty

private theorem quotingUuid5_injective : Function.Injective quotingUuid5.text := by
  intro name name' h
  have hlist := congrArg String.toList h
  simpa [quotingUuid5, quotedName, String.toList_inj] using hlist

private def buyMessage : IntentEnvelope :=
  mockIntent key { symbol := some "BTC/USDT", action := some "BUY", quantity := .num 1,
                   midPrice := .num 100 }

private theorem buyMessage_trades :
    upper (((buyMessage key).payload.getD {}).action.getD "") ∈ ["BUY", "SELL"] := by
  change upper "BUY" ∈ ["BUY", "SELL"]
  decide +kernel

private def buyOutbox : Outbox where
  message := buyMessage
  keyed _ := rfl
  trades := buyMessage_trades

private def firstDelivery : IntentDelivery :=
  { key, now := ⟨"2026-01-01T00:00:01Z", by decide +kernel⟩, received := fun _ => "t1" }

private def secondDelivery : IntentDelivery :=
  { key, now := sampleTime, received := fun _ => "t2" }

private def buyOrder : SimulatedOrder :=
  ⟨orderIdFor quotingUuid5 key, "BUY", "BTC/USDT", 1, "MARKET", "MOCK"⟩

/-- Two intents to buy one coin, each delivered once. -/
theorem two_intents_applied_once :
    let deliveries := [firstDelivery "a", secondDelivery "b"]
    let step := deliverIntent plainEngine quotingUuid5 0 buyOutbox
    (run step {} deliveries).oms.positions.quantity "BTC/USDT" = 2 ∧
      Throughout step (AppliedOnce plainEngine quotingUuid5 buyOutbox) {} deliveries := by
  intro deliveries step
  refine ⟨by decide +kernel, ?_⟩
  apply (appliedOnce_iff_fillsFresh plainEngine quotingUuid5 quotingUuid5_injective 0 buyOutbox
    deliveries).mpr
  have hread (key : String) (hkey : key = "a" ∨ key = "b") :
      readOrder quotingUuid5 (buyMessage key) ((buyMessage key).payload.getD {}) =
        .ok (buyOrder key) := by
    rcases hkey with rfl | rfl <;> decide +kernel
  refine ⟨?_, ?_, trivial⟩
  · rintro order ⟨-, horder, -⟩
    obtain rfl := Except.ok.inj (horder.symm.trans (hread "a" (.inl rfl)))
    unfold FreshFill
    decide +kernel
  · rintro order ⟨-, horder, -⟩
    obtain rfl := Except.ok.inj (horder.symm.trans (hread "b" (.inr rfl)))
    unfold FreshFill
    decide +kernel

/-- One intent to buy one coin, delivered twice within a second: the OMS holds two coins, and the
order has filled two of the one it requested. -/
theorem redelivered_intent_filled_twice :
    let deliveries := [firstDelivery "a", secondDelivery "a"]
    let step := deliverIntent plainEngine quotingUuid5 0 buyOutbox
    let s := run step {} deliveries
    Function.Injective quotingUuid5.text ∧
      s.oms.positions.quantity "BTC/USDT" = 2 ∧
      netFilled plainEngine quotingUuid5 buyOutbox "BTC/USDT" s.delivered = 1 ∧
      (s.oms.orders.get? (orderIdFor quotingUuid5 "a")).map
        (fun order => (order.filledQuantity, order.requestedQuantity)) = some (2, 1) ∧
      ¬ Throughout step (AppliedOnce plainEngine quotingUuid5 buyOutbox) {} deliveries := by
  intro deliveries step s
  have hposition : s.oms.positions.quantity "BTC/USDT" = 2 := by decide +kernel
  have hnet : netFilled plainEngine quotingUuid5 buyOutbox "BTC/USDT" s.delivered = 1 := by
    decide +kernel
  refine ⟨quotingUuid5_injective, hposition, hnet, by decide +kernel, fun h => ?_⟩
  have hlast := h.last.position "BTC/USDT"
  rw [show (run step {} deliveries).oms = s.oms from rfl, hposition,
    show (run step {} deliveries).delivered = s.delivered from rfl, hnet] at hlast
  exact absurd hlast (by decide)

end OpenTrader.Simulation
