import OpenTrader.Base.Trace
import OpenTrader.Oms.Atomicity
import OpenTrader.Simulation.Engine

/-!
# Simulated orders in the OMS

Library `Simulation`. The events of `services/simulation_execution/engine.py:32-354` handed to
`services/workers/oms_lifecycle.py:84-171` one after the other. The engine reports what the OMS
does not take: an order of quantity zero, a filled CLOSE, the cancelled leg of an OCO order, which
carries no quantity, and a dust fill.
-/

namespace OpenTrader.Simulation
open Base Oms Execution

/-! ### What an accepted intent leads to -/

/-- The order is filled at once: at market, or because it or one of its legs is triggered by the
reference price. -/
def Fills (payload : IntentPayload) (order : SimulatedOrder) : Prop :=
  order.orderType = "MARKET" ∨ order.orderType = "LIMIT" ∨
    (order.orderType = "STOP_MARKET" ∨ order.orderType = "TAKE_PROFIT_MARKET") ∧
      (∃ price trigger, referencePrice payload = .ok price ∧
        requiredTrigger payload = .ok trigger ∧
        checkTrigger order.orderType order.action price trigger = true) ∨
    order.orderType = "OCO" ∧
      ∃ price legs leg, referencePrice payload = .ok price ∧ payload.ocoLegs = some legs ∧
        triggeredLeg order.action price 0 legs = .ok (some leg)

/-- What the OMS reads from an event of an order. -/
structure Tells (order : SimulatedOrder) (quantity : NumField) (eventType : String)
    (event : OrderEnvelope) : Prop where
  type : event.eventType = some eventType
  payload : ∃ p, event.payload = some p ∧ p.orderId = some order.orderId ∧
    p.symbol = some order.symbol ∧ p.action = some order.action ∧ p.quantity = quantity ∧
    payloadMode p = "MOCK" ∧ (∃ price, (p.fillPrice.orElse p.price).toFloat = .ok price) ∧
    ∃ fee, (p.feePaid.orElse p.fee).toFloat = .ok fee

/-- The events of an accepted intent to trade. -/
inductive Reports (payload : IntentPayload) (order : SimulatedOrder) :
    List OrderEnvelope → Prop where
  | ignored (event : OrderEnvelope) : order.quantity = 0 →
      Tells order (.num order.quantity) "oms.order.ignored" event →
      Reports payload order [event]
  | waiting (event : OrderEnvelope) : 0 < order.quantity → ¬ Fills payload order →
      Tells order (.num order.quantity) "oms.order.created" event →
      Reports payload order [event]
  | filled (created event : OrderEnvelope) : 0 < order.quantity → Fills payload order →
      order.orderType ≠ "OCO" →
      Tells order (.num order.quantity) "oms.order.created" created →
      Tells order (.num order.quantity) "oms.order.filled" event →
      Reports payload order [created, event]
  | filledLeg (created event cancelled : OrderEnvelope) : 0 < order.quantity →
      Fills payload order → order.orderType = "OCO" →
      Tells order (.num order.quantity) "oms.order.created" created →
      Tells order (.num order.quantity) "oms.order.filled" event →
      Tells order .absent "oms.order.cancelled" cancelled →
      Reports payload order [created, event, cancelled]

section

variable {engine : Engine} {now : UtcStamp} {envelope : IntentEnvelope}
  {payload : IntentPayload} {order : SimulatedOrder} {result : SimulationExecutionResult}

private def Answers (order : SimulatedOrder) (result : SimulationExecutionResult) : Prop :=
  result.action = order.action ∧ result.symbol = order.symbol

private theorem tells_of_buildEvent {eventType suffix : String} {p : OrderPayload}
    {e : OrderEnvelope} (h : buildEvent now envelope eventType suffix p = .ok e)
    (hids : p.orderId = some order.orderId ∧ p.symbol = some order.symbol ∧
      p.action = some order.action)
    (hmode : p.mode = none ∨ p.mode = some "MOCK")
    (hnumbers : (∃ price, (p.fillPrice.orElse p.price).toFloat = .ok price) ∧
      ∃ fee, (p.feePaid.orElse p.fee).toFloat = .ok fee) : Tells order p.quantity eventType e := by
  obtain ⟨-, -, hreturn⟩ := bind_eq_ok_iff.mp h
  obtain rfl := pure_eq_ok_iff.mp hreturn
  refine ⟨rfl, p, rfl, hids.1, hids.2.1, hids.2.2, rfl, ?_, hnumbers⟩
  rcases hmode with hm | hm <;> simp [payloadMode, hm, upper_strip_mock]

private theorem ignore_eq_ok (h : ignore now envelope order = .ok result) :
    Answers order result ∧ ∃ event, result.events = [event] ∧
      Tells order (.num order.quantity) "oms.order.ignored" event := by
  obtain ⟨event, hev, hreturn⟩ := bind_eq_ok_iff.mp h
  obtain rfl := pure_eq_ok_iff.mp hreturn
  exact ⟨⟨rfl, rfl⟩, event, rfl, tells_of_buildEvent hev ⟨rfl, rfl, rfl⟩ (.inl rfl)
    ⟨⟨0, rfl⟩, 0, rfl⟩⟩

private theorem submit_eq_ok {triggerPrice : NumField} (hmode : order.mode = "MOCK")
    (h : submit now envelope order triggerPrice = .ok result) :
    Answers order result ∧ ∃ event, result.events = [event] ∧
      Tells order (.num order.quantity) "oms.order.created" event := by
  obtain ⟨event, hev, hreturn⟩ := bind_eq_ok_iff.mp h
  obtain rfl := pure_eq_ok_iff.mp hreturn
  exact ⟨⟨rfl, rfl⟩, event, rfl, tells_of_buildEvent hev ⟨rfl, rfl, rfl⟩
    (.inr (congrArg some hmode)) ⟨⟨0, rfl⟩, 0, rfl⟩⟩

private theorem fill_eq_ok {fillPrice : ℚ} {leg : Option ℕ} (hmode : order.mode = "MOCK")
    (h : fill engine now envelope order fillPrice leg = .ok result) :
    Answers order result ∧ ∃ created event,
      Tells order (.num order.quantity) "oms.order.created" created ∧
      Tells order (.num order.quantity) "oms.order.filled" event ∧
      (leg = none → result.events = [created, event]) ∧
      (leg ≠ none → ∃ cancelled, result.events = [created, event, cancelled] ∧
        Tells order .absent "oms.order.cancelled" cancelled) := by
  have hmock : some order.mode = some "MOCK" := congrArg some hmode
  obtain ⟨created, hcreated, hrest⟩ := bind_eq_ok_iff.mp h
  obtain ⟨event, hev, hrest⟩ := bind_eq_ok_iff.mp hrest
  have hopened := @tells_of_buildEvent _ _ order _ _ _ _ hcreated ⟨rfl, rfl, rfl⟩ (.inr hmock)
    ⟨⟨0, rfl⟩, 0, rfl⟩
  have hfilled := @tells_of_buildEvent _ _ order _ _ _ _ hev ⟨rfl, rfl, rfl⟩ (.inr hmock)
    ⟨⟨_, rfl⟩, _, rfl⟩
  cases leg with
  | none =>
    obtain rfl := pure_eq_ok_iff.mp hrest
    exact ⟨⟨rfl, rfl⟩, created, event, hopened, hfilled, fun _ => rfl, fun h => absurd rfl h⟩
  | some leg =>
    obtain ⟨cancelled, hcancelled, hreturn⟩ := bind_eq_ok_iff.mp hrest
    obtain rfl := pure_eq_ok_iff.mp hreturn
    refine ⟨⟨rfl, rfl⟩, created, event, hopened, hfilled, by rintro ⟨⟩,
      fun _ => ⟨cancelled, rfl, ?_⟩⟩
    exact tells_of_buildEvent hcancelled ⟨rfl, rfl, rfl⟩ (.inr hmock) ⟨⟨0, rfl⟩, 0, rfl⟩

/-- An order as the engine reads it from an intent it accepts. -/
structure Readable (order : SimulatedOrder) : Prop where
  orderId : strip order.orderId ≠ ""
  symbol : strip order.symbol = order.symbol ∧ order.symbol ≠ ""
  action : order.action ∈ ["BUY", "SELL", "HOLD", "CLOSE"]
  orderType : order.orderType ∈ ["MARKET", "LIMIT", "STOP_MARKET", "TAKE_PROFIT_MARKET", "OCO"]
  quantity : 0 ≤ order.quantity
  mode : order.mode = "MOCK"

private theorem readable_of_readOrder {uuid5 : Uuid5}
    (h : readOrder uuid5 envelope payload = .ok order)
    (hmode : upper (envelope.mode.getD "") = "MOCK") : Readable order := by
  obtain ⟨hsym, hact, htype, quantity, -, rfl⟩ := readOrder_eq_ok_iff.mp h
  exact
    { orderId := by
        change strip (uuid5.text _) ≠ ""
        rw [uuid5.stripped]
        exact uuid5.nonempty _
      symbol := ⟨strip_strip _, hsym⟩
      action := hact
      orderType := htype
      quantity := abs_nonneg quantity
      mode := hmode }

private theorem fills_oco_iff (htype : order.orderType = "OCO") :
    Fills payload order ↔ ∃ price legs leg, referencePrice payload = .ok price ∧
      payload.ocoLegs = some legs ∧ triggeredLeg order.action price 0 legs = .ok (some leg) := by
  simp [Fills, htype]

private theorem fills_stop_iff
    (htype : order.orderType = "STOP_MARKET" ∨ order.orderType = "TAKE_PROFIT_MARKET") :
    Fills payload order ↔ ∃ price trigger, referencePrice payload = .ok price ∧
      requiredTrigger payload = .ok trigger ∧
      checkTrigger order.orderType order.action price trigger = true := by
  rcases htype with htype | htype <;> simp [Fills, htype]

private theorem reports_of_executeOco (hmode : order.mode = "MOCK")
    (htype : order.orderType = "OCO") (hquantity : 0 < order.quantity)
    (h : executeOco engine now envelope payload order = .ok result) :
    Answers order result ∧ Reports payload order result.events := by
  unfold executeOco at h
  split at h
  · next first second hlegs =>
    obtain ⟨price, hprice, hrest⟩ := bind_eq_ok_iff.mp h
    obtain ⟨leg, hleg, hrest⟩ := bind_eq_ok_iff.mp hrest
    -- a leg that is triggered fills, whatever its price
    have hreports {fillPrice : ℚ} {leg : ℕ} {legPrice : LegPrice}
        (hleg : triggeredLeg order.action price 0 [first, second] = .ok (some (leg, legPrice)))
        (hf : fill engine now envelope order fillPrice (some leg) = .ok result) :
        Answers order result ∧ Reports payload order result.events := by
      obtain ⟨hanswers, created, event, hc, he, -, hcancelled⟩ := fill_eq_ok hmode hf
      obtain ⟨cancelled, hevs, hx⟩ := hcancelled (by simp)
      have hfills := (fills_oco_iff htype).mpr ⟨price, _, _, hprice, hlegs, hleg⟩
      exact ⟨hanswers, hevs ▸ .filledLeg created event cancelled hquantity hfills htype
        hc he hx⟩
    split at hrest
    · obtain ⟨hanswers, event, hevs, htells⟩ := submit_eq_ok hmode hrest
      refine ⟨hanswers, hevs ▸ .waiting event hquantity ?_ htells⟩
      rw [fills_oco_iff htype]
      rintro ⟨price', legs, leg, hprice', hlegs', hleg'⟩
      obtain rfl := Except.ok.inj (hprice.symm.trans hprice')
      obtain rfl := Option.some.inj (hlegs.symm.trans hlegs')
      cases hleg.symm.trans hleg'
    · exact hreports hleg hrest
    · exact hreports hleg hrest
  · cases h

private theorem reports_of_executeOrder (horder : Readable order)
    (h : executeOrder engine now envelope payload order = .ok result) :
    Answers order result ∧ (order.action ≠ "HOLD" → Reports payload order result.events) := by
  unfold executeOrder at h
  split at h
  · next hignored =>
    obtain ⟨hanswers, event, hevs, htells⟩ := ignore_eq_ok h
    refine ⟨hanswers, fun hhold => ?_⟩
    have hz : order.quantity = 0 :=
      le_antisymm (hignored.resolve_left hhold) horder.quantity
    exact hevs ▸ .ignored event hz htells
  · next hactive =>
    have hquantity : 0 < order.quantity := not_le.mp fun hq => hactive (.inr hq)
    -- an order without legs that fills is reported as created and filled
    have hreports {fillPrice : ℚ} (hfills : Fills payload order) (hoco : order.orderType ≠ "OCO")
        (hf : fill engine now envelope order fillPrice none = .ok result) :
        Answers order result ∧
          (order.action ≠ "HOLD" → Reports payload order result.events) := by
      obtain ⟨hanswers, created, event, hc, he, hevs, -⟩ :=
        fill_eq_ok horder.mode hf
      refine ⟨hanswers, fun _ => ?_⟩
      exact hevs rfl ▸ .filled created event hquantity hfills hoco hc he
    obtain ⟨price, hprice, hrest⟩ := bind_eq_ok_iff.mp h
    split at hrest
    · next htype =>
      have hoco : order.orderType ≠ "OCO" := by
        rcases htype with htype | htype <;> rw [htype] <;> decide
      obtain ⟨trigger, htrigger, hrest⟩ := bind_eq_ok_iff.mp hrest
      split at hrest
      · next hreached =>
        exact hreports ((fills_stop_iff htype).mpr ⟨price, trigger, hprice, htrigger, hreached⟩)
          hoco hrest
      · next hwaits =>
        obtain ⟨hanswers, event, hevs, htells⟩ := submit_eq_ok horder.mode hrest
        refine ⟨hanswers, fun _ => hevs ▸ .waiting event hquantity ?_ htells⟩
        rw [fills_stop_iff htype]
        rintro ⟨price', trigger', hprice', htrigger', hreached⟩
        obtain rfl := Except.ok.inj (hprice.symm.trans hprice')
        obtain rfl := Except.ok.inj (htrigger.symm.trans htrigger')
        exact hwaits hreached
    · next hstop =>
      split at hrest
      · next htype =>
        obtain ⟨hanswers, hrep⟩ :=
          reports_of_executeOco horder.mode htype hquantity hrest
        exact ⟨hanswers, fun _ => hrep⟩
      · next hoco =>
        have hmarket : order.orderType = "MARKET" ∨ order.orderType = "LIMIT" := by
          have hm := horder.orderType
          simp only [List.mem_cons, List.not_mem_nil, or_false] at hm
          tauto
        refine hreports ?_ hoco hrest
        rcases hmarket with hmarket | hlimit
        · exact .inl hmarket
        · exact .inr (.inl hlimit)

/-- An intent that the engine accepts is read as an order, and reported if it is no HOLD. -/
theorem reports_of_executeIntent {uuid5 : Uuid5}
    (h : executeIntent engine uuid5 now envelope = .ok result) :
    ∃ order, readOrder uuid5 envelope (envelope.payload.getD {}) = .ok order ∧ Readable order ∧
      result.action = order.action ∧ result.symbol = order.symbol ∧
      (order.action ≠ "HOLD" → Reports (envelope.payload.getD {}) order result.events) := by
  obtain ⟨-, hmode, order, hr, hexecute⟩ := executeIntent_eq_ok_iff.mp h
  have horder := readable_of_readOrder hr hmode
  obtain ⟨hanswers, hreports⟩ := reports_of_executeOrder horder hexecute
  exact ⟨order, hr, horder, hanswers.1, hanswers.2, hreports⟩

end

/-- An intent to trade that the engine accepts, with what it answers. -/
structure AcceptedIntent (engine : Engine) (uuid5 : Uuid5) where
  now : UtcStamp
  envelope : IntentEnvelope
  result : SimulationExecutionResult
  accepted : executeIntent engine uuid5 now envelope = .ok result
  trades : result.action ≠ "HOLD"

namespace AcceptedIntent

variable {engine : Engine} {uuid5 : Uuid5} (x : AcceptedIntent engine uuid5)

/-- Payload of the intent. -/
def payload : IntentPayload := x.envelope.payload.getD {}

private theorem reports :
    ∃ order, readOrder uuid5 x.envelope x.payload = .ok order ∧ Readable order ∧
      x.result.action = order.action ∧ x.result.symbol = order.symbol ∧
      Reports x.payload order x.result.events := by
  obtain ⟨order, hr, horder, hact, hsym, hreports⟩ := reports_of_executeIntent x.accepted
  exact ⟨order, hr, horder, hact, hsym, hreports (hact ▸ x.trades)⟩

end AcceptedIntent

/-! ### What the OMS makes of it -/

/-- The quantity an event reports. -/
def reportedQuantity (event : OrderEnvelope) : ℚ :=
  (event.payload.map fun payload => payload.quantity.toFloatD 0).getD 0

/-- The quantity that the filled events report. -/
def reportedFill (events : List OrderEnvelope) : ℚ :=
  ((events.filter (·.eventType == some "oms.order.filled")).map reportedQuantity).sum

/-- A filled quantity as a move of the position: BUY up, SELL down, CLOSE towards zero. -/
def signedMove (action : String) (position quantity : ℚ) : ℚ :=
  if action = "BUY" then quantity
  else if action = "SELL" then -quantity
  else if position > 0 then -quantity
  else quantity

/-- The runner does not raise on the delivery. -/
def Processed (base : ℚ) (s : RunnerState) (d : Delivery) : Prop :=
  ∃ processed, (runOnce base d.now s d.envelope).2 = .ok processed

/-- Whenever the events of an order are delivered, the OMS processes each of them, and the position
ends where the reported fill takes it. -/
def Settles (base : ℚ) (s : RunnerState) (action symbol : String) (events : List OrderEnvelope) :
    Prop :=
  ∀ deliveries : List Delivery, deliveries.map (·.envelope) = events →
    Along (receive base) (Processed base) s deliveries ∧
      (run (receive base) s deliveries).positions.quantity symbol =
        s.positions.quantity symbol +
          signedMove action (s.positions.quantity symbol) (reportedFill events)

/-- Every position is a MOCK position that is flat or has a recorded price. -/
def AllMock (s : RunnerState) : Prop :=
  ∀ symbol, ∀ p ∈ s.positions.get? symbol, Markable "MOCK" s.markPrices p

/-- What the OMS can take: an order that is not of quantity zero, next to MOCK positions; and if it
fills, a BUY or SELL without legs, above the dust threshold, that meets a position tagged exactly
MOCK and leaves no dust. -/
def Settleable (s : RunnerState) (payload : IntentPayload) (order : SimulatedOrder) : Prop :=
  order.quantity ≠ 0 ∧ AllMock s ∧
    (Fills payload order → order.orderType ≠ "OCO" ∧ epsilon < order.quantity ∧
      (∀ p ∈ s.positions.get? order.symbol, p.mode = "MOCK") ∧
      ∃ side, parseSide order.action = some side ∧
        snap (s.positions.quantity order.symbol + side.sign * order.quantity) =
          s.positions.quantity order.symbol + side.sign * order.quantity)

theorem parseSide_upper (side : String) : parseSide (upper side) = parseSide side := by
  simp [parseSide, strip_upper]

section

variable {order : SimulatedOrder} {quantity : NumField} {eventType : String}
  {event : OrderEnvelope} {now : String} {base : ℚ} {s : RunnerState}
  (horder : Readable order)
include horder

variable {created : OrderEnvelope} {error : RunnerError}

/-- An event without a positive quantity cannot be read. -/
theorem readUpdate_of_unreadable (htells : Tells order quantity eventType event)
    (hquantity : resolveRequestedQuantity quantity = .error error) :
    readUpdate now event = .error error := by
  obtain ⟨p, hbody, hid, hsym, -, rfl, -, -, -⟩ := htells.payload
  unfold readUpdate
  rw [hbody]
  dsimp only
  rw [hid, hsym, Option.getD_some, Option.getD_some, horder.symbol.1,
    if_neg (not_or.mpr ⟨horder.orderId, horder.symbol.2⟩), hquantity]
  rfl

private theorem not_processed {d : Delivery} (htells : Tells order quantity eventType d.envelope)
    (hquantity : resolveRequestedQuantity quantity = .error error) : ¬ Processed base s d := by
  rintro ⟨processed, hok⟩
  rw [runOnce, readUpdate_of_unreadable horder htells hquantity] at hok
  cases hok

private theorem not_settles_ignored (hz : order.quantity = 0)
    (htells : Tells order (.num order.quantity) "oms.order.ignored" event)
    (action symbol : String) : ¬ Settles base s action symbol [event] := by
  have hrefused : resolveRequestedQuantity (.num order.quantity) =
      .error (.quantityNotPositive order.quantity) := by
    rw [resolveRequestedQuantity, if_pos (by rw [hz, abs_zero])]
  intro h
  obtain ⟨⟨hproc, -⟩, -⟩ := h [⟨"", event⟩] rfl
  exact not_processed horder htells hrefused hproc

private theorem not_settles_filledLeg {cancelled : OrderEnvelope}
    (htells : Tells order .absent "oms.order.cancelled" cancelled) (action symbol : String) :
    ¬ Settles base s action symbol [created, event, cancelled] := by
  intro h
  obtain ⟨⟨-, -, hproc, -⟩, -⟩ := h [⟨"", created⟩, ⟨"", event⟩, ⟨"", cancelled⟩] rfl
  exact not_processed horder htells rfl hproc

/-- The side of a BUY or SELL is its direction. -/
theorem signedMove_of_side {side : Side}
    (hparse : parseSide order.action = some side) (position : ℚ) :
    signedMove order.action position order.quantity = side.sign * order.quantity := by
  have hm := horder.action
  simp only [List.mem_cons, List.not_mem_nil, or_false] at hm
  have hsides : parseSide "BUY" = some .buy ∧ parseSide "SELL" = some .sell ∧
      parseSide "HOLD" = none ∧ parseSide "CLOSE" = none := by decide +kernel
  rcases hm with h | h | h | h
  · rw [h, hsides.1] at hparse
    cases hparse
    rw [signedMove, if_pos h, Side.sign, one_mul]
  · rw [h, hsides.2.1] at hparse
    cases hparse
    rw [signedMove, h, if_neg (by decide), if_pos rfl, Side.sign, neg_one_mul]
  · rw [h, hsides.2.2.1] at hparse
    cases hparse
  · rw [h, hsides.2.2.2] at hparse
    cases hparse

variable (hquantity : 0 < order.quantity)
include hquantity

/-- An event that reports no fill is read as an update without one. -/
theorem readUpdate_of_tells
    (htells : Tells order (.num order.quantity) eventType event)
    (htype : isFillEventType eventType = false) :
    ∃ u, readUpdate now event = .ok (some u) ∧ u.mode = "MOCK" ∧ u.positionFill = none ∧
      u.orderId = strip order.orderId ∧ u.requestedQuantity = order.quantity := by
  obtain ⟨p, hbody, hid, hsym, -, hq, hmode, -, -⟩ := htells.payload
  have hev : toLifecycleEvent now event = .ok ⟨{ eventType }, rfl⟩ := by
    rw [toLifecycleEvent, hbody, htells.type]
    simp [htype]
  unfold readUpdate
  rw [hbody]
  dsimp only
  rw [hid, hsym, Option.getD_some, Option.getD_some, horder.symbol.1,
    if_neg (not_or.mpr ⟨horder.orderId, horder.symbol.2⟩), hq,
    resolveRequestedQuantity_of_pos hquantity, hev]
  exact ⟨_, rfl, hmode, rfl, rfl, rfl⟩

/-- A filled event is read as an update with the fill of the order. -/
theorem readUpdate_of_filled
    (htells : Tells order (.num order.quantity) "oms.order.filled" event) :
    ∃ u fill, readUpdate now event = .ok (some u) ∧ u.mode = "MOCK" ∧ u.symbol = order.symbol ∧
      u.positionFill = some fill ∧ ledgerFill now event = some fill ∧
      fill.symbol = order.symbol ∧ fill.mode = "MOCK" ∧ fill.side = upper order.action ∧
      fill.quantity = order.quantity ∧ u.orderId = strip order.orderId := by
  obtain ⟨p, hbody, hid, hsym, hact, hq, hmode, ⟨price, hprice⟩, fee, hfee⟩ :=
    htells.payload
  have hfilled : isFillEventType (event.eventType.getD "") = true := by
    rw [htells.type]
    decide
  obtain ⟨fill, hf, hfsymbol, hfmode, hfside, hfq, -, -⟩ :=
    @ledgerFill_of_fill now event p _ _ _ hbody hfilled (by rw [hid]; exact horder.orderId)
      (by rw [hsym, Option.getD_some, horder.symbol.1]; exact horder.symbol.2) hq hquantity.ne'
      hprice hfee
  rw [hsym, Option.getD_some, horder.symbol.1] at hfsymbol
  rw [hmode] at hfmode
  rw [hact, Option.getD_some] at hfside
  rw [abs_of_pos hquantity] at hfq
  have hledger : ledgerFill now event = some fill := hf
  unfold ledgerFill at hf
  split at hf
  · next u hr =>
    obtain ⟨raw, -, rfl⟩ := Option.map_eq_some_iff.mp hf
    obtain ⟨p', hbody', ⟨huid, -⟩, -⟩ := readUpdate_eq_some hr
    obtain rfl := Option.some.inj (hbody.symm.trans hbody')
    rw [hid, Option.getD_some] at huid
    exact ⟨u, _, hr, hfmode, hfsymbol, hf, hledger, hfsymbol, hfmode, hfside, hfq,
      huid⟩
  · cases hf

/-- An event that reports no fill is processed when every position can be marked, and leaves
positions and prices alone. -/
theorem processed_of_tells
    {d : Delivery} (htells : Tells order (.num order.quantity) eventType d.envelope)
    (htype : isFillEventType eventType = false) :
    (Processed base s d ↔ AllMock s) ∧ (receive base s d).positions = s.positions ∧
      (receive base s d).markPrices = s.markPrices := by
  obtain ⟨u, hr, hmode, hn, -, -⟩ :=
    @readUpdate_of_tells _ _ _ d.now horder hquantity htells htype
  have hledger : ledgerFill d.now d.envelope = none := by
    rw [ledgerFill, hr]
    exact hn
  refine ⟨?_, runOnce_ledgers_of_no_fill base hledger⟩
  rw [Processed, runOnce_isOk_iff base s hr, Completes, Bookable, OthersMarkable, hn, hmode,
    upper_strip_mock]
  constructor
  · rintro ⟨-, hmarkable⟩ symbol p hp
    exact hmarkable symbol p hp fun hsome => absurd hsome Bool.false_ne_true
  · intro h
    exact ⟨by rintro fill ⟨⟩, fun symbol p hp _ => h symbol p hp⟩

private theorem processed_of_filled
    {d : Delivery} (htells : Tells order (.num order.quantity) "oms.order.filled" d.envelope)
    (hmock : AllMock s) :
    Processed base s d ↔ epsilon < order.quantity ∧
      (∀ p ∈ s.positions.get? order.symbol, p.mode = "MOCK") ∧
      ∃ side, parseSide order.action = some side := by
  obtain ⟨u, fill, hr, hmode, hsym, hf, -, -, -, hside, hfq, -⟩ :=
    @readUpdate_of_filled _ _ d.now horder hquantity htells
  have hmarkable : OthersMarkable s u := by
    rw [OthersMarkable, hmode, upper_strip_mock]
    exact fun symbol p hp _ => hmock symbol p hp
  rw [Processed, runOnce_isOk_iff base s hr, Completes, and_iff_left hmarkable, Bookable, hf,
    hsym, hmode]
  simp only [Option.mem_def, Option.some.injEq, forall_eq', signedQuantity_eq_ok_iff, hside,
    parseSide_upper, hfq, abs_of_pos hquantity]
  constructor
  · rintro ⟨⟨signed, hd, side, hparse, -⟩, hposition⟩
    exact ⟨hd, hposition, side, hparse⟩
  · rintro ⟨hd, hposition, side, hparse⟩
    exact ⟨⟨_, hd, side, hparse, rfl⟩, hposition⟩

/-- A filled event is netted into the position of its symbol, unless it is dust. -/
theorem positions_of_filled
    {d : Delivery} (htells : Tells order (.num order.quantity) "oms.order.filled" d.envelope)
    (hposition : ∀ p ∈ s.positions.get? order.symbol, p.mode = "MOCK") {side : Side}
    (hparse : parseSide order.action = some side) (symbol : String) :
    (receive base s d).positions.quantity symbol =
        (if order.symbol = symbol ∧ epsilon < order.quantity then
          snap (s.positions.quantity symbol + side.sign * order.quantity)
        else s.positions.quantity symbol) ∧
      ∀ p ∈ (receive base s d).positions.get? symbol,
        p.mode = "MOCK" ∨ p ∈ s.positions.get? symbol := by
  obtain ⟨u, fill, -, -, -, -, hledger, hfsymbol, hfmode, hside, hfq, -⟩ :=
    @readUpdate_of_filled _ _ d.now horder hquantity htells
  by_cases hd : epsilon < order.quantity
  · have hsigned : signedQuantity fill = .ok (side.sign * order.quantity) := by
      rw [signedQuantity_eq_ok_iff, hside, parseSide_upper, hfq, abs_of_pos hquantity]
      exact ⟨hd, side, hparse, rfl⟩
    have hbook := runOnce_positions_of_booked base hledger hsigned
      (by rw [hfsymbol, hfmode]; exact hposition)
    constructor
    · rw [receive, PositionBook.quantity_of_apply hbook hsigned, hfsymbol]
      simp only [hd, and_true]
    · intro p hp
      by_cases hsym : fill.symbol = symbol
      · subst hsym
        exact .inl ((PositionBook.mode_of_apply hbook p hp).trans hfmode)
      · rw [receive, PositionBook.get?_of_apply hbook hsym] at hp
        exact .inr hp
  · have hsigned : signedQuantity fill = .error .quantityNotPositive := by
      rw [signedQuantity, hfq, abs_of_pos hquantity, if_pos (not_lt.mp hd)]
    rw [receive, (runOnce_ledgers_of_refused base hledger hsigned).1, if_neg fun h => hd h.2]
    exact ⟨rfl, fun p hp => .inr hp⟩

private theorem settles_waiting_iff
    (htells : Tells order (.num order.quantity) "oms.order.created" event) :
    Settles base s order.action order.symbol [event] ↔ AllMock s := by
  have hn : signedMove order.action (s.positions.quantity order.symbol)
      (reportedFill [event]) = 0 := by
    simp [signedMove, reportedFill, htells.type]
  constructor
  · intro h
    obtain ⟨⟨hproc, -⟩, -⟩ := h [⟨"", event⟩] rfl
    exact (@processed_of_tells _ _ base s horder hquantity _ htells (by decide)).1.mp hproc
  · intro hmock deliveries hdeliveries
    obtain ⟨d, rfl, rfl⟩ := List.map_eq_singleton_iff.mp hdeliveries
    obtain ⟨hproc, hpositions, -⟩ :=
      @processed_of_tells _ _ base s horder hquantity d htells (by decide)
    refine ⟨⟨hproc.mpr hmock, trivial⟩, ?_⟩
    rw [run_cons, run_nil, hpositions, hn, add_zero]

private theorem settles_filled_iff
    (hcreated : Tells order (.num order.quantity) "oms.order.created" created)
    (htells : Tells order (.num order.quantity) "oms.order.filled" event) :
    Settles base s order.action order.symbol [created, event] ↔
      AllMock s ∧ epsilon < order.quantity ∧
        (∀ p ∈ s.positions.get? order.symbol, p.mode = "MOCK") ∧
        ∃ side, parseSide order.action = some side ∧
          snap (s.positions.quantity order.symbol + side.sign * order.quantity) =
            s.positions.quantity order.symbol + side.sign * order.quantity := by
  have hrep : reportedFill [created, event] = order.quantity := by
    obtain ⟨p, hbody, -, -, -, hq, -, -, -⟩ := htells.payload
    simp [reportedFill, reportedQuantity, hcreated.type, htells.type, hbody, hq,
      NumField.toFloatD]
  -- the created event comes first and leaves positions and prices as they are
  have hopened (d : Delivery) (hd : d.envelope = created) :=
    @processed_of_tells _ _ base s horder hquantity d (hd.symm ▸ hcreated) (by decide)
  have hmock' (d : Delivery) (hd : d.envelope = created) (hmock : AllMock s) :
      AllMock (receive base s d) := by
    obtain ⟨-, hpositions, hmarks⟩ := hopened d hd
    rw [AllMock, hpositions, hmarks]
    exact hmock
  constructor
  · intro h
    obtain ⟨⟨hfst, hsecond, -⟩, hmove⟩ := h [⟨"", created⟩, ⟨"", event⟩] rfl
    obtain ⟨hproc, hpositions, -⟩ := hopened ⟨"", created⟩ rfl
    have hmock := hproc.mp hfst
    obtain ⟨hdust, hmode, side, hparse⟩ := (@processed_of_filled _ base _ horder hquantity _ htells
      (hmock' _ rfl hmock)).mp hsecond
    have hquantity' := (@positions_of_filled _ base _ horder hquantity ⟨"", event⟩ htells hmode _
      hparse order.symbol).1
    rw [if_pos ⟨rfl, hdust⟩, hpositions] at hquantity'
    rw [hpositions] at hmode
    refine ⟨hmock, hdust, hmode, side, hparse, ?_⟩
    rw [run_cons, run_cons, run_nil, hquantity', hrep, signedMove_of_side horder hparse]
      at hmove
    exact hmove
  · rintro ⟨hmock, hdust, hmode, side, hparse, hsettled⟩ deliveries hdeliveries
    obtain ⟨d, rest, rfl, hd, hrest⟩ := List.map_eq_cons_iff.mp hdeliveries
    obtain ⟨d', rfl, rfl⟩ := List.map_eq_singleton_iff.mp hrest
    obtain ⟨hproc, hpositions, -⟩ := hopened d hd
    rw [← hpositions] at hmode
    refine ⟨⟨hproc.mpr hmock, ?_, trivial⟩, ?_⟩
    · exact (processed_of_filled horder hquantity htells (hmock' d hd hmock)).mpr
        ⟨hdust, hmode, side, hparse⟩
    · rw [run_cons, run_cons, run_nil,
        (positions_of_filled horder hquantity htells hmode hparse order.symbol).1,
        if_pos ⟨rfl, hdust⟩, hpositions, hsettled, hrep, signedMove_of_side horder hparse]

end

/-- The events of an accepted intent settle in the OMS exactly when the order they are of is one
the OMS can take. -/
theorem settles_iff_settleable {engine : Engine} {uuid5 : Uuid5} (base : ℚ) (s : RunnerState)
    (x : AcceptedIntent engine uuid5) :
    Settles base s x.result.action x.result.symbol x.result.events ↔
      ∀ order, readOrder uuid5 x.envelope x.payload = .ok order →
        Settleable s x.payload order := by
  obtain ⟨order, hread, horder, haction, hsymbol, hreports⟩ := x.reports
  have hone : (∀ order, readOrder uuid5 x.envelope x.payload = .ok order →
      Settleable s x.payload order) ↔ Settleable s x.payload order := by
    constructor
    · exact fun h => h order hread
    · intro h order' hread'
      exact Except.ok.inj (hread.symm.trans hread') ▸ h
  rw [hone, haction, hsymbol, Settleable]
  generalize x.result.events = events at hreports ⊢
  cases hreports with
  | ignored event hzero htells =>
    exact iff_of_false (not_settles_ignored horder hzero htells _ _) fun h => h.1 hzero
  | waiting event hquantity hwaits htells =>
    rw [settles_waiting_iff horder hquantity htells, and_iff_right hquantity.ne',
      and_iff_left fun hfills => absurd hfills hwaits]
  | filled created event hquantity hfills hoco hcreated htells =>
    rw [settles_filled_iff horder hquantity hcreated htells, and_iff_right hquantity.ne']
    exact and_congr_right fun _ => ⟨fun h _ => ⟨hoco, h⟩, fun h => (h hfills).2⟩
  | filledLeg created event cancelled hquantity hfills hoco hcreated htells hcancelled =>
    exact iff_of_false (not_settles_filledLeg horder hcancelled _ _)
      fun h => (h.2.2 hfills).1 hoco

/-! ### A filled CLOSE -/

private def closeEnvelope : IntentEnvelope :=
  mockIntent "k" { symbol := some "BTC/USDT", action := some "CLOSE", quantity := .num 1,
                   midPrice := .num 100 }

private def closeResult : Except SimulationError SimulationExecutionResult :=
  executeIntent defaultEngine oneUuid5 sampleTime closeEnvelope

private theorem closeResult_ok : ∃ h : closeResult.toOption.isSome = true,
    (closeResult.toOption.get h).action ≠ "HOLD" := by decide +kernel

/-- A CLOSE of one unit at market, as the engine accepts it. -/
def closeIntent : AcceptedIntent defaultEngine oneUuid5 where
  now := sampleTime
  envelope := closeEnvelope
  result := closeResult.toOption.get closeResult_ok.fst
  accepted := toOption_eq_some_iff.mp (Option.some_get closeResult_ok.fst).symm
  trades := closeResult_ok.snd

/-- The OMS after a BUY of two units. -/
def longTwo : RunnerState :=
  receive 0 {} ⟨"t0", filledEnvelope "a" "t0" "BUY" 2 100⟩

/-- The engine fills one unit of a CLOSE against a long position of two, and reports it: the OMS
refuses the side of the fill, and goes on holding two. -/
theorem filled_close_not_settled :
    let x := closeIntent
    let deliveries := x.result.events.map (⟨"t1", ·⟩)
    x.result.status = .filled ∧ reportedFill x.result.events = 1 ∧
      (run (receive 0) longTwo deliveries).positions.quantity "BTC/USDT" = 2 ∧
      ¬ Settles 0 longTwo x.result.action x.result.symbol x.result.events := by
  intro x deliveries
  have hrun : x.result.status = .filled ∧ reportedFill x.result.events = 1 ∧
      x.result.action = "CLOSE" ∧ x.result.symbol = "BTC/USDT" ∧
      longTwo.positions.quantity "BTC/USDT" = 2 ∧
      (run (receive 0) longTwo deliveries).positions.quantity "BTC/USDT" = 2 := by decide +kernel
  obtain ⟨hstatus, hfill, haction, hsymbol, hstart, hend⟩ := hrun
  refine ⟨hstatus, hfill, hend, fun h => ?_⟩
  obtain ⟨-, hmove⟩ := h deliveries (by simp [deliveries, Function.comp_def])
  exact absurd hmove (by decide +kernel)

end OpenTrader.Simulation
