import OpenTrader.Agent.Sizing
import OpenTrader.Simulation.Settlement

/-!
# The position limit of a strategy in simulation

Library `Simulation`. The feedback path of a MOCK strategy: the pipeline publishes an order book,
`services/market_ingestion/canonical_pipeline.py:34-47`, the orchestrator turns it into an intent,
`services/agent_orchestrator/orchestrator.py:59-543`, the engine executes the intent,
`services/simulation_execution/engine.py:32-172`, and the OMS books the events,
`services/workers/oms_lifecycle.py:84-205`, before the next book comes. The guardrail checks the
limit against the position the message carries, and no order-book message carries one.
-/

namespace OpenTrader.Simulation
open Base Market Agent Oms Execution

/-- An order book of the strategy's symbol, with the identifiers of its message and the clock of
the cycle. -/
structure MarketTick where
  stamp : MessageStamp
  delta : OrderBookDelta
  now : UtcStamp

/-- The delta of a tick, for a symbol. -/
def MarketTick.deltaFor (tick : MarketTick) (symbol : String) : OrderBookDelta :=
  { tick.delta with symbol }

/-- The OMS consumes the events of an execution in order. -/
def consumeEvents (base : ℚ) (now : UtcStamp) (oms : RunnerState) (events : List OrderEnvelope) :
    RunnerState :=
  run (fun oms event => (runOnce base now.text oms event).1) oms events

section

variable (strategy : StrategyConfig) (engine : Engine) (uuid5 : Uuid5) (base : ℚ)

/-- One cycle without a language model. A stage that raises ends it. -/
def tradingCycle (oms : RunnerState) (tick : MarketTick) : RunnerState :=
  match publishOrderBookDelta tick.stamp (tick.deltaFor strategy.symbol) "MOCK" with
  | .error _ => oms
  | .ok envelope =>
    match handleMarketEvent tick.now {} strategy envelope with
    | .error _ => oms
    | .ok result =>
      match result.intent with
      | none => oms
      | some (_, intent) =>
        match executeIntent engine uuid5 tick.now intent with
        | .error _ => oms
        | .ok execution => consumeEvents base tick.now oms execution.events

end

/-- The OMS position in the strategy's symbol is within the strategy's limit. -/
def PositionLimited (strategy : StrategyConfig) (oms : RunnerState) : Prop :=
  |oms.positions.quantity (strip strategy.symbol)| ≤ strategy.riskMaxPositionSize

/-! ### The position the books lead to -/

/-- An order is traded: the checks accept it, the engine has a symbol and a price for it, and it is
no dust to the OMS. The position held plays no part. -/
def IsTraded (strategy : StrategyConfig) (context : MarketContext) : Prop :=
  AcceptsOrder strategy context ∧ strip strategy.symbol ≠ "" ∧ 0 < context.midPrice ∧
    epsilon < |sizedQuantity strategy context|

instance (strategy : StrategyConfig) (context : MarketContext) :
    Decidable (IsTraded strategy context) :=
  inferInstanceAs (Decidable (_ ∧ _ ∧ _ ∧ _))

/-- The quantity traded on a context, if any. -/
def tradedQuantity (strategy : StrategyConfig) (context : MarketContext) : Option ℚ :=
  if IsTraded strategy context then some (sizedQuantity strategy context) else none

/-- What the agents see of a tick. -/
def tickContext (strategy : StrategyConfig) (tick : MarketTick) : MarketContext :=
  enrich (normalizeOrderBookDelta (tick.deltaFor strategy.symbol)) strategy

/-- The position after a book: the traded quantity is netted, dust is dropped. -/
def positionStep (strategy : StrategyConfig) (position : ℚ) (tick : MarketTick) : ℚ :=
  match tradedQuantity strategy (tickContext strategy tick) with
  | none => position
  | some quantity => snap (position + quantity)

/-- What is traded on the book passes the guardrail's position check against the position held, or
closes it up to dust. -/
def FitsPosition (strategy : StrategyConfig) (position : ℚ) (tick : MarketTick) : Prop :=
  ∀ quantity ∈ tradedQuantity strategy (tickContext strategy tick),
    withinPositionLimit strategy position quantity = true ∨ |position + quantity| ≤ epsilon

/-! ### A cycle trades what the book leads to -/

section

variable {strategy : StrategyConfig} {tick : MarketTick}

private theorem isFlat_tickContext : IsFlat strategy (tickContext strategy tick) :=
  isFlat_enrich strategy rfl

private theorem positionStep_of_traded (position : ℚ)
    (h : IsTraded strategy (tickContext strategy tick)) :
    positionStep strategy position tick =
      snap (position + sizedQuantity strategy (tickContext strategy tick)) := by
  unfold positionStep
  rw [tradedQuantity, if_pos h]

private theorem positionStep_of_not_traded (position : ℚ)
    (h : ¬ IsTraded strategy (tickContext strategy tick)) :
    positionStep strategy position tick = position := by
  unfold positionStep
  rw [tradedQuantity, if_neg h]

private theorem marketIntent_of_accepted (now : UtcStamp) {envelope : MarketEnvelope}
    (hv : validateEnvelope envelope = .ok ()) (hmode : envelope.mode = some "MOCK")
    (h : AcceptsOrder strategy (tickContext strategy tick)) :
    MarketIntent
      (intentEnvelope now envelope strategy (tickContext strategy tick)
        (runAgents {} (tickContext strategy tick) strategy).decision)
      (intentPayload strategy (tickContext strategy tick) (envelope.decisionId.getD "")
        (runAgents {} (tickContext strategy tick) strategy).decision)
      (selectAction (tickContext strategy tick).orderbookImbalance strategy).name
      (sizedQuantity strategy (tickContext strategy tick))
      (tickContext strategy tick).midPrice := by
  obtain ⟨hact, hquantity, htype, hlimit⟩ := decision_of_acceptsOrder isFlat_tickContext h
  obtain ⟨hint, hsame⟩ := validateEnvelope_intentEnvelope now hv strategy
    (tickContext strategy tick) (runAgents {} (tickContext strategy tick) strategy).decision
  have hmarket : upper (strip "MARKET") = "MARKET" := by decide +kernel
  exact
    { valid := hint
      mode := hsame.trans hmode
      payload_eq := rfl
      action_eq := by rw [intentPayload, hact]
      side := by rcases h.direction with ⟨hs, -⟩ | ⟨hs, -⟩ <;> simp [hs, DecisionAction.name]
      orderType_eq := by simp [intentPayload, htype, hmarket]
      quantity_eq := by rw [intentPayload, hquantity]
      quantity_ne_zero := by rcases h.direction with ⟨-, hq⟩ | ⟨-, hq⟩ <;> linarith
      midPrice_eq := rfl
      unpriced := ⟨by rw [intentPayload, hlimit]; rfl, rfl, rfl⟩ }

variable (engine : Engine) (uuid5 : Uuid5) (base : ℚ) (oms : RunnerState)

private theorem tradingCycle_cases (strategy : StrategyConfig) (tick : MarketTick) :
    (¬ AcceptsOrder strategy (tickContext strategy tick) ∧
        tradingCycle strategy engine uuid5 base oms tick = oms) ∨
      AcceptsOrder strategy (tickContext strategy tick) ∧ ∃ intent payload,
        MarketIntent intent payload
          (selectAction (tickContext strategy tick).orderbookImbalance strategy).name
          (sizedQuantity strategy (tickContext strategy tick))
          (tickContext strategy tick).midPrice ∧
        payload.symbol = some strategy.symbol ∧
        tradingCycle strategy engine uuid5 base oms tick =
          match executeIntent engine uuid5 tick.now intent with
          | .error _ => oms
          | .ok execution => consumeEvents base tick.now oms execution.events := by
  obtain ⟨envelope, hpub, hv, -, -, hmode, htype, hbody⟩ :=
    publishOrderBookDelta_ok tick.stamp (tick.deltaFor strategy.symbol) (.inl rfl)
  have hcanonical : isCanonicalType (envelope.eventType.getD "") = true := by
    rw [htype]
    decide +kernel
  obtain ⟨key, result, -, hres, hint⟩ :=
    handleMarketEvent_ok tick.now {} strategy hv hcanonical
  have hcontext : contextOf strategy envelope = tickContext strategy tick := by
    rw [contextOf, hbody]
    rfl
  have hcycle : tradingCycle strategy engine uuid5 base oms tick =
      match result.intent with
      | none => oms
      | some (_, intent) =>
        match executeIntent engine uuid5 tick.now intent with
        | .error _ => oms
        | .ok execution => consumeEvents base tick.now oms execution.events := by
    simp only [tradingCycle, hpub, hres]
  rw [hcontext] at hint
  by_cases hacc : AcceptsOrder strategy (tickContext strategy tick)
  · rw [if_pos ((shouldPublishIntent_flat isFlat_tickContext).mpr hacc)] at hint
    refine .inr ⟨hacc, _, _, marketIntent_of_accepted tick.now hv hmode hacc, rfl, ?_⟩
    rw [hcycle, hint]
  · rw [if_neg (mt (shouldPublishIntent_flat isFlat_tickContext).mp hacc)] at hint
    refine .inl ⟨hacc, ?_⟩
    rw [hcycle, hint]

private def HoldsMock (strategy : StrategyConfig) (oms : RunnerState) : Prop :=
  ∀ p ∈ oms.positions.get? (strip strategy.symbol), p.mode = "MOCK"

variable {context : MarketContext}

private theorem parseSide_direction (h : AcceptsOrder strategy context) :
    ∃ side, parseSide (selectAction context.orderbookImbalance strategy).name = some side ∧
      side.sign * |sizedQuantity strategy context| = sizedQuantity strategy context := by
  have hsides : parseSide DecisionAction.buy.name = some .buy ∧
      parseSide DecisionAction.sell.name = some .sell := by decide +kernel
  rcases h.direction with ⟨hs, hq⟩ | ⟨hs, hq⟩
  · exact ⟨.buy, by rw [hs]; exact hsides.1, by rw [Side.sign, abs_of_pos hq, one_mul]⟩
  · exact ⟨.sell, by rw [hs]; exact hsides.2, by rw [Side.sign, abs_of_neg hq]; ring⟩

private theorem quantity_consumeEvents (now : UtcStamp) {payload : IntentPayload}
    {order : SimulatedOrder} {events : List OrderEnvelope} (horder : Readable order)
    (htype : order.orderType = "MARKET") (hne : order.quantity ≠ 0)
    (hreports : Reports payload order events) {side : Side}
    (hparse : parseSide order.action = some side)
    (hmock : ∀ p ∈ oms.positions.get? order.symbol, p.mode = "MOCK") :
    (consumeEvents base now oms events).positions.quantity order.symbol =
        (if epsilon < order.quantity then
          snap (oms.positions.quantity order.symbol + side.sign * order.quantity)
        else oms.positions.quantity order.symbol) ∧
      ∀ p ∈ (consumeEvents base now oms events).positions.get? order.symbol, p.mode = "MOCK" := by
  cases hreports with
  | ignored _ hz => exact absurd hz hne
  | waiting _ _ hwaits => exact absurd (.inl htype) hwaits
  | filledLeg _ _ _ _ _ hoco => exact absurd (htype.symm.trans hoco) (by decide)
  | filled created event hquantity _ _ hcreated htells =>
    obtain ⟨-, hpositions, -⟩ := @processed_of_tells _ _ base oms horder hquantity
      ⟨now.text, created⟩ hcreated (by decide)
    obtain ⟨hq, hmode⟩ := @positions_of_filled _ base _ horder hquantity ⟨now.text, event⟩ htells
      (by rw [hpositions]; exact hmock) _ hparse order.symbol
    rw [hpositions] at hq hmode
    simp only [true_and] at hq
    exact ⟨hq, fun p hp => (hmode p hp).elim id (hmock p)⟩

private theorem quantity_tradingCycle (hmock : HoldsMock strategy oms) :
    (tradingCycle strategy engine uuid5 base oms tick).positions.quantity (strip strategy.symbol) =
        positionStep strategy (oms.positions.quantity (strip strategy.symbol)) tick ∧
      HoldsMock strategy (tradingCycle strategy engine uuid5 base oms tick) := by
  rcases tradingCycle_cases engine uuid5 base oms strategy tick with
    ⟨hrejected, hcycle⟩ | ⟨hacc, intent, payload, hint, hsym, hcycle⟩
  · rw [hcycle, positionStep_of_not_traded _ fun h => hrejected h.1]
    exact ⟨rfl, hmock⟩
  have hexecuted := executeIntent_market_isOk_iff engine uuid5 tick.now hint
  rw [hsym, Option.getD_some] at hexecuted
  rw [hcycle]
  cases hok : executeIntent engine uuid5 tick.now intent with
  | error error =>
    rw [hok] at hexecuted
    rw [positionStep_of_not_traded _ fun h => ?_]
    · exact ⟨rfl, hmock⟩
    · obtain ⟨_, ⟨⟩⟩ := hexecuted.mpr ⟨h.2.1, h.2.2.1⟩
  | ok execution =>
    obtain ⟨hblank, hmid⟩ := hexecuted.mp ⟨execution, hok⟩
    obtain ⟨order, hread, horder, -, -, hreports⟩ := reports_of_executeIntent hok
    have hmarket := readOrder_market uuid5 hint (by rw [hsym]; exact hblank)
    rw [hsym, Option.getD_some] at hmarket
    rw [hint.payload_eq, Option.getD_some] at hread hreports
    obtain rfl := Except.ok.inj (hmarket.symm.trans hread)
    obtain ⟨side, hparse, hsign⟩ := parseSide_direction hacc
    obtain ⟨hq, hmock'⟩ := quantity_consumeEvents base oms tick.now horder rfl
      (abs_ne_zero.mpr hint.quantity_ne_zero)
      (hreports (by rcases hint.side with h | h <;> simp [h])) hparse hmock
    refine ⟨hq.trans ?_, hmock'⟩
    rw [hsign]
    by_cases hd : epsilon < |sizedQuantity strategy (tickContext strategy tick)|
    · rw [if_pos hd, positionStep_of_traded _ ⟨hacc, hblank, hmid, hd⟩]
    · rw [if_neg hd, positionStep_of_not_traded _ fun h => hd h.2.2.2]

private theorem holdsMock_empty : HoldsMock strategy {} := by
  intro p hp
  cases hp

private theorem quantity_run (strategy : StrategyConfig) (ticks : List MarketTick) :
    (run (tradingCycle strategy engine uuid5 base) {} ticks).positions.quantity
        (strip strategy.symbol) = run (positionStep strategy) 0 ticks :=
  run_simulation (fun oms : RunnerState => oms.positions.quantity (strip strategy.symbol))
    (fun oms _ h => (quantity_tradingCycle engine uuid5 base oms h).2)
    (fun oms _ h => (quantity_tradingCycle engine uuid5 base oms h).1) ticks holdsMock_empty

end

/-! ### The limit over whole runs -/

private theorem abs_snap_le_iff {limit : ℚ} (hlimit : 0 ≤ limit) (quantity : ℚ) :
    |snap quantity| ≤ limit ↔ |quantity| ≤ limit ∨ |quantity| ≤ epsilon := by
  by_cases hd : |quantity| ≤ epsilon
  · simp [snap, hd, hlimit]
  · simp [snap, hd]

private theorem abs_positionStep_le_iff {strategy : StrategyConfig} (tick : MarketTick)
    (hlimit : 0 ≤ strategy.riskMaxPositionSize) {position : ℚ}
    (hposition : |position| ≤ strategy.riskMaxPositionSize) :
    |positionStep strategy position tick| ≤ strategy.riskMaxPositionSize ↔
      FitsPosition strategy position tick := by
  unfold positionStep FitsPosition
  cases tradedQuantity strategy (tickContext strategy tick) with
  | none => simpa using hposition
  | some quantity => simp [abs_snap_le_iff hlimit, withinPositionLimit]

/-- In every run of cycles from an empty OMS, the position stays within the strategy's limit exactly
when the limit is not negative and everything traded fits the position held at that moment. -/
theorem positionLimited_iff_fitsPosition (strategy : StrategyConfig) (engine : Engine)
    (uuid5 : Uuid5) (base : ℚ) (ticks : List MarketTick) :
    Throughout (tradingCycle strategy engine uuid5 base) (PositionLimited strategy) {} ticks ↔
      0 ≤ strategy.riskMaxPositionSize ∧
        Along (positionStep strategy) (FitsPosition strategy) 0 ticks := by
  have hpositions : Throughout (tradingCycle strategy engine uuid5 base) (PositionLimited strategy)
      {} ticks ↔ Throughout (positionStep strategy)
        (fun position => |position| ≤ strategy.riskMaxPositionSize) 0 ticks :=
    throughout_simulation (fun oms : RunnerState => oms.positions.quantity (strip strategy.symbol))
      (fun oms _ h => (quantity_tradingCycle engine uuid5 base oms h).2)
      (fun oms _ h => (quantity_tradingCycle engine uuid5 base oms h).1)
      (fun position => |position| ≤ strategy.riskMaxPositionSize) ticks holdsMock_empty
  rw [hpositions]
  by_cases hlimit : 0 ≤ strategy.riskMaxPositionSize
  · have hstep (position : ℚ) (tick : MarketTick)
        (hposition : |position| ≤ strategy.riskMaxPositionSize) :
        |positionStep strategy position tick| ≤ strategy.riskMaxPositionSize ↔
          FitsPosition strategy position tick :=
      abs_positionStep_le_iff tick hlimit hposition
    have hstart : |(0 : ℚ)| ≤ strategy.riskMaxPositionSize := by rwa [abs_zero]
    rw [and_iff_right hlimit]
    exact throughout_iff_along_of_step hstep ticks hstart
  · refine iff_of_false (fun ht => hlimit ?_) fun h => hlimit h.1
    exact (abs_nonneg _).trans ht.head

/-! ### Two orders of the size of the limit -/

private def limitStrategy : StrategyConfig :=
  { sampleStrategy with orderSize := 2, riskMaxPositionSize := 1 }

private def simulatedUuid5 : Uuid5 where
  -- the idempotency keys of the two ticks differ in their last digit, 2 and 3
  text name := if name.toList.count '2' % 2 = 0 then "sim-1" else "sim-2"
  stripped name := by split <;> decide +kernel
  nonempty name := by split <;> decide

private def bidHeavyTick (decisionId : String) (hid : isUuid decisionId = true) : MarketTick where
  stamp :=
    { traceId := "7a5b6a5e-0000-4000-8000-000000000001"
      decisionId
      emittedAt := ⟨"2026-02-14T16:30:00Z", by decide +kernel⟩
      validIds := ⟨by decide +kernel, hid⟩ }
  delta := { exchange := "binance", symbol := "BTC/USDT", bids := [⟨100, 3⟩], asks := [⟨101, 1⟩] }
  now := ⟨"2026-02-14T16:30:01Z", by decide +kernel⟩

private def twoTicks : List MarketTick :=
  [bidHeavyTick "7a5b6a5e-0000-4000-8000-000000000002" (by decide +kernel),
    bidHeavyTick "7a5b6a5e-0000-4000-8000-000000000003" (by decide +kernel)]

/-- Two order books with an imbalance of one half, each traded with a BUY of one: the limit is one,
and the OMS holds two. -/
theorem position_limit_exceeded_by_second_order :
    ¬ Throughout (tradingCycle limitStrategy {} simulatedUuid5 0) (PositionLimited limitStrategy) {}
        twoTicks ∧
      (run (tradingCycle limitStrategy {} simulatedUuid5 0) {} twoTicks).positions.quantity
        "BTC/USDT" = 2 := by
  have hsymbol : strip limitStrategy.symbol = "BTC/USDT" := by decide +kernel
  have hnetted : run (positionStep limitStrategy) 0 twoTicks = 2 := by decide +kernel
  have hquantity := quantity_run {} simulatedUuid5 0 limitStrategy twoTicks
  rw [hsymbol, hnetted] at hquantity
  refine ⟨fun ht => ?_, hquantity⟩
  have hlast := ht.last
  rw [PositionLimited, hsymbol, hquantity] at hlast
  exact absurd hlast (by decide +kernel)

end OpenTrader.Simulation
