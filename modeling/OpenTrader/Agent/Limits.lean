import OpenTrader.Agent.Sizing

/-!
# What a published intent has passed

Library `Agent`. `services/agent_orchestrator/orchestrator.py:59-455` with the guardrail of
`services/agent_orchestrator/guardrail_validation.py:17-160`. Suggestions of the language model
reach the plan, the risk assessment and the decision, and the guardrail is the last to look: what
it checks holds for every intent. What it takes from the stages before, the approval of the risk
agent, the mode of the message and the mid price, holds only as far as they are right.
-/

namespace OpenTrader.Agent
open Base Market Execution

/-- A market message that a cycle accepts. -/
structure CanonicalMessage where
  envelope : MarketEnvelope
  valid : validateEnvelope envelope = .ok ()
  canonical : isCanonicalType (envelope.eventType.getD "") = true

namespace CanonicalMessage

variable (now : UtcStamp) (suggestions : Suggestions) (strategy : StrategyConfig)
  (m : CanonicalMessage)

/-- What the agents see of the message. -/
def context : MarketContext := contextOf strategy m.envelope

/-- What the agents conclude from the message. -/
def conclusion : Conclusion := runAgents suggestions (m.context strategy) strategy

/-- The intent a cycle publishes for the message, with its routing key. -/
def intent : Option (String × IntentEnvelope) :=
  (handleMarketEvent now suggestions strategy m.envelope).toOption.bind (·.intent)

/-- The intent carries the decision, in the mode of the message and on its routing key. -/
theorem intent_eq :
    ∃ key, routingKeyForMode (m.envelope.mode.getD "") = .ok key ∧
      m.intent now suggestions strategy =
        if (m.conclusion suggestions strategy).shouldPublishIntent then
          some (key, intentEnvelope now m.envelope strategy (m.context strategy)
            (m.conclusion suggestions strategy).decision)
        else none := by
  obtain ⟨key, result, hk, hres, hint⟩ :=
    handleMarketEvent_ok now suggestions strategy m.valid m.canonical
  refine ⟨key, hk, ?_⟩
  rw [intent, hres]
  exact hint

/-- A decision to trade is published. -/
theorem intent_of_trades
    (h : (m.conclusion suggestions strategy).Trades strategy (m.context strategy)) :
    ∃ key, routingKeyForMode (m.envelope.mode.getD "") = .ok key ∧
      m.intent now suggestions strategy =
        some (key, intentEnvelope now m.envelope strategy (m.context strategy)
          (m.conclusion suggestions strategy).decision) := by
  obtain ⟨key, hk, hint⟩ := m.intent_eq now suggestions strategy
  have hpub : (m.conclusion suggestions strategy).shouldPublishIntent = true :=
    shouldPublishIntent_iff.mpr h
  rw [if_pos hpub] at hint
  exact ⟨key, hk, hint⟩

/-- An intent that is published carries a decision to trade. -/
theorem trades_of_intent {key : String} {intent : IntentEnvelope}
    (h : m.intent now suggestions strategy = some (key, intent)) :
    (m.conclusion suggestions strategy).Trades strategy (m.context strategy) ∧
      intent = intentEnvelope now m.envelope strategy (m.context strategy)
        (m.conclusion suggestions strategy).decision := by
  obtain ⟨key', -, hint⟩ := m.intent_eq now suggestions strategy
  rw [h] at hint
  split at hint
  · next hpub =>
    cases hint
    exact ⟨shouldPublishIntent_iff.mp hpub, rfl⟩
  · cases hint

theorem trades_conclusion_iff :
    (m.conclusion suggestions strategy).Trades strategy (m.context strategy) ↔
      suggestions.SendOrder strategy (m.context strategy) :=
  trades_iff (fromBook_enrich _ strategy)

theorem intent_eq_none_iff :
    m.intent now suggestions strategy = none ↔
      ¬ (m.conclusion suggestions strategy).Trades strategy (m.context strategy) := by
  constructor
  · intro hn htrades
    obtain ⟨key, -, hint⟩ := m.intent_of_trades now suggestions strategy htrades
    rw [hn] at hint
    cases hint
  · intro htrades
    cases hint : m.intent now suggestions strategy with
    | none => rfl
    | some sent => exact absurd (m.trades_of_intent now suggestions strategy hint).1 htrades

end CanonicalMessage

/-! ### A strategy and its messages -/

variable (real : Bool) (payload : MarketPayload)

private def sampleEnvelope : MarketEnvelope :=
  { traceId := some "5d0c7b1e-0000-4000-8000-000000000001"
    decisionId := some "5d0c7b1e-0000-4000-8000-000000000002"
    mode := some (if real then "REAL" else "MOCK")
    idempotencyKey := some "market.canonical.orderbook_delta:binance:BTC/USDT:7"
    eventType := some "market.canonical.orderbook_delta"
    emittedAt := some "2026-03-01T09:00:00Z"
    payload := some payload
    service := some "market_ingestion" }

private theorem sampleTexts_checked :
    (isUuid "5d0c7b1e-0000-4000-8000-000000000001" = true ∧
      isUuid "5d0c7b1e-0000-4000-8000-000000000002" = true ∧
      strip "market.canonical.orderbook_delta:binance:BTC/USDT:7" ≠ "" ∧
      strip "market.canonical.orderbook_delta" ≠ "" ∧
      isIsoDatetime "2026-03-01T09:00:00Z" = true) ∧
    isCanonicalType "market.canonical.orderbook_delta" = true ∧
    isIsoDatetime "2026-03-01T09:00:01Z" = true ∧
    upper "MOCK" = "MOCK" ∧ upper "REAL" = "REAL" := by
  decide +kernel

private theorem sampleEnvelope_valid : validateEnvelope (sampleEnvelope real payload) = .ok () := by
  obtain ⟨⟨htrace, hdec, hk, htype, htime⟩, -⟩ := sampleTexts_checked
  have hmode : (sampleEnvelope real payload).mode = some "MOCK" ∨
      (sampleEnvelope real payload).mode = some "REAL" := by
    cases real <;> simp [sampleEnvelope]
  exact (validateEnvelope_ok_iff _).mpr
    ⟨htrace, hdec, hmode, decide_eq_true hk, decide_eq_true htype, htime, rfl⟩

private theorem sampleEnvelope_canonical :
    isCanonicalType ((sampleEnvelope real payload).eventType.getD "") = true :=
  sampleTexts_checked.2.1

/-- A market message of a mode. -/
def sampleMessage : CanonicalMessage where
  envelope := sampleEnvelope real payload
  valid := sampleEnvelope_valid real payload
  canonical := sampleEnvelope_canonical real payload

/-- The clock of a cycle. -/
def sampleTime : UtcStamp := ⟨"2026-03-01T09:00:01Z", sampleTexts_checked.2.2.1⟩

/-- Three coins bid at 100 and one asked at 101. -/
def sampleBook : MarketPayload :=
  { exchange := some "binance"
    symbol := some "BTC/USDT"
    bids := [⟨.num 100, .num 3⟩]
    asks := [⟨.num 101, .num 1⟩] }

/-- The intent for a decision to trade on a sample message. -/
theorem intent_sampleMessage {real : Bool} {payload : MarketPayload} {suggestions : Suggestions}
    {strategy : StrategyConfig}
    (h : ((sampleMessage real payload).conclusion suggestions strategy).shouldPublishIntent =
      true) :
    (sampleMessage real payload).intent sampleTime suggestions strategy =
      some (if real then "execution.intent.real" else "execution.intent.mock",
        intentEnvelope sampleTime (sampleMessage real payload).envelope strategy
          ((sampleMessage real payload).context strategy)
          ((sampleMessage real payload).conclusion suggestions strategy).decision) := by
  obtain ⟨key, hk, hint⟩ :=
    (sampleMessage real payload).intent_eq sampleTime suggestions strategy
  obtain ⟨-, -, -, htexts⟩ := sampleTexts_checked
  have hroute : key = if real then "execution.intent.real" else "execution.intent.mock" := by
    cases real <;> simpa [sampleMessage, sampleEnvelope, routingKeyForMode, htexts] using hk.symm
  rw [hint, if_pos h, hroute]

/-! ### The veto of the risk agent -/

/-- A plan that the risk agent rejects leads to no intent exactly when the language model does not
approve it, or the order that it then comes to is not sendable. -/
theorem intent_eq_none_of_rejected_iff (now : UtcStamp) (suggestions : Suggestions)
    (strategy : StrategyConfig) (m : CanonicalMessage) :
    let context := m.context strategy
    let c := m.conclusion suggestions strategy
    ((evaluateRisk c.plan context strategy).approved = false →
        m.intent now suggestions strategy = none) ↔
      (¬ KeepsRiskLimits (suggestions.planned strategy context) context strategy →
        suggestions.ApproveRisk →
        ¬ (suggestions.order strategy context).Sendable strategy context) := by
  intro context c
  have hbook : FromBook context := fromBook_enrich _ strategy
  have hrejected : (evaluateRisk c.plan context strategy).approved = false ↔
      ¬ KeepsRiskLimits (suggestions.planned strategy context) context strategy := by
    rw [← plan_runAgents hbook, ← approved_evaluateRisk, Bool.not_eq_true]
    rfl
  rw [hrejected]
  apply forall_congr'
  intro hlimits
  have happroved : suggestions.Approve strategy context ↔ suggestions.ApproveRisk := by
    simp [Suggestions.Approve, hlimits]
  rw [m.intent_eq_none_iff now suggestions strategy, m.trades_conclusion_iff suggestions strategy,
    Suggestions.SendOrder, happroved, not_and]

/-- A plan to buy that is rejected for a drawdown of a half, and that the language model approves:
the intent to buy half a coin is published. -/
theorem rejected_plan_is_sent :
    let payload := { sampleBook with drawdownPct := .num (1 / 2) }
    let suggestions : Suggestions := { risk := some { approved := some true } }
    let m := sampleMessage false payload
    let c := m.conclusion suggestions sampleStrategy
    (evaluateRisk c.plan (m.context sampleStrategy) sampleStrategy).approved = false ∧
      (evaluateRisk c.plan (m.context sampleStrategy) sampleStrategy).blockedBy =
        ["drawdown_limit"] ∧
      (m.intent sampleTime suggestions sampleStrategy).map
          (fun sent => (sent.1, sent.2.payload.map fun p => (p.action, p.quantity))) =
        some ("execution.intent.mock", some (some "BUY", .num (1 / 2))) := by
  intro payload suggestions m c
  have hpublish : c.shouldPublishIntent = true := by decide +kernel
  refine ⟨by decide +kernel, by decide +kernel, ?_⟩
  rw [intent_sampleMessage hpublish]
  decide +kernel

/-! ### The mode of the strategy -/

/-- Every intent of a message is in the strategy's mode, on its routing key, exactly when the
message is in that mode or there is no order to send. -/
theorem intent_mode_iff (now : UtcStamp) (suggestions : Suggestions) (strategy : StrategyConfig)
    (m : CanonicalMessage) :
    (∀ key intent, m.intent now suggestions strategy = some (key, intent) →
        intent.mode = some strategy.mode ∧ routingKeyForMode strategy.mode = .ok key) ↔
      m.envelope.mode = some strategy.mode ∨
        ¬ suggestions.SendOrder strategy (m.context strategy) := by
  rw [← m.trades_conclusion_iff suggestions strategy]
  have hmode := (validateEnvelope_intentEnvelope now m.valid strategy (m.context strategy)
    (m.conclusion suggestions strategy).decision).2
  constructor
  · intro hkept
    by_cases htrades : (m.conclusion suggestions strategy).Trades strategy (m.context strategy)
    · obtain ⟨key, -, hintent⟩ := m.intent_of_trades now suggestions strategy htrades
      rw [← hmode]
      exact .inl (hkept _ _ hintent).1
    · exact .inr htrades
  · intro hcond key intent hsent
    obtain ⟨htrades, rfl⟩ := m.trades_of_intent now suggestions strategy hsent
    have hstrategy := hcond.resolve_right (not_not.mpr htrades)
    obtain ⟨key', hkey, hintent⟩ := m.intent_of_trades now suggestions strategy htrades
    cases hsent.symm.trans hintent
    rw [hstrategy] at hkey
    exact ⟨hmode.trans hstrategy, hkey⟩

/-- A MOCK strategy that is fed a REAL message trades on the REAL key. -/
theorem mock_strategy_sends_real :
    let m := sampleMessage true sampleBook
    sampleStrategy.mode = "MOCK" ∧
      (m.intent sampleTime {} sampleStrategy).map (fun sent => (sent.1, sent.2.mode)) =
        some ("execution.intent.real", some "REAL") := by
  intro m
  have hpublish : (m.conclusion {} sampleStrategy).shouldPublishIntent = true := by
    decide +kernel
  refine ⟨rfl, ?_⟩
  rw [intent_sampleMessage hpublish]
  decide +kernel

/-! ### A missing price -/

/-- The checks an order sized from a book passes without a price: its notional and its leverage
count as zero. -/
structure TradesUnpriced (strategy : StrategyConfig) (context : MarketContext) : Prop
    extends FitsPosition strategy context where
  notional : 0 ≤ strategy.riskMaxNotionalUsd
  leverage : 0 ≤ strategy.maxLeverage

private theorem acceptsSizedOrder_iff_of_unpriced {strategy : StrategyConfig}
    {context : MarketContext} (h : context.midPrice ≤ 0) :
    AcceptsSizedOrder strategy context ↔ TradesUnpriced strategy context := by
  have hprice : max context.midPrice 0 = 0 := max_eq_right h
  have hnotional : orderQuantity strategy context.orderbookImbalance * max context.midPrice 0 =
      0 := by rw [hprice, mul_zero]
  have hleverage (position : ℚ) : projectedLeverage position (max context.midPrice 0) = 0 := by
    rw [hprice, projectedLeverage, if_neg (lt_irrefl 0)]
  constructor
  · intro ha
    exact ⟨ha.toFitsPosition, hnotional ▸ ha.notional, hleverage _ ▸ ha.leverage⟩
  · intro ha
    exact ⟨ha.toFitsPosition, hnotional.symm ▸ ha.notional, (hleverage _).symm ▸ ha.leverage⟩

/-- Without a language model and without a positive mid price no intent is published exactly when
one of the checks that do not need a price fails. -/
theorem intent_eq_none_of_unpriced_iff (now : UtcStamp) (strategy : StrategyConfig)
    (m : CanonicalMessage) :
    ((m.context strategy).midPrice ≤ 0 → m.intent now {} strategy = none) ↔
      ((m.context strategy).midPrice ≤ 0 → ¬ TradesUnpriced strategy (m.context strategy)) := by
  apply forall_congr'
  intro hprice
  have htrades : (m.conclusion {} strategy).Trades strategy (m.context strategy) ↔
      AcceptsSizedOrder strategy (m.context strategy) :=
    shouldPublishIntent_iff.symm.trans (shouldPublishIntent_book (fromBook_enrich _ strategy))
  rw [m.intent_eq_none_iff now {} strategy, htrades, acceptsSizedOrder_iff_of_unpriced hprice]

/-- A book without asks has no mid price and an imbalance of one: a whole coin is bought. -/
theorem one_sided_book_is_traded :
    let m := sampleMessage false { sampleBook with asks := [] }
    (m.context sampleStrategy).midPrice = 0 ∧
      (m.intent sampleTime {} sampleStrategy).map
          (fun sent => (sent.1, sent.2.payload.map fun p => (p.action, p.quantity, p.midPrice))) =
        some ("execution.intent.mock", some (some "BUY", .num 1, .num 0)) := by
  intro m
  have hpublish : (m.conclusion {} sampleStrategy).shouldPublishIntent = true := by
    decide +kernel
  refine ⟨by decide +kernel, ?_⟩
  rw [intent_sampleMessage hpublish]
  decide +kernel

end OpenTrader.Agent
