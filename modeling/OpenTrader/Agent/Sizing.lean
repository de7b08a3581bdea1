import Mathlib.Algebra.Order.Ring.Abs
import OpenTrader.Agent.Orchestrator

/-!
# Orders sized from an order book

Library `Agent`. What the agents make of a market message: the order is sized from the top of the
book, with what a language model suggests put over it. An order-book message of the pipeline
carries no position, so without suggestions the agents decide as if the strategy were flat, and the
order depends on the book and the strategy alone.
-/

namespace OpenTrader.Agent
open Base Market

/-- The imbalance of a context is that of its top of the book. -/
structure FromBook (context : MarketContext) : Prop where
  imbalance : context.orderbookImbalance = imbalance context.bestBidSize context.bestAskSize
  sizes : 0 ≤ context.bestBidSize ∧ 0 ≤ context.bestAskSize

/-- A context that carries no position and no drawdown, for the strategy's symbol. -/
structure IsFlat (strategy : StrategyConfig) (context : MarketContext) : Prop
    extends FromBook context where
  position : context.currentPosition = 0
  drawdown : context.drawdownPct = 0
  symbol : context.symbol = strategy.symbol

/-- Size of an order for an imbalance: the strategy's order size scaled by the confidence. -/
def orderQuantity (strategy : StrategyConfig) (imbalance : ℚ) : ℚ :=
  |strategy.orderSize * min 1 (|imbalance|)|

/-- A size in the direction of an action. -/
def DecisionAction.signed : DecisionAction → ℚ → ℚ
  | .buy, size => size
  | .sell, size => -size
  | _, _ => 0

/-- The book asks for a trade of an allowed action, with enough confidence and a positive size. -/
@[mk_iff] structure SignalsTrade (strategy : StrategyConfig) (context : MarketContext) : Prop where
  trades : selectAction context.orderbookImbalance strategy ≠ .hold
  allowed : selectAction context.orderbookImbalance strategy ∈ strategy.allowedActions
  confident : strategy.riskMinConfidence ≤ min 1 |context.orderbookImbalance|
  positive : 0 < orderQuantity strategy context.orderbookImbalance

instance (strategy : StrategyConfig) (context : MarketContext) :
    Decidable (SignalsTrade strategy context) :=
  decidable_of_iff _ (signalsTrade_iff strategy context).symm

/-- The checks an order sized from a book passes: none of them knows the position held. -/
@[mk_iff] structure AcceptsOrder (strategy : StrategyConfig) (context : MarketContext) : Prop
    extends SignalsTrade strategy context where
  notional : orderQuantity strategy context.orderbookImbalance * max context.midPrice 0 ≤
    strategy.riskMaxNotionalUsd
  size : orderQuantity strategy context.orderbookImbalance ≤ strategy.riskMaxPositionSize
  drawdown : 0 ≤ strategy.riskMaxDrawdownPct
  leverage : projectedLeverage (orderQuantity strategy context.orderbookImbalance)
    (max context.midPrice 0) ≤ strategy.maxLeverage

instance (strategy : StrategyConfig) (context : MarketContext) :
    Decidable (AcceptsOrder strategy context) :=
  decidable_of_iff _ (acceptsOrder_iff strategy context).symm

/-- The quantity an accepted order asks for. -/
def sizedQuantity (strategy : StrategyConfig) (context : MarketContext) : ℚ :=
  (selectAction context.orderbookImbalance strategy).signed
    (orderQuantity strategy context.orderbookImbalance)

/-- A trade in the strategy's symbol that fits the position and the drawdown of its context. -/
structure FitsPosition (strategy : StrategyConfig) (context : MarketContext) : Prop
    extends SignalsTrade strategy context where
  symbol : context.symbol = strategy.symbol
  position : |context.currentPosition| + orderQuantity strategy context.orderbookImbalance ≤
    strategy.riskMaxPositionSize
  drawdown : context.drawdownPct ≤ strategy.riskMaxDrawdownPct

/-- The checks an order sized from a book passes on a context that may carry a position and a
drawdown. -/
structure AcceptsSizedOrder (strategy : StrategyConfig) (context : MarketContext) : Prop
    extends FitsPosition strategy context where
  notional : orderQuantity strategy context.orderbookImbalance * max context.midPrice 0 ≤
    strategy.riskMaxNotionalUsd
  leverage : projectedLeverage (context.currentPosition + sizedQuantity strategy context)
    (max context.midPrice 0) ≤ strategy.maxLeverage

private theorem selectAction_cases (i : ℚ) (strategy : StrategyConfig) :
    selectAction i strategy = .buy ∨ selectAction i strategy = .sell ∨
      selectAction i strategy = .hold := by
  unfold selectAction
  split_ifs <;> simp

/-- The book asks to buy a positive or to sell a negative quantity. -/
theorem SignalsTrade.direction {strategy : StrategyConfig} {context : MarketContext}
    (h : SignalsTrade strategy context) :
    (selectAction context.orderbookImbalance strategy = .buy ∧
        0 < sizedQuantity strategy context) ∨
      (selectAction context.orderbookImbalance strategy = .sell ∧
        sizedQuantity strategy context < 0) := by
  have hpos := h.positive
  rcases selectAction_cases context.orderbookImbalance strategy with hs | hs | hs
  · refine .inl ⟨hs, ?_⟩
    rwa [sizedQuantity, hs, DecisionAction.signed]
  · refine .inr ⟨hs, ?_⟩
    rwa [sizedQuantity, hs, DecisionAction.signed, neg_lt_zero]
  · exact absurd hs h.trades

/-! ### Order-book messages carry no position -/

private theorem bestLevel_nonneg (side : BookSide) (levels : List (ℚ × ℚ))
    (h : ∀ level ∈ levels, 0 ≤ level.2) : ∀ level ∈ bestLevel side levels, 0 ≤ level.2 := by
  -- the best level so far is one of the levels read
  refine List.foldlRecOn (motive := fun best : Option (ℚ × ℚ) => ∀ level ∈ best, 0 ≤ level.2)
    levels _ (by simp) ?_
  intro best hbest next hnext
  have hsize : ∀ level ∈ some next, 0 ≤ level.2 := by simpa using h next hnext
  cases best with
  | none => exact hsize
  | some b =>
    dsimp only
    split
    · exact hsize
    · exact hbest

private theorem extractLevel_nonneg (side : BookSide) (levels : List MarketLevel) :
    0 ≤ (extractLevel side levels).2 := by
  have hparsed : ∀ level ∈ levels.filterMap parseLevel, 0 ≤ level.2 := by
    intro level hlevel
    obtain ⟨raw, -, hraw⟩ := List.mem_filterMap.mp hlevel
    unfold parseLevel at hraw
    split at hraw
    · cases hraw
      exact le_max_left _ _
    · cases hraw
  have hbest := bestLevel_nonneg side _ hparsed
  unfold extractLevel
  cases hb : bestLevel side (levels.filterMap parseLevel) with
  | none => exact le_refl 0
  | some level => exact hbest level hb

/-- The context the agents see shows the imbalance of its top of the book. -/
theorem fromBook_enrich (payload : MarketPayload) (strategy : StrategyConfig) :
    FromBook (enrich payload strategy) where
  imbalance := rfl
  sizes := ⟨extractLevel_nonneg .bid _, extractLevel_nonneg .ask _⟩

/-- The context of a canonical order-book message is flat, whatever the strategy holds. -/
theorem isFlat_enrich (strategy : StrategyConfig) {delta : OrderBookDelta}
    (hsymbol : delta.symbol = strategy.symbol) :
    IsFlat strategy (enrich (normalizeOrderBookDelta delta) strategy) where
  toFromBook := fromBook_enrich (normalizeOrderBookDelta delta) strategy
  position := rfl
  drawdown := rfl
  symbol := hsymbol

/-! ### What the agents make of a context -/

/-- The limits of a strategy that a decision to trade keeps. -/
@[mk_iff] structure WithinLimits (strategy : StrategyConfig) (context : MarketContext)
    (decision : ExecutionDecision) : Prop where
  executable : decision.action ≠ .hold
  allowed : decision.action ∈ strategy.allowedActions
  signed : quantitySemanticsValid decision.action decision.quantity = true
  symbol : context.symbol = strategy.symbol
  confident : strategy.riskMinConfidence ≤ decision.confidence
  notional : |decision.quantity| * max context.midPrice 0 ≤ strategy.riskMaxNotionalUsd
  position : |context.currentPosition + decision.quantity| ≤ strategy.riskMaxPositionSize
  leverage : projectedLeverage (context.currentPosition + decision.quantity)
    (max context.midPrice 0) ≤ strategy.maxLeverage

/-- A decision that is sent when the risk assessment is approved. -/
def ExecutionDecision.Sendable (strategy : StrategyConfig) (context : MarketContext)
    (decision : ExecutionDecision) : Prop :=
  decision.constraints.schemaValid = true ∧ WithinLimits strategy context decision

/-- The agents conclude that the order is to be sent. -/
def Conclusion.Trades (strategy : StrategyConfig) (context : MarketContext) (c : Conclusion) :
    Prop :=
  c.risk.approved = true ∧ c.decision.Sendable strategy context

namespace Suggestions

variable (suggestions : Suggestions) (strategy : StrategyConfig) (context : MarketContext)

/-- The plan: as the language model suggests it and, where it suggests nothing, as the book asks
for it. -/
def planned : PlannerDecision :=
  let action := selectAction context.orderbookImbalance strategy
  let confidence := min 1 |context.orderbookImbalance|
  let size := strategy.orderSize * max confidence strategy.riskMinConfidence
  applyPlannerSuggestion suggestions.plan
    { action, confidence, targetQuantity := action.signed size }

/-- The language model approves in the place of the risk agent. -/
def ApproveRisk : Prop := suggestions.risk.bind (·.approved) = some true

/-- The plan is approved: by the language model or, where it says nothing, because the plan keeps
the limits of the risk agent. -/
def Approve : Prop :=
  suggestions.ApproveRisk ∨ suggestions.risk.bind (·.approved) = none ∧
    KeepsRiskLimits (suggestions.planned strategy context) context strategy

/-- The size of a trade: the one that the language model approves, the planned one or the one of
the strategy, the first of them that is not zero. -/
def size : ℚ :=
  let approved := (suggestions.risk.bind (·.approvedQuantity)).getD 0
  let planned := (suggestions.planned strategy context).targetQuantity
  if approved ≠ 0 then approved else if planned ≠ 0 then planned else strategy.orderSize

/-- The order an approved plan comes to, with what the language model suggests for it. A CLOSE
takes the position back, and a trade of nothing is a HOLD. -/
def order : ExecutionDecision :=
  let plan := suggestions.planned strategy context
  let quantity :=
    if plan.action = .close then -context.currentPosition
    else plan.action.signed |suggestions.size strategy context|
  applyExecutionSuggestion suggestions.execution
    { action := if quantity = 0 then .hold else plan.action
      quantity
      confidence := clampConfidence plan.confidence
      constraints :=
        { schemaValid := true, riskApproved := true, blockedBy := [], mode := strategy.mode } }

/-- The plan is approved and the order it comes to is sendable. -/
def SendOrder : Prop :=
  suggestions.Approve strategy context ∧
    (suggestions.order strategy context).Sendable strategy context

end Suggestions

variable {suggestions : Suggestions} {strategy : StrategyConfig} {context : MarketContext}

private theorem isExecutable_iff_ne_hold (action : DecisionAction) :
    action.isExecutable = true ↔ action ≠ .hold := by
  cases action <;> simp [DecisionAction.isExecutable]

private theorem ne_zero_of_signed {action : DecisionAction} {quantity : ℚ} (h : action ≠ .hold)
    (hsigned : quantitySemanticsValid action quantity = true) : quantity ≠ 0 := by
  cases action with
  | buy => exact (of_decide_eq_true hsigned).ne'
  | sell => exact (of_decide_eq_true hsigned).ne
  | close => exact of_decide_eq_true hsigned
  | hold => exact absurd rfl h

theorem WithinLimits.quantity_ne_zero {decision : ExecutionDecision}
    (h : WithinLimits strategy context decision) : decision.quantity ≠ 0 :=
  ne_zero_of_signed h.executable h.signed

/-- The guardrail is the last to look at a decision, so it is sent exactly when the assessment it
was made from is approved and it keeps the limits. -/
theorem shouldPublishIntent_iff :
    let c := runAgents suggestions context strategy
    c.shouldPublishIntent = true ↔ c.Trades strategy context := by
  intro c
  simp only [Conclusion.shouldPublishIntent, Bool.and_eq_true, decide_eq_true_eq]
  constructor
  · rintro ⟨⟨⟨⟨hok, hallow⟩, hschema⟩, hexecutable⟩, -⟩
    obtain ⟨hact, hsigned, hsym, hconfident, -, hnotional, hposition, hleverage⟩ :=
      (allowed_validateDecision strategy context c.risk c.decision hexecutable).mp hallow
    exact ⟨hok, hschema, (isExecutable_iff_ne_hold _).mp hexecutable, hact, hsigned,
      hsym, hconfident, hnotional, of_decide_eq_true hposition, hleverage⟩
  · rintro ⟨hok, hschema, h⟩
    have hexecutable := (isExecutable_iff_ne_hold c.decision.action).mpr h.executable
    refine ⟨⟨⟨⟨hok, ?_⟩, hschema⟩, hexecutable⟩, h.quantity_ne_zero⟩
    exact (allowed_validateDecision strategy context c.risk c.decision hexecutable).mpr
      ⟨h.allowed, h.signed, h.symbol, h.confident, hok, h.notional,
        decide_eq_true h.position, h.leverage⟩

theorem plan_runAgents (h : FromBook context) :
    (runAgents suggestions context strategy).plan = suggestions.planned strategy context := by
  have hbook : buildPlan context strategy = ({} : Suggestions).planned strategy context := by
    simp only [buildPlan, max_eq_right h.sizes.1, max_eq_right h.sizes.2, ← h.imbalance]
    rcases selectAction_cases context.orderbookImbalance strategy with hs | hs | hs <;>
      simp [Suggestions.planned, applyPlannerSuggestion, hs, DecisionAction.signed]
  rw [runAgents, hbook]
  rfl

private theorem approved_runAgents (h : FromBook context) :
    (runAgents suggestions context strategy).risk.approved = true ↔
      suggestions.Approve strategy context := by
  have hget (risk : RiskAssessment) : (applyRiskSuggestion suggestions.risk risk).approved =
      (suggestions.risk.bind (·.approved)).getD risk.approved := by
    cases suggestions.risk <;> rfl
  rw [Suggestions.Approve, Suggestions.ApproveRisk, ← plan_runAgents h, ← approved_evaluateRisk,
    ← Option.getD_eq_iff]
  exact iff_of_eq (congrArg (· = true) (hget _))

private theorem resolveQuantity_runAgents (h : FromBook context) :
    let c := runAgents suggestions context strategy
    resolveQuantity c.plan.action c.plan c.risk context.currentPosition strategy.orderSize =
      if c.plan.action = .close then -context.currentPosition
      else c.plan.action.signed |suggestions.size strategy context| := by
  intro c
  have happroved : c.risk.approvedQuantity = (suggestions.risk.bind (·.approvedQuantity)).getD
      (evaluateRisk c.plan context strategy).approvedQuantity := by
    simp only [c, runAgents, applyRiskSuggestion]
    cases suggestions.risk <;> rfl
  -- the size that the risk agent approves is the planned one or zero
  have hsize : suggestions.size strategy context =
      if c.risk.approvedQuantity ≠ 0 then c.risk.approvedQuantity
      else if c.plan.targetQuantity ≠ 0 then c.plan.targetQuantity else strategy.orderSize := by
    rw [happroved, Suggestions.size, ← plan_runAgents h, evaluateRisk]
    cases suggestions.risk.bind (·.approvedQuantity) with
    | some quantity => rfl
    | none => dsimp only [Option.getD_none]; split_ifs <;> simp_all [c]
  rw [hsize]
  cases c.plan.action <;> simp [resolveQuantity, DecisionAction.signed]

/-- On approval the decision is the order that the plan comes to. -/
theorem decision_of_approve (h : FromBook context)
    (hok : suggestions.Approve strategy context) :
    let decision := (runAgents suggestions context strategy).decision
    let order := suggestions.order strategy context
    decision.action = order.action ∧ decision.quantity = order.quantity ∧
      decision.confidence = order.confidence ∧
      decision.constraints.schemaValid = order.constraints.schemaValid := by
  intro decision order
  obtain ⟨ha, hq, hc, hs⟩ :=
    proposeAction_of_approved ((approved_runAgents h).mpr hok) (resolveQuantity_runAgents h)
  have hdecision : decision = applyExecutionSuggestion suggestions.execution
      (proposeAction (runAgents suggestions context strategy).plan
        (runAgents suggestions context strategy).risk context strategy) := rfl
  rw [plan_runAgents h] at ha hq hc hs hdecision
  rw [hdecision]
  simp only [order, Suggestions.order]
  cases suggestions.execution <;>
    simp [applyExecutionSuggestion, Constraints.update, ha, hq, hc, hs]

/-- What the agents conclude from the strategy, the suggestions and the context alone. -/
theorem trades_iff (h : FromBook context) :
    (runAgents suggestions context strategy).Trades strategy context ↔
      suggestions.SendOrder strategy context := by
  rw [Conclusion.Trades, approved_runAgents h]
  apply and_congr_right
  intro hok
  obtain ⟨ha, hq, hc, hs⟩ := decision_of_approve h hok
  simp only [ExecutionDecision.Sendable, withinLimits_iff, ha, hq, hc, hs]

/-! ### What the agents make of a book -/

private theorem abs_signed_selectAction {imbalance : ℚ}
    (h : selectAction imbalance strategy ≠ .hold) (size : ℚ) :
    |(selectAction imbalance strategy).signed size| = |size| := by
  rcases selectAction_cases imbalance strategy with hs | hs | hs
  · rw [hs, DecisionAction.signed]
  · rw [hs, DecisionAction.signed, abs_neg]
  · exact absurd hs h

private theorem abs_sizedQuantity
    (h : selectAction context.orderbookImbalance strategy ≠ .hold) :
    |sizedQuantity strategy context| = orderQuantity strategy context.orderbookImbalance :=
  (abs_signed_selectAction h _).trans (abs_abs _)

private theorem quantitySemanticsValid_sized (h : SignalsTrade strategy context) :
    quantitySemanticsValid (selectAction context.orderbookImbalance strategy)
      (sizedQuantity strategy context) = true := by
  rcases h.direction with ⟨hs, hq⟩ | ⟨hs, hq⟩ <;> rw [hs] <;> exact decide_eq_true hq

private theorem abs_target_book (htrades : selectAction context.orderbookImbalance strategy ≠ .hold)
    (hconfident : strategy.riskMinConfidence ≤ min 1 |context.orderbookImbalance|) :
    |(({} : Suggestions).planned strategy context).targetQuantity| =
      orderQuantity strategy context.orderbookImbalance := by
  refine (abs_signed_selectAction htrades _).trans ?_
  rw [max_eq_left hconfident]
  rfl

private theorem approve_book :
    ({} : Suggestions).Approve strategy context ↔
      KeepsRiskLimits (({} : Suggestions).planned strategy context) context strategy := by
  simp [Suggestions.Approve, Suggestions.ApproveRisk]

private theorem order_book (htrades : selectAction context.orderbookImbalance strategy ≠ .hold)
    (hconfident : strategy.riskMinConfidence ≤ min 1 |context.orderbookImbalance|)
    (hpos : 0 < orderQuantity strategy context.orderbookImbalance) :
    let order := ({} : Suggestions).order strategy context
    order.action = selectAction context.orderbookImbalance strategy ∧
      order.quantity = sizedQuantity strategy context ∧
      order.confidence = min 1 |context.orderbookImbalance| := by
  have htarget := abs_target_book htrades hconfident
  have hne : (({} : Suggestions).planned strategy context).targetQuantity ≠ 0 := by
    rw [← abs_pos, htarget]
    exact hpos
  have hsize : |({} : Suggestions).size strategy context| =
      orderQuantity strategy context.orderbookImbalance := by
    simpa [Suggestions.size, hne] using htarget
  have hclamp : clampConfidence (min 1 |context.orderbookImbalance|) =
      min 1 |context.orderbookImbalance| := by
    rw [clampConfidence, min_eq_right (min_le_left _ _), max_eq_right]
    exact le_min zero_le_one (abs_nonneg _)
  cases hs : selectAction context.orderbookImbalance strategy <;>
    simp_all [Suggestions.order, Suggestions.planned, applyPlannerSuggestion,
      applyExecutionSuggestion, sizedQuantity, DecisionAction.signed, hpos.ne']

private theorem AcceptsSizedOrder.approve (h : AcceptsSizedOrder strategy context) :
    ({} : Suggestions).Approve strategy context := by
  refine approve_book.mpr ⟨h.confident, (isExecutable_iff_ne_hold _).mpr h.trades, ?_, ?_, ?_,
    h.drawdown⟩ <;> rw [abs_target_book h.trades h.confident]
  · exact h.positive
  · exact (mul_le_mul_of_nonneg_left (le_max_left _ _) h.positive.le).trans h.notional
  · exact h.position

/-- Without a language model an intent is published exactly when the checks accept the order sized
from the book. -/
theorem shouldPublishIntent_book (h : FromBook context) :
    (runAgents {} context strategy).shouldPublishIntent = true ↔
      AcceptsSizedOrder strategy context := by
  refine shouldPublishIntent_iff.trans ((trades_iff h).trans ?_)
  constructor
  · rintro ⟨hok, -, hlimits⟩
    obtain ⟨hconfident, hexecutable, hpos, -, hsize, hdrawdown⟩ := approve_book.mp hok
    have htrades := (isExecutable_iff_ne_hold _).mp hexecutable
    rw [abs_target_book htrades hconfident] at hpos hsize
    obtain ⟨ha, hq, -⟩ := order_book htrades hconfident hpos
    refine ⟨⟨⟨htrades, ha ▸ hlimits.allowed, hconfident, hpos⟩, hlimits.symbol, hsize,
      hdrawdown⟩, ?_, hq ▸ hlimits.leverage⟩
    rw [← abs_sizedQuantity htrades, ← hq]
    exact hlimits.notional
  · intro hacc
    obtain ⟨ha, hq, hc⟩ := order_book hacc.trades hacc.confident hacc.positive
    -- the risk agent adds the sizes, so the guardrail's netted position is within the limit too
    have hnetted := abs_add_le context.currentPosition (sizedQuantity strategy context)
    rw [abs_sizedQuantity hacc.trades] at hnetted
    refine ⟨hacc.approve, rfl, ?_⟩
    rw [withinLimits_iff, ha, hq, hc, abs_sizedQuantity hacc.trades]
    exact ⟨hacc.trades, hacc.allowed, quantitySemanticsValid_sized hacc.toSignalsTrade,
      hacc.symbol, hacc.confident, hacc.notional, hnetted.trans hacc.position, hacc.leverage⟩

/-! ### Flat contexts -/

private theorem projectedLeverage_abs (position midPrice : ℚ) :
    projectedLeverage |position| midPrice = projectedLeverage position midPrice := by
  rw [projectedLeverage, projectedLeverage, abs_mul, abs_mul, abs_abs]

private theorem acceptsSizedOrder_iff_of_flat (h : IsFlat strategy context) :
    AcceptsSizedOrder strategy context ↔ AcceptsOrder strategy context := by
  have hleverage (htrades : selectAction context.orderbookImbalance strategy ≠ .hold) :
      projectedLeverage (context.currentPosition + sizedQuantity strategy context)
        (max context.midPrice 0) =
      projectedLeverage (orderQuantity strategy context.orderbookImbalance)
        (max context.midPrice 0) := by
    rw [h.position, zero_add, ← projectedLeverage_abs (sizedQuantity strategy context),
      abs_sizedQuantity htrades]
  have hposition : |context.currentPosition| + orderQuantity strategy context.orderbookImbalance =
      orderQuantity strategy context.orderbookImbalance := by
    rw [h.position, abs_zero, zero_add]
  constructor
  · intro ha
    exact ⟨ha.toSignalsTrade, ha.notional, hposition ▸ ha.position, h.drawdown ▸ ha.drawdown,
      hleverage ha.trades ▸ ha.leverage⟩
  · intro ha
    exact ⟨⟨ha.toSignalsTrade, h.symbol, hposition.symm ▸ ha.size, h.drawdown.symm ▸ ha.drawdown⟩,
      ha.notional, (hleverage ha.trades).symm ▸ ha.leverage⟩

/-- The decision behind an accepted order: its action, its quantity, and no order entries. -/
theorem decision_of_acceptsOrder (h : IsFlat strategy context)
    (haccepts : AcceptsOrder strategy context) :
    let decision := (runAgents {} context strategy).decision
    decision.action = selectAction context.orderbookImbalance strategy ∧
      decision.quantity = sizedQuantity strategy context ∧
      decision.constraints.orderType = none ∧ decision.constraints.limitPrice = .absent := by
  have hacc := (acceptsSizedOrder_iff_of_flat h).mpr haccepts
  obtain ⟨ha, hq, -⟩ := decision_of_approve h.toFromBook hacc.approve
  obtain ⟨hact, hquantity, -⟩ := order_book hacc.trades hacc.confident hacc.positive
  exact ⟨ha.trans hact, hq.trans hquantity, rfl, rfl⟩

/-- On a flat context an intent is published exactly when the checks accept the sized order. -/
theorem shouldPublishIntent_flat (h : IsFlat strategy context) :
    (runAgents {} context strategy).shouldPublishIntent = true ↔
      AcceptsOrder strategy context :=
  (shouldPublishIntent_book h.toFromBook).trans (acceptsSizedOrder_iff_of_flat h)

end OpenTrader.Agent
