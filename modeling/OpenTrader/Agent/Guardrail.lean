import OpenTrader.Agent.Decision

/-!
# Guardrail validation

Library `Agent`. `services/agent_orchestrator/guardrail_validation.py:16-172`. Eight checks of a
decision against the strategy and the market context; a failed check is a violation. The details
of a violation, copies of the compared values, are left out.
-/

namespace OpenTrader.Agent
open Base

/-- A check of the guardrail: its entry in `checks`, and the code and message of its violation. -/
structure GuardrailCheck where
  name : String
  passed : Bool
  code : String
  message : String
  deriving DecidableEq

/-- `GuardrailValidationResult`. -/
structure GuardrailValidationResult where
  checks : List GuardrailCheck
  deriving DecidableEq

variable (result : GuardrailValidationResult)

/-- The violations, in the order of the checks. -/
def GuardrailValidationResult.violations : List GuardrailCheck :=
  result.checks.filter (!·.passed)

/-- `allowed`. -/
def GuardrailValidationResult.allowed : Bool :=
  result.violations.isEmpty

/-- `blocked_by`. -/
def GuardrailValidationResult.blockedBy : List String :=
  result.violations.map (·.code)

/-- `|position + quantity|` against the strategy's position limit. -/
def withinPositionLimit (strategy : StrategyConfig) (position quantity : ℚ) : Bool :=
  |position + quantity| ≤ strategy.riskMaxPositionSize

/-- `equity_usd`: the context never carries one, so it is the mid price, at least one. -/
def guardrailEquity (midPrice : ℚ) : ℚ := max (if midPrice > 0 then midPrice else 1) 1

/-- Leverage of a projected position; zero without a positive mid price. -/
def projectedLeverage (projectedPosition midPrice : ℚ) : ℚ :=
  if midPrice > 0 then |projectedPosition * midPrice| / guardrailEquity midPrice else 0

/-- `GuardrailValidationLayer.validate`; `guardrail_validation.py:17-160`. -/
def validateDecision (strategy : StrategyConfig) (context : MarketContext)
    (risk : RiskAssessment) (decision : ExecutionDecision) : GuardrailValidationResult :=
  let action := decision.action
  let quantity := decision.quantity
  let midPrice := max context.midPrice 0
  let projectedNotional := |quantity| * midPrice
  let leverage := projectedLeverage (context.currentPosition + quantity) midPrice
  let executable := action.isExecutable
  { checks :=
     [{ name := "action_allowed"
        passed := action ∈ strategy.allowedActions
        code := "action_schema"
        message := "action not in allowed action set" },
      { name := "quantity_semantics"
        passed := quantitySemanticsValid action quantity
        code := "quantity_semantics"
        message := "quantity sign does not match action semantics" },
      { name := "symbol_constraint"
        passed := context.symbol = strategy.symbol
        code := "symbol_constraint"
        message := "market symbol does not match strategy symbol" },
      { name := "confidence_threshold"
        passed := !executable || decide (decision.confidence ≥ strategy.riskMinConfidence)
        code := "confidence_threshold"
        message := "decision confidence below required threshold" },
      { name := "risk_alignment"
        passed := !executable || risk.approved
        code := "risk_alignment"
        message := "executable action requires approved risk assessment" },
      { name := "notional_limit"
        passed := !executable || decide (projectedNotional ≤ strategy.riskMaxNotionalUsd)
        code := "notional_limit"
        message := "projected notional exceeds strategy notional limit" },
      { name := "position_limit"
        passed := !executable || withinPositionLimit strategy context.currentPosition quantity
        code := "position_limit"
        message := "projected position exceeds strategy max position size" },
      { name := "leverage_limit"
        passed := !executable || decide (leverage ≤ strategy.maxLeverage)
        code := "leverage_limit"
        message := "projected leverage exceeds configured max leverage" }] }

/-- An executable decision is allowed exactly when it passes the eight checks. -/
theorem allowed_validateDecision (strategy : StrategyConfig) (context : MarketContext)
    (risk : RiskAssessment) (decision : ExecutionDecision)
    (hexecutable : decision.action.isExecutable = true) :
    (validateDecision strategy context risk decision).allowed = true ↔
      decision.action ∈ strategy.allowedActions ∧
      quantitySemanticsValid decision.action decision.quantity = true ∧
      context.symbol = strategy.symbol ∧ strategy.riskMinConfidence ≤ decision.confidence ∧
      risk.approved = true ∧
      |decision.quantity| * max context.midPrice 0 ≤ strategy.riskMaxNotionalUsd ∧
      withinPositionLimit strategy context.currentPosition decision.quantity = true ∧
      projectedLeverage (context.currentPosition + decision.quantity) (max context.midPrice 0) ≤
        strategy.maxLeverage := by
  have hall : (validateDecision strategy context risk decision).allowed = true ↔
      ∀ check ∈ (validateDecision strategy context risk decision).checks, check.passed = true := by
    simp [GuardrailValidationResult.allowed, GuardrailValidationResult.violations,
      List.isEmpty_iff]
  rw [hall]
  simp [validateDecision, hexecutable]

/-! ### Agreement with the risk agent -/

/-- The codes of the checks that read nothing the risk agent has looked at. -/
def unassessedCodes : List String := ["action_schema", "symbol_constraint", "leverage_limit"]

section
variable {strategy : StrategyConfig} {context : MarketContext}

-- A code is blocked by its check alone, so five passed checks leave the other three codes.
private theorem blockedBy_validateDecision_subset {risk : RiskAssessment}
    {decision : ExecutionDecision}
    (hsemantics : quantitySemanticsValid decision.action decision.quantity = true)
    (hconfidence : strategy.riskMinConfidence ≤ decision.confidence)
    (hok : risk.approved = true)
    (hnotional : |decision.quantity| * max context.midPrice 0 ≤ strategy.riskMaxNotionalUsd)
    (hposition : withinPositionLimit strategy context.currentPosition decision.quantity = true) :
    (validateDecision strategy context risk decision).blockedBy ⊆ unassessedCodes := by
  intro code hcode
  obtain ⟨check, hcheck, rfl⟩ := List.mem_map.mp hcode
  obtain ⟨hm, hfailed⟩ := List.mem_filter.mp hcheck
  simp only [validateDecision, List.mem_cons, List.not_mem_nil, or_false] at hm
  rcases hm with rfl | rfl | rfl | rfl | rfl | rfl | rfl | rfl <;>
    simp_all [unassessedCodes]

private theorem confidence_buildPlan :
    0 ≤ (buildPlan context strategy).confidence ∧ (buildPlan context strategy).confidence ≤ 1 :=
  ⟨le_min zero_le_one (abs_nonneg _), min_le_left _ _⟩

private theorem clampConfidence_of_mem {confidence : ℚ} (h : 0 ≤ confidence ∧ confidence ≤ 1) :
    clampConfidence confidence = confidence := by
  rw [clampConfidence, min_eq_right h.2, max_eq_right h.1]

-- The planner never plans to close.
private theorem action_buildPlan
    (h : (buildPlan context strategy).action.isExecutable = true) :
    (buildPlan context strategy).action = .buy ∨ (buildPlan context strategy).action = .sell := by
  simp only [buildPlan, selectAction] at h ⊢
  split_ifs at h ⊢
  · exact .inl rfl
  · exact .inr rfl
  · cases h

-- The risk agent may have seen a negative mid price, which the guardrail takes for zero.
private theorem notional_clamp_le {quantity midPrice limit : ℚ} (hlimit : 0 ≤ limit)
    (h : |quantity| * midPrice ≤ limit) : |quantity| * max midPrice 0 ≤ limit := by
  rcases le_total midPrice 0 with hneg | hpos
  · rw [max_eq_right hneg, mul_zero]
    exact hlimit
  · rw [max_eq_left hpos]
    exact h

-- The risk agent adds the absolute values, which bounds either signed sum.
private theorem withinPositionLimit_of_add_abs_le {position quantity target : ℚ}
    (hq : |quantity| = |target|) (h : |position| + |target| ≤ strategy.riskMaxPositionSize) :
    withinPositionLimit strategy position quantity = true := by
  apply decide_eq_true
  calc |position + quantity| ≤ |position| + |quantity| := abs_add_le _ _
    _ = |position| + |target| := by rw [hq]
    _ ≤ strategy.riskMaxPositionSize := h

/-- With a notional limit that is not negative, the decision derived from an approved plan of the
planner is blocked only by what the risk agent does not look at. -/
theorem blockedBy_of_approved_plan (payload : Market.MarketPayload) (strategy : StrategyConfig)
    (hlimit : 0 ≤ strategy.riskMaxNotionalUsd) :
    let context := enrich payload strategy
    let plan := buildPlan context strategy
    let risk := evaluateRisk plan context strategy
    risk.approved = true →
      (validateDecision strategy context risk (proposeAction plan risk context strategy)).blockedBy
        ⊆ unassessedCodes := by
  intro context plan risk happroved
  have hlimits := (approved_evaluateRisk plan context strategy).mp happroved
  have hne : plan.targetQuantity ≠ 0 := abs_pos.mp hlimits.positive
  have htarget : risk.approvedQuantity = plan.targetQuantity := if_pos happroved
  obtain ⟨-, hquantity, hconfidence, hsemantics⟩ := proposeAction_of_approved happroved rfl
  have habs : |(proposeAction plan risk context strategy).quantity| = |plan.targetQuantity| := by
    have haction : plan.action = .buy ∨ plan.action = .sell := action_buildPlan hlimits.executable
    rw [hquantity]
    rcases haction with haction | haction <;> simp [resolveQuantity, htarget, hne, haction]
  refine blockedBy_validateDecision_subset hsemantics ?_ happroved ?_
    (withinPositionLimit_of_add_abs_le habs hlimits.position)
  · rw [hconfidence, clampConfidence_of_mem confidence_buildPlan]
    exact hlimits.confident
  · rw [habs]
    exact notional_clamp_le hlimit hlimits.notional

end

private def skewedBook : Market.MarketPayload :=
  { bids := [{ price := .num 100, amount := .num 9 }]
    asks := [{ price := .num 102, amount := .num 1 }] }

private def leveragedStrategy : StrategyConfig :=
  { sampleStrategy with
    strategyId := "skew", orderSize := 10, riskMaxPositionSize := 20, riskMinConfidence := 1 / 2 }

/-- An approved plan to buy eight, which the leverage limit alone blocks. -/
theorem blockedBy_of_approved_plan_skewed :
    let context := enrich skewedBook leveragedStrategy
    let plan := buildPlan context leveragedStrategy
    let risk := evaluateRisk plan context leveragedStrategy
    let result := validateDecision leveragedStrategy context risk
      (proposeAction plan risk context leveragedStrategy)
    risk.approved = true ∧ result.blockedBy ⊆ unassessedCodes ∧
      result.blockedBy = ["leverage_limit"] :=
  ⟨by decide +kernel,
    blockedBy_of_approved_plan skewedBook leveragedStrategy (by decide +kernel) (by decide +kernel),
    by decide +kernel⟩

end OpenTrader.Agent
