import OpenTrader.Agent.Context

/-!
# Planner, risk and execution decision agents

Library `Agent`. `services/agent_orchestrator/planner_agent.py:8-57`,
`services/agent_orchestrator/risk_agent.py:13-84` and
`services/agent_orchestrator/execution_decision_agent.py:13-146`. Rationale texts and planner
metrics are left out.
-/

namespace OpenTrader.Agent
open Base

/-! ### Planner -/

/-- `PlannerDecision`. -/
structure PlannerDecision where
  action : DecisionAction
  confidence : ℚ
  targetQuantity : ℚ
  deriving DecidableEq

/-- `_select_action`; `planner_agent.py:51-57`. -/
def selectAction (imbalance : ℚ) (strategy : StrategyConfig) : DecisionAction :=
  if imbalance ≥ strategy.plannerBuyThreshold then .buy
  else if imbalance ≤ -strategy.plannerSellThreshold then .sell
  else .hold

variable (action : DecisionAction) (quantity : ℚ) (plan : PlannerDecision) (risk : RiskAssessment)
  (context : MarketContext) (strategy : StrategyConfig)

/-- `PlannerAgent.build_plan`; `planner_agent.py:9-49`. -/
def buildPlan : PlannerDecision :=
  let imbalance := imbalance (max 0 context.bestBidSize) (max 0 context.bestAskSize)
  let action := selectAction imbalance strategy
  let confidence := min 1 |imbalance|
  let scaledQuantity := strategy.orderSize * max confidence strategy.riskMinConfidence
  { action
    confidence
    targetQuantity :=
      if action = .hold then 0 else if action = .buy then scaledQuantity else -scaledQuantity }

/-! ### Risk agent -/

/-- `RiskSignal`. -/
structure RiskSignal where
  name : String
  passed : Bool
  value : ℚ
  limit : ℚ
  message : String
  deriving DecidableEq

/-- `RiskAssessment`. -/
structure RiskAssessment where
  approved : Bool
  approvedQuantity : ℚ
  signals : List RiskSignal
  blockedBy : List String
  riskScore : ℚ
  deriving DecidableEq

/-- The signals of a plan; `risk_agent.py:21-64`. -/
def riskSignals : List RiskSignal :=
  let proposedQuantity := |plan.targetQuantity|
  let proposedNotional := proposedQuantity * context.midPrice
  let projectedPosition := |context.currentPosition| + proposedQuantity
  [{ name := "confidence_minimum"
     passed := plan.confidence ≥ strategy.riskMinConfidence
     value := plan.confidence
     limit := strategy.riskMinConfidence
     message := "Planner confidence must meet minimum threshold" },
   { name := "actionable_plan"
     passed := plan.action.isExecutable ∧ proposedQuantity > 0
     value := if proposedQuantity > 0 then 1 else 0
     limit := 1
     message := "Plan action must produce a non-zero executable quantity" },
   { name := "notional_limit"
     passed := proposedNotional ≤ strategy.riskMaxNotionalUsd
     value := proposedNotional
     limit := strategy.riskMaxNotionalUsd
     message := "Planned notional must remain within max_notional_usd" },
   { name := "position_limit"
     passed := projectedPosition ≤ strategy.riskMaxPositionSize
     value := projectedPosition
     limit := strategy.riskMaxPositionSize
     message := "Projected position must remain within max_position_size" },
   { name := "drawdown_limit"
     passed := context.drawdownPct ≤ strategy.riskMaxDrawdownPct
     value := context.drawdownPct
     limit := strategy.riskMaxDrawdownPct
     message := "Current drawdown must remain within risk threshold" }]

/-- `RiskAgent.evaluate`; `risk_agent.py:14-84`. -/
def evaluateRisk : RiskAssessment :=
  let signals := riskSignals plan context strategy
  let blockedBy := (signals.filter (!·.passed)).map (·.name)
  { approved := blockedBy.isEmpty
    approvedQuantity := if blockedBy.isEmpty then plan.targetQuantity else 0
    signals
    blockedBy
    riskScore := blockedBy.length / signals.length }

/-- The limits that the five signals check. -/
@[mk_iff] structure KeepsRiskLimits : Prop where
  confident : strategy.riskMinConfidence ≤ plan.confidence
  executable : plan.action.isExecutable = true
  positive : 0 < |plan.targetQuantity|
  notional : |plan.targetQuantity| * context.midPrice ≤ strategy.riskMaxNotionalUsd
  position : |context.currentPosition| + |plan.targetQuantity| ≤ strategy.riskMaxPositionSize
  drawdown : context.drawdownPct ≤ strategy.riskMaxDrawdownPct

/-- A plan is approved exactly when all five signals pass. -/
theorem approved_evaluateRisk :
    (evaluateRisk plan context strategy).approved = true ↔
      KeepsRiskLimits plan context strategy := by
  have hall : (evaluateRisk plan context strategy).approved = true ↔
      ∀ signal ∈ riskSignals plan context strategy, signal.passed = true := by
    simp [evaluateRisk, List.isEmpty_iff]
  rw [hall, keepsRiskLimits_iff]
  simp [riskSignals, and_assoc]

/-! ### Execution decision -/

/-- The constraints of a decision. The order entries are there only when a suggestion has put
them there. -/
structure Constraints where
  schemaValid : Bool
  riskApproved : Bool
  blockedBy : List String
  mode : String
  orderType : Option String := none
  timeInForce : Option String := none
  limitPrice : NumField := .absent
  triggerPrice : NumField := .absent
  clientOrderId : Option String := none
  deriving DecidableEq

/-- `ExecutionDecision`. -/
structure ExecutionDecision where
  action : DecisionAction
  quantity : ℚ
  confidence : ℚ
  constraints : Constraints
  deriving DecidableEq

/-- The sign of a quantity agrees with its action. -/
def quantitySemanticsValid : Bool :=
  match action with
  | .buy => 0 < quantity
  | .sell => quantity < 0
  | .close => quantity ≠ 0
  | .hold => quantity = 0

/-- `_resolve_quantity`; `execution_decision_agent.py:79-104`. -/
def resolveQuantity (currentPosition defaultSize : ℚ) : ℚ :=
  let baseQuantity :=
    if risk.approvedQuantity ≠ 0 then risk.approvedQuantity
    else if plan.targetQuantity ≠ 0 then plan.targetQuantity
    else defaultSize
  match action with
  | .hold => 0
  | .close => -currentPosition
  | .buy => |baseQuantity|
  | .sell => -|baseQuantity|

/-- `_normalize_action_quantity`; `execution_decision_agent.py:106-116`. -/
def normalizeActionQuantity : DecisionAction × ℚ :=
  if action ≠ .hold ∧ quantitySemanticsValid action quantity then (action, quantity) else (.hold, 0)

/-- `_clamp_confidence`; `execution_decision_agent.py:118-120`. -/
def clampConfidence (confidence : ℚ) : ℚ := max 0 (min 1 confidence)

/-- `_constraints`; `execution_decision_agent.py:122-146`. -/
def decisionConstraints : Constraints :=
  { schemaValid := quantitySemanticsValid action quantity
    riskApproved := risk.approved
    blockedBy := risk.blockedBy
    mode := strategy.mode }

/-- `ExecutionDecisionAgent.propose_action`; `execution_decision_agent.py:17-70`. -/
def proposeAction : ExecutionDecision :=
  let (action, quantity) :=
    if !risk.approved then (.hold, 0)
    else normalizeActionQuantity plan.action
      (resolveQuantity plan.action plan risk context.currentPosition strategy.orderSize)
  { action
    quantity
    confidence := clampConfidence plan.confidence
    constraints := decisionConstraints action quantity risk strategy }

variable {plan risk context strategy} in
/-- On approval the resolved quantity is traded, and nothing when it is zero. -/
theorem proposeAction_of_approved {quantity : ℚ} (h : risk.approved = true)
    (hquantity : resolveQuantity plan.action plan risk context.currentPosition
      strategy.orderSize = quantity) :
    let decision := proposeAction plan risk context strategy
    decision.action = (if quantity = 0 then .hold else plan.action) ∧
      decision.quantity = quantity ∧ decision.confidence = clampConfidence plan.confidence ∧
      decision.constraints.schemaValid = true := by
  have hvalid : plan.action ≠ .hold ∧ quantitySemanticsValid plan.action quantity = true ↔
      quantity ≠ 0 := by
    cases ha : plan.action <;> simp [← hquantity, ha, resolveQuantity, quantitySemanticsValid]
  rcases eq_or_ne quantity 0 with rfl | hq
  · have hpair : normalizeActionQuantity plan.action 0 = (.hold, 0) :=
      if_neg fun hv => hvalid.mp hv rfl
    simp [proposeAction, h, hquantity, hpair, decisionConstraints, quantitySemanticsValid]
  · have hpair : normalizeActionQuantity plan.action quantity = (plan.action, quantity) :=
      if_pos (hvalid.mpr hq)
    simp [proposeAction, h, hquantity, hpair, hq, decisionConstraints, (hvalid.mpr hq).2]

end OpenTrader.Agent
