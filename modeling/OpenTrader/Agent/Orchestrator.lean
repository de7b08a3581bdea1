import OpenTrader.Agent.Guardrail
import OpenTrader.Base.Fallible
import OpenTrader.Execution.Intent

/-!
# The agent orchestrator

Library `Agent`. `services/agent_orchestrator/orchestrator.py:59-747` with the routing of
`services/simulation_execution/mode_routing.py:7-39`: one market message runs through the agents,
the suggestions of a language model and the guardrail, and is published as an execution intent or
not. The memory layer, the metrics, the notifications and the payloads of the lifecycle events are
left out; every store and publisher call succeeds.
-/

namespace OpenTrader.Agent
open Base Market Execution

/-! ### Suggestions of the language model -/

/-- `PlannerSuggestion`; an action outside the schema counts as none. -/
structure PlannerSuggestion where
  action : Option DecisionAction := none
  confidence : Option ℚ := none
  targetQuantity : Option ℚ := none
  deriving DecidableEq

/-- `RiskSuggestion`. -/
structure RiskSuggestion where
  approved : Option Bool := none
  approvedQuantity : Option ℚ := none
  riskScore : Option ℚ := none
  blockedBy : List String := []
  deriving DecidableEq

/-- The constraint entries a suggestion sets. -/
structure ConstraintUpdate where
  schemaValid : Option Bool := none
  orderType : Option String := none
  timeInForce : Option String := none
  limitPrice : NumField := .absent
  triggerPrice : NumField := .absent
  clientOrderId : Option String := none
  deriving DecidableEq

/-- `ExecutionSuggestion`. -/
structure ExecutionSuggestion where
  action : Option DecisionAction := none
  quantity : Option ℚ := none
  confidence : Option ℚ := none
  constraints : ConstraintUpdate := {}
  deriving DecidableEq

/-- What the language model suggests in a cycle; a stage without a runtime, or whose call fails,
has no suggestion. -/
structure Suggestions where
  plan : Option PlannerSuggestion := none
  risk : Option RiskSuggestion := none
  execution : Option ExecutionSuggestion := none
  deriving DecidableEq

/-- `_apply_planner_llm_suggestion`; `orchestrator.py:568-624`. -/
def applyPlannerSuggestion (suggestion : Option PlannerSuggestion) (plan : PlannerDecision) :
    PlannerDecision :=
  match suggestion with
  | none => plan
  | some suggestion =>
    { action := suggestion.action.getD plan.action
      confidence := (suggestion.confidence.map clampConfidence).getD plan.confidence
      targetQuantity := suggestion.targetQuantity.getD plan.targetQuantity }

/-- `_apply_risk_llm_suggestion`; `orchestrator.py:626-683`. -/
def applyRiskSuggestion (suggestion : Option RiskSuggestion) (risk : RiskAssessment) :
    RiskAssessment :=
  match suggestion with
  | none => risk
  | some suggestion =>
    { risk with
      approved := suggestion.approved.getD risk.approved
      approvedQuantity := suggestion.approvedQuantity.getD risk.approvedQuantity
      riskScore := (suggestion.riskScore.map clampConfidence).getD risk.riskScore
      blockedBy := if suggestion.blockedBy = [] then risk.blockedBy else suggestion.blockedBy }

/-- `constraints.update(...)`. -/
def Constraints.update (c : Constraints) (u : ConstraintUpdate) : Constraints :=
  { c with
    schemaValid := u.schemaValid.getD c.schemaValid
    orderType := u.orderType.or c.orderType
    timeInForce := u.timeInForce.or c.timeInForce
    limitPrice := u.limitPrice.orElse c.limitPrice
    triggerPrice := u.triggerPrice.orElse c.triggerPrice
    clientOrderId := u.clientOrderId.or c.clientOrderId }

/-- `_apply_execution_llm_suggestion`; `orchestrator.py:685-747`. -/
def applyExecutionSuggestion (suggestion : Option ExecutionSuggestion)
    (decision : ExecutionDecision) : ExecutionDecision :=
  match suggestion with
  | none => decision
  | some suggestion =>
    { action := suggestion.action.getD decision.action
      quantity := suggestion.quantity.getD decision.quantity
      confidence := (suggestion.confidence.map clampConfidence).getD decision.confidence
      constraints := decision.constraints.update suggestion.constraints }

/-! ### A decision cycle -/

/-- What `handle_market_event` raises. -/
inductive OrchestratorError where
  | envelope (error : EnvelopeValidationError)
  | notCanonical
  | routing (message : String)
  deriving DecidableEq

/-- `status` of a cycle. -/
inductive DecisionStatus where
  | riskRejected
  | guardrailRejected
  | riskApproved
  deriving DecidableEq

/-- What the agents conclude from a market context. -/
structure Conclusion where
  plan : PlannerDecision
  risk : RiskAssessment
  decision : ExecutionDecision
  guardrail : GuardrailValidationResult
  deriving DecidableEq

variable (c : Conclusion) (now : UtcStamp) (suggestions : Suggestions) (strategy : StrategyConfig)

/-- The agents in turn; `orchestrator.py:109-247`. -/
def runAgents (context : MarketContext) (strategy : StrategyConfig) : Conclusion :=
  let plan := applyPlannerSuggestion suggestions.plan (buildPlan context strategy)
  let risk := applyRiskSuggestion suggestions.risk (evaluateRisk plan context strategy)
  let decision := applyExecutionSuggestion suggestions.execution
    (proposeAction plan risk context strategy)
  { plan, risk, decision, guardrail := validateDecision strategy context risk decision }

/-- `status`; `orchestrator.py:315-320`. -/
def Conclusion.status : DecisionStatus :=
  if !c.risk.approved then .riskRejected
  else if !c.guardrail.allowed then .guardrailRejected
  else .riskApproved

/-- `should_publish_intent`; `orchestrator.py:395-401`. -/
def Conclusion.shouldPublishIntent : Bool :=
  c.risk.approved && c.guardrail.allowed && c.decision.constraints.schemaValid &&
    c.decision.action.isExecutable && decide (c.decision.quantity ≠ 0)

/-- The event types of the lifecycle messages of a cycle, in order. -/
def Conclusion.lifecycle : List String :=
  ["agent.decision.received", "agent.decision.context_enriched", "agent.decision.planned",
    if c.risk.approved then "agent.decision.risk_approved" else "agent.decision.risk_rejected",
    "agent.decision.action_proposed",
    if c.guardrail.allowed then "agent.decision.guardrail_passed"
    else "agent.decision.guardrail_rejected"] ++
    if c.shouldPublishIntent then ["agent.decision.intent_published"] else []

/-- `payload.get(key)`: a missing entry reads as `None`. -/
def orNull (field : NumField) : NumField := field.orElse .null

/-- The payload of the intent; `orchestrator.py:403-451`. -/
def intentPayload (context : MarketContext) (decisionId : String) (decision : ExecutionDecision) :
    IntentPayload :=
  let exchange := lower (strip context.exchange)
  let orderType := upper (strip (decision.constraints.orderType.getD "MARKET"))
  let orderType := if orderType = "" then "MARKET" else orderType
  { strategyId := some strategy.strategyId
    exchange := some (if exchange = "" then "binance" else exchange)
    symbol := some context.symbol
    action := some decision.action.name
    quantity := .num decision.quantity
    confidence := .num decision.confidence
    orderType := some orderType
    timeInForce :=
      if decision.constraints.timeInForce.any (strip · ≠ "") then decision.constraints.timeInForce
      else if orderType = "LIMIT" then some "GTC"
      else none
    limitPrice := orNull decision.constraints.limitPrice
    triggerPrice := orNull decision.constraints.triggerPrice
    reduceOnly := some (decide (decision.action = .close))
    clientOrderId := some (decision.constraints.clientOrderId.getD
      (strategy.strategyId ++ "-" ++ String.ofList (decisionId.toList.take 12)))
    midPrice := .num context.midPrice }

/-- `routing_key_for_mode`; `mode_routing.py:15-21`. -/
def routingKeyForMode (mode : String) : Except OrchestratorError String :=
  if upper mode = "MOCK" then .ok "execution.intent.mock"
  else if upper mode = "REAL" then .ok "execution.intent.real"
  else .error (.routing ("Unsupported execution mode: " ++ mode))

/-- `route_execution_intent`; `mode_routing.py:24-31`. -/
def routeExecutionIntent (envelope : IntentEnvelope) : Except OrchestratorError String := do
  (validateEnvelope envelope).mapError .envelope
  let eventType := envelope.eventType.getD ""
  if eventType ≠ "execution.intent.created" then
    .error (.routing ("Unexpected event_type for routing policy: " ++ eventType ++
      "; expected execution.intent.created"))
  else routingKeyForMode (envelope.mode.getD "")

/-- `assert_no_mode_leakage`; `mode_routing.py:34-39`. -/
def assertNoModeLeakage (routingKey : String) (envelope : IntentEnvelope) :
    Except OrchestratorError Unit := do
  let expected ← routeExecutionIntent envelope
  if routingKey ≠ expected then
    .error (.routing ("Mode leakage detected: envelope mode " ++ envelope.mode.getD "" ++
      " must route to " ++ expected ++ ", got " ++ routingKey))
  else .ok ()

/-- `OrchestrationResult`, with the routing key of the intent. -/
structure OrchestrationResult where
  context : MarketContext
  conclusion : Conclusion
  status : DecisionStatus
  lifecycle : List String
  intent : Option (String × IntentEnvelope) := none

/-- The intent message of a cycle; `orchestrator.py:419-451`. -/
def intentEnvelope (envelope : MarketEnvelope) (strategy : StrategyConfig) (context : MarketContext)
    (decision : ExecutionDecision) : IntentEnvelope :=
  let mode := envelope.mode.getD ""
  let decisionId := envelope.decisionId.getD ""
  { traceId := envelope.traceId
    decisionId := some decisionId
    mode := some mode
    idempotencyKey := some ("execution.intent:" ++ lower mode ++ ":" ++ decisionId)
    eventType := some "execution.intent.created"
    emittedAt := some now.text
    payload := some (intentPayload strategy context decisionId decision)
    service := some "agent_orchestrator" }

/-- The intent of a cycle, validated and routed; `orchestrator.py:402-453`. -/
def buildIntent (envelope : MarketEnvelope) (strategy : StrategyConfig) (context : MarketContext)
    (decision : ExecutionDecision) : Except OrchestratorError (String × IntentEnvelope) := do
  let intent := intentEnvelope now envelope strategy context decision
  (validateEnvelope intent).mapError .envelope
  let routingKey ← routeExecutionIntent intent
  assertNoModeLeakage routingKey intent
  return (routingKey, intent)

/-- `event_type.startswith("market.canonical")`. -/
def isCanonicalType (eventType : String) : Bool :=
  "market.canonical".toList.isPrefixOf eventType.toList

/-- The context the agents see for a market message. -/
def contextOf (envelope : MarketEnvelope) : MarketContext :=
  enrich (envelope.payload.getD {}) strategy

/-- `AgentOrchestrator.handle_market_event`; `orchestrator.py:59-543`. -/
def handleMarketEvent (envelope : MarketEnvelope) :
    Except OrchestratorError OrchestrationResult := do
  (validateEnvelope envelope).mapError .envelope
  if !isCanonicalType (envelope.eventType.getD "") then .error .notCanonical
  else
    let context := contextOf strategy envelope
    let c := runAgents suggestions context strategy
    let result : OrchestrationResult :=
      { context, conclusion := c, status := c.status, lifecycle := c.lifecycle }
    if c.shouldPublishIntent then
      let intent ← buildIntent now envelope strategy context c.decision
      return { result with intent := some intent }
    else return result

/-! ### What a cycle publishes -/

variable {envelope : MarketEnvelope}

/-- The intent of an accepted message is accepted too, in its mode. -/
theorem validateEnvelope_intentEnvelope (hvalid : validateEnvelope envelope = .ok ())
    (strategy : StrategyConfig) (context : MarketContext) (decision : ExecutionDecision) :
    validateEnvelope (intentEnvelope now envelope strategy context decision) = .ok () ∧
      (intentEnvelope now envelope strategy context decision).mode = envelope.mode := by
  obtain ⟨htrace, hdec, hmode, -, -, -, -⟩ := (validateEnvelope_ok_iff envelope).mp hvalid
  have hk (tail : String) : strip ("execution.intent:" ++ tail) ≠ "" :=
    strip_append_ne_empty tail (by decide +kernel)
  have htype : strip "execution.intent.created" ≠ "" := by decide +kernel
  have hsame : (intentEnvelope now envelope strategy context decision).mode = envelope.mode := by
    rcases hmode with hmode | hmode <;> simp [intentEnvelope, hmode]
  refine ⟨(validateEnvelope_ok_iff _).mpr ⟨htrace, ?_, ?_, ?_, ?_, now.valid, rfl⟩, hsame⟩
  · cases hd : envelope.decisionId with
    | none => rw [hd] at hdec; cases hdec
    | some decisionId => simpa [intentEnvelope, hd] using hdec
  · rw [hsame]
    exact hmode
  · simpa [intentEnvelope, String.append_assoc] using hk _
  · simpa [intentEnvelope] using htype

private theorem routeExecutionIntent_ok (hv : validateEnvelope envelope = .ok ())
    (strategy : StrategyConfig) (context : MarketContext) (decision : ExecutionDecision) :
    ∃ key, routingKeyForMode (envelope.mode.getD "") = .ok key ∧
      routeExecutionIntent (intentEnvelope now envelope strategy context decision) = .ok key := by
  obtain ⟨hint, hsame⟩ :=
    validateEnvelope_intentEnvelope now hv strategy context decision
  have hmode := ((validateEnvelope_ok_iff envelope).mp hv).2.2.1
  have htexts : upper "MOCK" = "MOCK" ∧ upper "REAL" = "REAL" := by decide +kernel
  rw [routeExecutionIntent, hint, hsame]
  rcases hmode with hmode | hmode
  · exact ⟨"execution.intent.mock", by simp [hmode, routingKeyForMode, htexts],
      by simp [hmode, intentEnvelope, routingKeyForMode, htexts, Except.mapError, bind,
        Except.bind]⟩
  · exact ⟨"execution.intent.real", by simp [hmode, routingKeyForMode, htexts],
      by simp [hmode, intentEnvelope, routingKeyForMode, htexts, Except.mapError, bind,
        Except.bind]⟩

/-- The intent of an accepted message passes its checks, on the key of the message's mode. -/
theorem buildIntent_ok (hvalid : validateEnvelope envelope = .ok ()) (strategy : StrategyConfig)
    (context : MarketContext) (decision : ExecutionDecision) :
    ∃ key, routingKeyForMode (envelope.mode.getD "") = .ok key ∧
      buildIntent now envelope strategy context decision =
        .ok (key, intentEnvelope now envelope strategy context decision) := by
  obtain ⟨key, hk, hroute⟩ := routeExecutionIntent_ok now hvalid strategy context decision
  have hint := (validateEnvelope_intentEnvelope now hvalid strategy context decision).1
  -- the routing guard compares the key with the one it was just derived from
  have hguard : assertNoModeLeakage key (intentEnvelope now envelope strategy context decision) =
      .ok () := by
    rw [assertNoModeLeakage, hroute]
    simp [bind, Except.bind]
  refine ⟨key, hk, ?_⟩
  rw [buildIntent, hint, hroute]
  simp [Except.mapError, bind, Except.bind, hguard, pure, Except.pure]

/-- A canonical message always gets through a cycle: an intent is published exactly when the agents
conclude that one should be, on the key of the message's mode. -/
theorem handleMarketEvent_ok (hvalid : validateEnvelope envelope = .ok ())
    (htype : isCanonicalType (envelope.eventType.getD "") = true) :
    ∃ key result, routingKeyForMode (envelope.mode.getD "") = .ok key ∧
      handleMarketEvent now suggestions strategy envelope = .ok result ∧
      result.intent =
        if (runAgents suggestions (contextOf strategy envelope) strategy).shouldPublishIntent then
          some (key, intentEnvelope now envelope strategy (contextOf strategy envelope)
            (runAgents suggestions (contextOf strategy envelope) strategy).decision)
        else none := by
  obtain ⟨key, hk, hint⟩ := buildIntent_ok now hvalid strategy (contextOf strategy envelope)
    (runAgents suggestions (contextOf strategy envelope) strategy).decision
  rw [handleMarketEvent, hvalid, htype]
  by_cases hpub : (runAgents suggestions (contextOf strategy envelope)
      strategy).shouldPublishIntent = true
  · simp only [if_pos hpub, hint]
    exact ⟨key, _, hk, rfl, rfl⟩
  · simp only [if_neg hpub]
    exact ⟨key, _, hk, rfl, rfl⟩

end OpenTrader.Agent
