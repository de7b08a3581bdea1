import OpenTrader.Agent.Limits
import OpenTrader.Base.Attempt

/-!
# A decision cycle and the calls it makes

Library `Agent`. `services/agent_orchestrator/orchestrator.py:59-543` with
`services/agent_orchestrator/memory_layer.py:94-208`: the order in which a cycle calls its stores,
its agents and its publisher. Any of the calls may raise, and the cycle then raises too. The
intent is sent before the summary is persisted and before the lifecycle is published, so a call
that raises after it leaves an order behind.
-/

namespace OpenTrader.Agent
open Base Market Execution

/-- `source` of a `DecisionMemorySnapshot`. -/
inductive MemorySource where
  | redis
  | postgres
  | empty
  deriving DecidableEq

/-- The slots of a decision that a cycle writes on its way. -/
inductive DecisionSlot where
  | context
  | plan
  | risk
  | executionDecision
  | guardrail
  | status
  deriving DecidableEq

/-- The stages that run an agent or ask the language model. -/
inductive AgentStage where
  | marketContextAgent
  | plannerAgent
  | plannerLlm
  | riskAgent
  | riskLlm
  | executionDecisionAgent
  | executionDecisionLlm
  | guardrailValidation
  deriving DecidableEq

/-- The calls of a cycle. The summary slot is written twice: when a decision is restored from the
archive, and when it is persisted. -/
inductive CycleCall where
  | readSlots
  | readDecisionSummary
  | restoreSummary
  | runStage (stage : AgentStage)
  | writeDecisionSlot (slot : DecisionSlot)
  | publishIntent (routingKey : String) (intent : IntentEnvelope)
  | persistDecisionSummary
  | writeSummary
  | publishLifecycle (eventType : String)
  | publishStrategyEvent (eventType : String)
  deriving DecidableEq

/-- The intent a call publishes. -/
def CycleCall.intent? : CycleCall → Option (String × IntentEnvelope)
  | .publishIntent routingKey intent => some (routingKey, intent)
  | _ => none

/-- What a cycle raises. -/
inductive CycleError where
  | refused (error : OrchestratorError)
  | raised (call : CycleCall)
  deriving DecidableEq

/-- What a cycle works with: what the memory holds of the decision, the suggestions of the language
model when there is a runtime, and whether there is a notification bridge. -/
structure CycleSetup where
  memory : MemorySource := .empty
  suggestions : Option Suggestions := none
  notificationBridge : Bool := false

namespace CycleSetup

variable (setup : CycleSetup)

/-- `read_decision_memory`; `memory_layer.py:99-146`. -/
def readDecisionMemory : List CycleCall :=
  match setup.memory with
  | .redis => [.readSlots]
  | .empty => [.readSlots, .readDecisionSummary]
  | .postgres => [.readSlots, .readDecisionSummary, .restoreSummary]

/-- A stage of the language model runs when there is a runtime. The failure of a suggestion is
caught inside the stage and leaves no suggestion. -/
def llmStage (stage : AgentStage) : List CycleCall :=
  if setup.suggestions.isSome then [.runStage stage] else []

/-- The agents and the slots they are written to; `orchestrator.py:81-327`. -/
def agentCalls : List CycleCall :=
  [.runStage .marketContextAgent, .writeDecisionSlot .context, .runStage .plannerAgent] ++
    setup.llmStage .plannerLlm ++
    [.writeDecisionSlot .plan, .runStage .riskAgent] ++
    setup.llmStage .riskLlm ++
    [.writeDecisionSlot .risk, .runStage .executionDecisionAgent] ++
    setup.llmStage .executionDecisionLlm ++
    [.writeDecisionSlot .executionDecision, .runStage .guardrailValidation,
      .writeDecisionSlot .guardrail, .writeDecisionSlot .status]

/-- The calls before the intent. -/
def openingCalls : List CycleCall := setup.readDecisionMemory ++ setup.agentCalls

/-- What the agents conclude from a message, with the suggestions there are. -/
def conclusion (strategy : StrategyConfig) (envelope : MarketEnvelope) : Conclusion :=
  runAgents (setup.suggestions.getD {}) (contextOf strategy envelope) strategy

/-- The calls after the intent: `persist_decision_summary`, then each lifecycle event;
`orchestrator.py:474-528`. -/
def closingCalls (lifecycle : List String) : List CycleCall :=
  [.persistDecisionSummary, .writeSummary] ++ lifecycle.flatMap fun eventType =>
    .publishLifecycle eventType ::
      if setup.notificationBridge then [.publishStrategyEvent eventType] else []

end CycleSetup

/-- The message checks of a cycle. -/
def acceptMessage (envelope : MarketEnvelope) : Except OrchestratorError Unit := do
  (validateEnvelope envelope).mapError .envelope
  if !isCanonicalType (envelope.eventType.getD "") then .error .notCanonical else .ok ()

section

variable (raises : CycleCall → Bool) (setup : CycleSetup) (now : UtcStamp)
  (strategy : StrategyConfig) (envelope : MarketEnvelope)

/-- `AgentOrchestrator.handle_market_event` with its calls, of which those of `raises` raise;
`orchestrator.py:59-543`. -/
def decisionCycle : Attempt CycleCall CycleError OrchestrationResult := do
  .ofExcept ((acceptMessage envelope).mapError .refused)
  .callAll raises .raised setup.openingCalls
  let context := contextOf strategy envelope
  let c := setup.conclusion strategy envelope
  let intent ← .ofExcept (if c.shouldPublishIntent then
      (some <$> buildIntent now envelope strategy context c.decision).mapError .refused
    else .ok none)
  .callAll raises .raised (intent.toList.map fun sent => .publishIntent sent.1 sent.2)
  .callAll raises .raised (setup.closingCalls c.lifecycle)
  return { context, conclusion := c, status := c.status, lifecycle := c.lifecycle, intent }

/-- The intents a cycle has published, in order. -/
def publishedIntents : List (String × IntentEnvelope) :=
  (decisionCycle raises setup now strategy envelope).made.filterMap (·.intent?)

end

/-! ### The calls of an accepted message -/

private theorem intent?_openingCalls (setup : CycleSetup) :
    ∀ call ∈ setup.openingCalls, call.intent? = none := by
  intro call hcall
  cases call with
  | publishIntent routingKey intent =>
    exfalso
    revert hcall
    unfold CycleSetup.openingCalls CycleSetup.readDecisionMemory CycleSetup.agentCalls
      CycleSetup.llmStage
    cases setup.memory <;> cases setup.suggestions <;> simp
  | _ => rfl

private theorem intent?_closingCalls (setup : CycleSetup) (lifecycle : List String) :
    ∀ call ∈ setup.closingCalls lifecycle, call.intent? = none := by
  intro call hcall
  cases call with
  | publishIntent routingKey intent =>
    exfalso
    revert hcall
    unfold CycleSetup.closingCalls
    cases setup.notificationBridge <;> simp
  | _ => rfl

theorem acceptMessage_eq_ok_iff (envelope : MarketEnvelope) :
    acceptMessage envelope = .ok () ↔
      validateEnvelope envelope = .ok () ∧
        isCanonicalType (envelope.eventType.getD "") = true := by
  unfold acceptMessage
  rw [bind_eq_ok_iff]
  simp only [mapError_eq_ok_iff, guard_eq_ok_iff, and_true, Bool.not_eq_true, Bool.not_eq_false']
  constructor
  · rintro ⟨⟨⟩, hv, hcanonical⟩
    exact ⟨hv, hcanonical⟩
  · rintro ⟨hv, hcanonical⟩
    exact ⟨(), hv, hcanonical⟩

/-- The call that sends the intent of a decision. -/
def intentCall (now : UtcStamp) (strategy : StrategyConfig) (envelope : MarketEnvelope)
    (decision : ExecutionDecision) : CycleCall :=
  .publishIntent ((routingKeyForMode (envelope.mode.getD "")).toOption.getD "")
    (intentEnvelope now envelope strategy (contextOf strategy envelope) decision)

section

variable {raises : CycleCall → Bool} {setup : CycleSetup} {now : UtcStamp}
  {strategy : StrategyConfig} {envelope : MarketEnvelope}

private theorem decisionCycle_of_refused (h : acceptMessage envelope ≠ .ok ()) :
    publishedIntents raises setup now strategy envelope = [] := by
  cases hacc : acceptMessage envelope with
  | ok _ => exact absurd hacc h
  | error e =>
    unfold publishedIntents decisionCycle
    rw [hacc]
    rfl

private theorem decisionCycle_of_accepted (h : acceptMessage envelope = .ok ()) :
    let c := setup.conclusion strategy envelope
    let sending :=
      if c.shouldPublishIntent then [intentCall now strategy envelope c.decision] else []
    ∃ result : OrchestrationResult,
      decisionCycle raises setup now strategy envelope = (.callAll raises .raised
        (setup.openingCalls ++ (sending ++ setup.closingCalls c.lifecycle)) >>= fun _ =>
          pure result) := by
  intro c sending
  obtain ⟨key, hk, hint⟩ := buildIntent_ok now ((acceptMessage_eq_ok_iff envelope).mp h).1
    strategy (contextOf strategy envelope) c.decision
  have hsending : ∃ intent : Option (String × IntentEnvelope),
      (if c.shouldPublishIntent then (some <$> buildIntent now envelope strategy
        (contextOf strategy envelope) c.decision).mapError CycleError.refused else .ok none) =
          .ok intent ∧
      intent.toList.map (fun sent => CycleCall.publishIntent sent.1 sent.2) = sending := by
    by_cases hpub : c.shouldPublishIntent = true
    · refine ⟨some (key, _), by rw [if_pos hpub, hint]; rfl, ?_⟩
      simp only [sending, if_pos hpub, intentCall, hk]
      rfl
    · exact ⟨none, by rw [if_neg hpub], by simp only [sending, if_neg hpub]; rfl⟩
  obtain ⟨intent, hbuilt, hcalls⟩ := hsending
  refine ⟨{ context := contextOf strategy envelope, conclusion := c, status := c.status,
            lifecycle := c.lifecycle, intent }, ?_⟩
  rw [← Attempt.callAll_bind_callAll_bind, ← Attempt.callAll_bind_callAll_bind, ← hcalls]
  unfold decisionCycle
  simp only [h, c] at hbuilt ⊢
  rw [hbuilt]
  rfl

private theorem filterMap_intent?_eq_nil {calls : List CycleCall}
    (h : ∀ call ∈ calls, call.intent? = none) : calls.filterMap (·.intent?) = [] := by
  rw [List.filterMap_eq_nil_iff]
  exact h

private theorem filterMap_made_eq_nil {calls : List CycleCall}
    (h : ∀ call ∈ calls, call.intent? = none) :
    (Attempt.callAll raises CycleError.raised calls).made.filterMap (·.intent?) = [] :=
  filterMap_intent?_eq_nil fun call hcall => h call ((List.takeWhile_prefix _).subset hcall)

private theorem publishedIntents_of_accepted (h : acceptMessage envelope = .ok ()) :
    let c := setup.conclusion strategy envelope
    let call := intentCall now strategy envelope c.decision
    publishedIntents raises setup now strategy envelope =
        (if c.shouldPublishIntent = true ∧ ∀ x ∈ setup.openingCalls ++ [call], raises x = false then
          call.intent?.toList else []) ∧
      ((∃ e, (decisionCycle raises setup now strategy envelope).result = .error e) ↔
        ∃ x ∈ setup.openingCalls ++ ((if c.shouldPublishIntent then [call] else []) ++
          setup.closingCalls c.lifecycle), raises x = true) := by
  intro c call
  obtain ⟨result, hcycle⟩ : ∃ result, decisionCycle raises setup now strategy envelope =
      (.callAll raises .raised (setup.openingCalls ++
        ((if c.shouldPublishIntent then [call] else []) ++ setup.closingCalls c.lifecycle)) >>=
          fun _ => pure result) := decisionCycle_of_accepted h
  clear_value call c
  rw [hcycle, Attempt.callAll_bind_pure, ← Attempt.callAll_eq_error_iff raises CycleError.raised]
  constructor
  · unfold publishedIntents
    rw [hcycle, Attempt.callAll_bind_pure]
    dsimp only
    rw [Attempt.made_callAll_append]
    have hclosing := @filterMap_made_eq_nil raises _ (intent?_closingCalls setup c.lifecycle)
    by_cases hbefore : ∀ x ∈ setup.openingCalls, raises x = false
    · rw [if_pos hbefore, List.filterMap_append,
        filterMap_intent?_eq_nil (intent?_openingCalls setup), List.nil_append,
        Attempt.made_callAll_append]
      by_cases hpub : c.shouldPublishIntent = true
      · by_cases hcall : raises call = false
        · have hall : ∀ x ∈ setup.openingCalls ++ [call], raises x = false := by
            simpa [or_imp, forall_and, hcall] using hbefore
          rw [if_pos hpub, if_pos (by simpa using hcall), if_pos ⟨hpub, hall⟩,
            List.filterMap_append, hclosing]
          cases hint : call.intent? <;> simp [hint]
        · rw [if_pos hpub, if_neg (by simpa using hcall)]
          have hnot : ¬ (c.shouldPublishIntent = true ∧
              ∀ x ∈ setup.openingCalls ++ [call], raises x = false) := by
            rintro ⟨-, hall⟩
            exact hcall (hall call (by simp))
          rw [if_neg hnot]
          simp [Attempt.callAll, hcall]
      · rw [if_neg hpub, if_pos (by simp), List.nil_append, hclosing]
        simp [hpub]
    · rw [if_neg hbefore, filterMap_made_eq_nil (intent?_openingCalls setup), if_neg ?_]
      rintro ⟨-, hall⟩
      exact hbefore fun x hx => hall x (by simp [hx])
  · cases (Attempt.callAll raises CycleError.raised (setup.openingCalls ++
      ((if c.shouldPublishIntent then [call] else []) ++ setup.closingCalls c.lifecycle))).result
    · simp [Except.map]
    · simp [Except.map]

private theorem publishedIntents_eq_nil_iff (h : acceptMessage envelope = .ok ()) :
    let c := setup.conclusion strategy envelope
    publishedIntents raises setup now strategy envelope = [] ↔
      (c.shouldPublishIntent = true →
        ∃ call ∈ setup.openingCalls ++ [intentCall now strategy envelope c.decision],
          raises call = true) := by
  intro c
  have hcall : (intentCall now strategy envelope c.decision).intent?.toList ≠ [] := by
    simp [intentCall, CycleCall.intent?]
  rw [(@publishedIntents_of_accepted raises setup now strategy envelope h).1, ite_eq_right_iff]
  constructor
  · intro hnot hpub
    by_contra hn
    refine hcall (hnot ⟨hpub, fun call hm => ?_⟩)
    rw [← Bool.not_eq_true]
    exact fun hraises => hn ⟨call, hm, hraises⟩
  · rintro hsome ⟨hpub, hall⟩
    obtain ⟨call, hm, hraises⟩ := hsome hpub
    rw [hall call hm] at hraises
    cases hraises

end

/-- A cycle in which no call raises computes what the calls leave out of account. -/
theorem result_decisionCycle {raises : CycleCall → Bool} (h : ∀ call, raises call = false)
    (setup : CycleSetup) (now : UtcStamp) (strategy : StrategyConfig) (envelope : MarketEnvelope) :
    (decisionCycle raises setup now strategy envelope).result =
      (handleMarketEvent now (setup.suggestions.getD {}) strategy envelope).mapError .refused := by
  have hcalls (calls : List CycleCall) : ∀ call ∈ calls, raises call = false := fun call _ => h call
  have hconclusion : runAgents (setup.suggestions.getD {}) (contextOf strategy envelope) strategy =
      setup.conclusion strategy envelope := rfl
  unfold decisionCycle acceptMessage handleMarketEvent
  simp only [hconclusion]
  cases validateEnvelope envelope with
  | error e => rfl
  | ok _ =>
    by_cases htype : isCanonicalType (envelope.eventType.getD "") = true
    · simp only [htype, Bool.not_true, Bool.false_eq_true, if_false]
      change (Attempt.callAll raises _ _ >>= _).result = _
      rw [Attempt.result_callAll_bind _ _ _ _ (hcalls _)]
      change _ = Except.mapError _ (if _ then _ else _)
      by_cases hpub : (setup.conclusion strategy envelope).shouldPublishIntent = true
      · simp only [if_pos hpub]
        cases buildIntent now envelope strategy (contextOf strategy envelope)
          (setup.conclusion strategy envelope).decision with
        | error e => rfl
        | ok intent =>
          change (Attempt.callAll raises _ _ >>= _).result = _
          rw [Attempt.result_callAll_bind _ _ _ _ (hcalls _),
            Attempt.result_callAll_bind _ _ _ _ (hcalls _)]
          rfl
      · simp only [if_neg hpub]
        change (Attempt.callAll raises _ _ >>= _).result = _
        rw [Attempt.result_callAll_bind _ _ _ _ (hcalls _)]
        rfl
    · simp only [htype]
      rfl

/-! ### Hard limits -/

/-- What the payload of an intent says, within the limits of a strategy for a context. -/
structure PayloadWithinLimits (strategy : StrategyConfig) (context : MarketContext)
    (payload : IntentPayload) (action : DecisionAction) (quantity confidence : ℚ) : Prop where
  action_eq : payload.action = some action.name
  quantity_eq : payload.quantity = .num quantity
  confidence_eq : payload.confidence = .num confidence
  symbol_eq : payload.symbol = some strategy.symbol
  executable : action = .buy ∨ action = .sell ∨ action = .close
  allowed : action ∈ strategy.allowedActions
  buys : action = .buy → 0 < quantity
  sells : action = .sell → quantity < 0
  closes : action = .close → quantity ≠ 0
  confident : strategy.riskMinConfidence ≤ confidence
  position : |context.currentPosition + quantity| ≤ strategy.riskMaxPositionSize
  notional : |quantity| * max context.midPrice 0 ≤ strategy.riskMaxNotionalUsd

private theorem payloadWithinLimits {strategy : StrategyConfig} {context : MarketContext}
    {decision : ExecutionDecision} (h : WithinLimits strategy context decision)
    (decisionId : String) :
    PayloadWithinLimits strategy context (intentPayload strategy context decisionId decision)
      decision.action decision.quantity decision.confidence where
  action_eq := rfl
  quantity_eq := rfl
  confidence_eq := rfl
  symbol_eq := by rw [intentPayload, h.symbol]
  executable := by
    have hne := h.executable
    cases hact : decision.action <;> simp_all
  allowed := h.allowed
  buys hact := by simpa [hact, quantitySemanticsValid] using h.signed
  sells hact := by simpa [hact, quantitySemanticsValid] using h.signed
  closes hact := by simpa [hact, quantitySemanticsValid] using h.signed
  confident := h.confident
  position := h.position
  notional := h.notional

/-- Whatever the language model suggests and whichever calls raise, an intent that is published is
published once, in the mode of the message and on its routing key, and keeps the hard limits. -/
theorem publishedIntents_within_limits (raises : CycleCall → Bool) (setup : CycleSetup)
    (now : UtcStamp) (strategy : StrategyConfig) (envelope : MarketEnvelope) {key : String}
    {intent : IntentEnvelope}
    (h : (key, intent) ∈ publishedIntents raises setup now strategy envelope) :
    publishedIntents raises setup now strategy envelope = [(key, intent)] ∧
      intent.mode = envelope.mode ∧ routingKeyForMode (envelope.mode.getD "") = .ok key ∧
      ∃ payload action quantity confidence, intent.payload = some payload ∧
        PayloadWithinLimits strategy (contextOf strategy envelope) payload action quantity
          confidence := by
  by_cases haccept : acceptMessage envelope = .ok ()
  · have hvalid := ((acceptMessage_eq_ok_iff envelope).mp haccept).1
    have hpublished :=
      (@publishedIntents_of_accepted raises setup now strategy envelope haccept).1
    split at hpublished
    · next hsent =>
      set c := setup.conclusion strategy envelope
      obtain ⟨route, hroute, -⟩ := buildIntent_ok now hvalid strategy
        (contextOf strategy envelope) c.decision
      have hone : publishedIntents raises setup now strategy envelope =
          [(route, intentEnvelope now envelope strategy (contextOf strategy envelope)
            c.decision)] := by
        rw [hpublished, intentCall, hroute]
        rfl
      rw [hone, List.mem_singleton] at h
      cases h
      have hlimits := (shouldPublishIntent_iff.mp hsent.1).2.2
      exact ⟨hone, (validateEnvelope_intentEnvelope now hvalid strategy _ _).2, hroute, _, _, _, _,
        rfl, payloadWithinLimits hlimits _⟩
    · rw [hpublished] at h
      cases h
  · rw [decisionCycle_of_refused haccept] at h
    cases h

private theorem acceptMessage_sampleMessage (real : Bool) (payload : MarketPayload) :
    acceptMessage (sampleMessage real payload).envelope = .ok () :=
  (acceptMessage_eq_ok_iff _).mpr
    ⟨(sampleMessage real payload).valid, (sampleMessage real payload).canonical⟩

/-- The language model asks for a coin and a half in the place of a half, on a REAL message. -/
theorem suggested_quantity_within_limits :
    let setup : CycleSetup :=
      { suggestions := some { execution := some { quantity := some (3 / 2) } } }
    let envelope := (sampleMessage true sampleBook).envelope
    ∃ key intent,
      (key, intent) ∈ publishedIntents (fun _ => false) setup sampleTime sampleStrategy envelope ∧
      publishedIntents (fun _ => false) setup sampleTime sampleStrategy envelope =
        [(key, intent)] ∧
      intent.mode = envelope.mode ∧ routingKeyForMode (envelope.mode.getD "") = .ok key ∧
      ∃ payload action quantity confidence, intent.payload = some payload ∧
        PayloadWithinLimits sampleStrategy (contextOf sampleStrategy envelope) payload action
          quantity confidence := by
  intro setup envelope
  have hpublished := (@publishedIntents_of_accepted (fun _ => false) setup sampleTime sampleStrategy
    envelope (acceptMessage_sampleMessage true sampleBook)).1
  have hpublish : (setup.conclusion sampleStrategy envelope).shouldPublishIntent = true := by
    decide +kernel
  rw [if_pos ⟨hpublish, fun _ _ => rfl⟩] at hpublished
  obtain ⟨sent, hsent⟩ := List.exists_mem_of_ne_nil
    (publishedIntents (fun _ => false) setup sampleTime sampleStrategy envelope)
    (by rw [hpublished]; simp [intentCall, CycleCall.intent?])
  exact ⟨sent.1, sent.2, hsent, publishedIntents_within_limits (fun _ => false) setup sampleTime
    sampleStrategy envelope hsent⟩

/-! ### A cycle that raises -/

/-- A cycle that raises has published no intent exactly when no call after the intent raises, unless
one up to it does. -/
theorem publishedIntents_eq_nil_of_raised_iff (raises : CycleCall → Bool) (setup : CycleSetup)
    (now : UtcStamp) (strategy : StrategyConfig) (envelope : MarketEnvelope) :
    let c := setup.conclusion strategy envelope
    ((∃ e, (decisionCycle raises setup now strategy envelope).result = .error e) →
        publishedIntents raises setup now strategy envelope = []) ↔
      (acceptMessage envelope = .ok () → c.Trades strategy (contextOf strategy envelope) →
        (∃ call ∈ setup.closingCalls c.lifecycle, raises call = true) →
        ∃ call ∈ setup.openingCalls ++ [intentCall now strategy envelope c.decision],
          raises call = true) := by
  intro c
  have htrades : c.shouldPublishIntent = true ↔ c.Trades strategy (contextOf strategy envelope) :=
    shouldPublishIntent_iff
  by_cases haccept : acceptMessage envelope = .ok ()
  · have hnil : publishedIntents raises setup now strategy envelope = [] ↔
        (c.shouldPublishIntent = true →
          ∃ call ∈ setup.openingCalls ++ [intentCall now strategy envelope c.decision],
            raises call = true) := publishedIntents_eq_nil_iff haccept
    obtain ⟨-, hraised⟩ :=
      @publishedIntents_of_accepted raises setup now strategy envelope haccept
    rw [hnil, hraised, ← htrades]
    by_cases hpublish : c.shouldPublishIntent = true
    · -- of the calls that can raise, only those after the intent do not keep it from being sent
      rw [if_pos hpublish, ← List.append_assoc]
      constructor
      · rintro h - - ⟨call, hmem, hraises⟩
        exact h ⟨call, List.mem_append_right _ hmem, hraises⟩ hpublish
      · rintro h ⟨call, hmem, hraises⟩ -
        rcases List.mem_append.mp hmem with hmem | hmem
        · exact ⟨call, hmem, hraises⟩
        · exact h haccept hpublish ⟨call, hmem, hraises⟩
    · exact iff_of_true (fun _ h => absurd h hpublish) fun _ h => absurd h hpublish
  · exact iff_of_true (fun _ => decisionCycle_of_refused haccept) fun h => absurd h haccept

/-- The archive refuses the summary: the cycle raises, and the intent to buy is out. -/
theorem intent_sent_before_failed_persist :
    let raises : CycleCall → Bool := fun call => decide (call = .persistDecisionSummary)
    let envelope := (sampleMessage false sampleBook).envelope
    (∃ e, (decisionCycle raises {} sampleTime sampleStrategy envelope).result = .error e) ∧
      (publishedIntents raises {} sampleTime sampleStrategy envelope).map
          (fun sent => (sent.1, sent.2.payload.map fun p => (p.action, p.quantity))) =
        [("execution.intent.mock", some (some "BUY", .num (1 / 2)))] := by
  intro raises envelope
  obtain ⟨hpublished, hraised⟩ := @publishedIntents_of_accepted raises {} sampleTime sampleStrategy
    envelope (acceptMessage_sampleMessage false sampleBook)
  have hsent : (({} : CycleSetup).conclusion sampleStrategy envelope).shouldPublishIntent = true ∧
      ∀ call ∈ ({} : CycleSetup).openingCalls ++ [intentCall sampleTime sampleStrategy envelope
        (({} : CycleSetup).conclusion sampleStrategy envelope).decision], raises call = false := by
    decide +kernel
  rw [hpublished, hraised, if_pos hsent]
  refine ⟨⟨.persistDecisionSummary, ?_, by decide +kernel⟩, by decide +kernel⟩
  simp [CycleSetup.closingCalls]

end OpenTrader.Agent
