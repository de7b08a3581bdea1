import OpenTrader.Base.Attempt
import OpenTrader.Base.Dict
import OpenTrader.Base.Rounding
import OpenTrader.Base.Trace

/-!
# The gateway to the language models

Library `Llm`. `services/llm_gateway/gateway.py` with the tables of
`services/llm_gateway/sqlalchemy_stores.py`. A request first passes the hard limits, then goes to
the providers of its order in turn, with the retries of each; what the response used is added to the
tables of the day and of the month within the attempt that got it, so a failure of this bookkeeping
is a failure of the attempt.

The calls to the stores and to the metrics are data: which of them raise is an input, as are the
replies of the providers. The tables hold the rows of one strategy and agent in one day and month.
Tokens are integers and costs rational numbers; latencies, the fields of the stored records and
the log lines of the soft alerts are left out.
-/

namespace OpenTrader.Llm
open Base

/-! ### Settings, requests and replies -/

/-- `ProviderSettings`; `services/llm_gateway/contracts.py:7-16`. -/
structure ProviderSettings where
  model : String
  maxRetries : ℤ
  enabled : Bool := true
  promptCostPer1kTokens : ℚ := 0
  completionCostPer1kTokens : ℚ := 0

/-- `GatewaySettings`; `services/llm_gateway/contracts.py:19-24`. -/
structure GatewaySettings where
  providers : Dict String ProviderSettings
  defaultProviderOrder : List String

/-- A message, with the texts `str` makes of its two fields. -/
structure Message where
  role : String := ""
  content : String := ""
  deriving DecidableEq

/-- `LLMRequest`; `services/llm_gateway/contracts.py:27-36`. -/
structure LlmRequest where
  messages : List Message
  maxTokens : ℤ

/-- A token count in the payload of a provider: no such field, a value that counts as false, one
that `int` takes, or one it raises at. -/
inductive TokenField where
  | missing
  | falsy
  | int (value : ℤ)
  | refused (reason : String)
  deriving DecidableEq

/-- The `usage` mapping of a payload. -/
structure RawUsage where
  promptTokens : TokenField
  completionTokens : TokenField
  totalTokens : TokenField

/-- The payload of a provider, with the text `_extract_content` finds in it. -/
structure RawPayload where
  content : String
  usage : Option RawUsage

/-- The `usage` of a response. -/
structure TokenUsage where
  promptTokens : ℤ
  completionTokens : ℤ
  totalTokens : ℤ

/-- `LLMResponse`; `services/llm_gateway/contracts.py:39-47`. -/
structure LlmResponse where
  provider : String
  model : String
  content : String
  usage : TokenUsage
  attemptCount : ℕ

/-- `int(usage.get(field, default) or 0)`. -/
def TokenField.read (field : TokenField) (default : ℤ) : Except String ℤ :=
  match field with
  | .missing => .ok default
  | .falsy => .ok 0
  | .int value => .ok value
  | .refused reason => .error reason

/-- `_extract_usage`; `gateway.py:208-221`. -/
def extractUsage (payload : RawPayload) : Except String TokenUsage :=
  match payload.usage with
  | none => .ok { promptTokens := 0, completionTokens := 0, totalTokens := 0 }
  | some usage => do
    let promptTokens ← usage.promptTokens.read 0
    let completionTokens ← usage.completionTokens.read 0
    let totalTokens ← usage.totalTokens.read (promptTokens + completionTokens)
    return { promptTokens, completionTokens, totalTokens }

/-- `_estimate_cost`; `gateway.py:533-542`. -/
def estimateCost (promptTokens completionTokens : ℤ) (provider : ProviderSettings) : ℚ :=
  roundTo 8 (promptTokens / 1000 * provider.promptCostPer1kTokens +
    completionTokens / 1000 * provider.completionCostPer1kTokens)

/-- `_estimate_prompt_tokens`; `gateway.py:470-478`. -/
def estimatePromptTokens (messages : List Message) : ℕ :=
  max 1 ((messages.map fun message => message.role.length + message.content.length).sum / 4)

namespace LlmRequest

variable (request : LlmRequest)

/-- The prompt tokens `_enforce_hard_quota_limits` projects. -/
def projectedPromptTokens : ℤ := estimatePromptTokens request.messages

/-- The completion tokens `_enforce_hard_quota_limits` projects. -/
def projectedCompletionTokens : ℤ := max request.maxTokens 0

/-- The tokens `_enforce_hard_quota_limits` projects. -/
def projectedTotalTokens : ℤ := request.projectedPromptTokens + request.projectedCompletionTokens

end LlmRequest

/-! ### The quota store -/

/-- `QuotaLimits`; `services/llm_gateway/quota.py:7-11`. -/
structure QuotaLimits where
  dailyTokenLimit : Option ℤ
  monthlyCostLimit : Option ℚ
  isHardLimit : Bool := true

/-- `QuotaUsage`; `services/llm_gateway/quota.py:14-17`. -/
structure QuotaUsage where
  dailyTokens : ℤ
  monthlyCost : ℚ

/-- The rows of `llm_usage_daily` and `llm_usage_monthly`; a row that is not there is zero. -/
structure QuotaTables where
  dailyTokens : ℤ
  dailyCost : ℚ
  monthlyTokens : ℤ
  monthlyCost : ℚ
  deriving DecidableEq

/-- How a call ended, in its record and its metrics. -/
inductive CallStatus where
  | succeeded
  | failed
  | quotaBlocked
  deriving DecidableEq

/-- A call of the gateway to one of its stores or to the metrics. The two upserts and the two reads
of `increment_usage` are statements of their own, each in its own transaction. -/
inductive StoreCall where
  | addDaily (tokens : ℤ) (cost : ℚ)
  | addMonthly (tokens : ℤ) (cost : ℚ)
  | readDaily
  | readMonthly
  | persistCall (status : CallStatus)
  | recordLlmCall (status : CallStatus)
  deriving DecidableEq

namespace QuotaTables

variable (tables : QuotaTables)

/-- `get_usage`; `sqlalchemy_stores.py:111-143`. -/
def usage : QuotaUsage where
  dailyTokens := tables.dailyTokens
  monthlyCost := tables.monthlyCost

/-- The tables with usage added to both. -/
def add (tokens : ℤ) (cost : ℚ) : QuotaTables where
  dailyTokens := tables.dailyTokens + tokens
  dailyCost := tables.dailyCost + cost
  monthlyTokens := tables.monthlyTokens + tokens
  monthlyCost := tables.monthlyCost + cost

/-- What a call leaves in the tables. -/
def write : StoreCall → QuotaTables
  | .addDaily tokens cost =>
    { tables with
      dailyTokens := tables.dailyTokens + tokens, dailyCost := tables.dailyCost + cost }
  | .addMonthly tokens cost =>
    { tables with
      monthlyTokens := tables.monthlyTokens + tokens, monthlyCost := tables.monthlyCost + cost }
  | .readDaily | .readMonthly | .persistCall _ | .recordLlmCall _ => tables

/-- The tables after calls that returned. -/
def record (calls : List StoreCall) : QuotaTables := run write tables calls

end QuotaTables

/-- Which calls to the stores raise, and with what. -/
structure StoreFailures where
  raises : StoreCall → Bool := fun _ => false
  error : StoreCall → String := fun _ => ""

/-- What happens in one attempt: the payload of the provider, or the reason of its failure, and the
calls of the bookkeeping that raise. -/
structure ProviderOutcome where
  payload : Except String RawPayload
  stores : StoreFailures := {}

/-- What happens around a call of `generate`: what the quota store reads, the attempts, by the place
of the provider in the order, and the calls to the stores that raise outside of the attempts. -/
structure Outcomes where
  limits : Except String QuotaLimits
  usage : Except String QuotaUsage
  attempt : ℕ → ℕ → ProviderOutcome
  stores : StoreFailures := {}

/-! ### The gateway -/

/-- What `generate` raises. -/
inductive GatewayError where
  | providerNotConfigured (message : String)
  | quotaExceeded (reason : String) (projected limit : ℚ)
  | retryExhausted (message : String)
  | raised (reason : String)
  deriving DecidableEq

/-- `LLMGateway`; the stores and the metrics are there or not. -/
structure LlmGateway where
  settings : GatewaySettings
  providerClients : List String
  callStore : Bool := true
  quotaStore : Bool := true
  metrics : Bool := true

namespace LlmGateway

variable (gateway : LlmGateway)

variable (request : LlmRequest) (aliases : List String) (providerAlias : String)

/-- `_get_provider`; `gateway.py:166-170`. -/
def getProvider : Except GatewayError ProviderSettings :=
  match gateway.settings.providers.get? providerAlias with
  | some provider => .ok provider
  | none => .error (.providerNotConfigured
      ("Provider settings not found for alias: " ++ providerAlias))

/-- The costs of `_minimum_projected_cost`, one for each enabled provider. -/
def projectedCosts (promptTokens completionTokens : ℤ) :
    List String → Except GatewayError (List ℚ)
  | [] => .ok []
  | providerAlias :: aliases => do
    let provider ← gateway.getProvider providerAlias
    let costs ← projectedCosts promptTokens completionTokens aliases
    return if provider.enabled then estimateCost promptTokens completionTokens provider :: costs
      else costs

/-- `_minimum_projected_cost`; `gateway.py:480-501`. -/
def minimumProjectedCost : Except GatewayError ℚ := do
  let costs ← gateway.projectedCosts request.projectedPromptTokens
    request.projectedCompletionTokens aliases
  return costs.min?.getD 0

variable (outcomes : Outcomes) (status : CallStatus) (limits : QuotaLimits) (usage : QuotaUsage)
  (provider : ProviderSettings)

/-- The second check of `_enforce_hard_quota_limits`. -/
def monthlyBlock : Except GatewayError (Option GatewayError) :=
  match limits.monthlyCostLimit with
  | none => .ok none
  | some limit => do
    let cost ← gateway.minimumProjectedCost request aliases
    return if limit < usage.monthlyCost + cost then
      some (.quotaExceeded "monthly_cost_limit_exceeded" (usage.monthlyCost + cost) limit)
    else none

/-- The checks of `_enforce_hard_quota_limits`: the error of the block, when there is one. -/
def quotaBlock : Except GatewayError (Option GatewayError) :=
  match limits.dailyTokenLimit with
  | none => gateway.monthlyBlock request aliases limits usage
  | some limit =>
    if limit < usage.dailyTokens + request.projectedTotalTokens then do
      -- The cost goes to the record of the block; only the aliases it looks up matter here.
      let _ ← gateway.minimumProjectedCost request aliases
      return some (.quotaExceeded "daily_token_limit_exceeded"
        (usage.dailyTokens + request.projectedTotalTokens : ℤ) limit)
    else gateway.monthlyBlock request aliases limits usage

/-- `_increment_quota_usage` and `increment_usage`. -/
def incrementQuotaUsage (tokens : ℤ) (cost : ℚ) : List StoreCall :=
  if gateway.quotaStore then
    [.addDaily tokens cost, .addMonthly tokens cost, .readDaily, .readMonthly]
  else []

/-- `_persist_success_record`, `_persist_failure_record` and `_persist_quota_block_record`. -/
def persistRecord : List StoreCall :=
  if gateway.callStore then [.persistCall status] else []

/-- `_record_llm_metrics`; `gateway.py:503-531`. -/
def recordLlmMetrics : List StoreCall :=
  if gateway.metrics then [.recordLlmCall status] else []

/-- `_enforce_hard_quota_limits`; `gateway.py:341-452`. -/
def enforceHardQuotaLimits (request : LlmRequest) (aliases : List String) :
    Attempt StoreCall GatewayError Unit :=
  if gateway.quotaStore then do
    let limits ← Attempt.ofExcept (outcomes.limits.mapError .raised)
    if limits.isHardLimit then do
      let usage ← Attempt.ofExcept (outcomes.usage.mapError .raised)
      let block ← Attempt.ofExcept (gateway.quotaBlock request aliases limits usage)
      match block with
      | none => return ()
      | some error => do
        Attempt.callAll outcomes.stores.raises (fun call => .raised (outcomes.stores.error call))
          (gateway.persistRecord .quotaBlocked ++ gateway.recordLlmMetrics .quotaBlocked)
        Attempt.ofExcept (.error error)
    else return ()
  else return ()

/-- The calls to the stores once a response is there. -/
def bookkeeping (usage : TokenUsage) (cost : ℚ) : List StoreCall :=
  gateway.incrementQuotaUsage usage.totalTokens cost ++ gateway.persistRecord .succeeded ++
    gateway.recordLlmMetrics .succeeded

/-- The body of the `try`; `gateway.py:90-135`. -/
def attempt (attemptIdx : ℕ) (outcome : ProviderOutcome) :
    Attempt StoreCall String LlmResponse := do
  let payload ← Attempt.ofExcept outcome.payload
  let usage ← Attempt.ofExcept (extractUsage payload)
  let cost := estimateCost usage.promptTokens usage.completionTokens provider
  Attempt.callAll outcome.stores.raises outcome.stores.error (gateway.bookkeeping usage cost)
  return {
    provider := providerAlias, model := provider.model, content := payload.content, usage,
    attemptCount := attemptIdx + 1 }

/-- The attempts at one provider, each with the summary of its failure. -/
def attempts (outcome : ℕ → ProviderOutcome) : List (Attempt StoreCall String LlmResponse) :=
  (List.range (provider.maxRetries + 1).toNat).map fun attemptIdx =>
    (gateway.attempt providerAlias provider attemptIdx (outcome attemptIdx)).mapError fun reason =>
      s!"{providerAlias}:attempt{attemptIdx + 1}:{reason}"

/-- The end of `generate` when no provider answered; `gateway.py:146-164`. -/
def exhaust (stores : StoreFailures) (errorSummaries : List String) :
    Attempt StoreCall GatewayError LlmResponse := do
  Attempt.callAll stores.raises (fun call => .raised (stores.error call))
    (gateway.persistRecord .failed ++ gateway.recordLlmMetrics .failed)
  let joined := if errorSummaries.isEmpty then "unknown_gateway_error"
    else "; ".intercalate errorSummaries
  Attempt.ofExcept (.error (.retryExhausted
    ("LLM request failed across configured providers: " ++ joined)))

/-- The loop over the providers; `gateway.py:72-164`. -/
def tryProviders (outcomes : Outcomes) (place : ℕ) (errorSummaries : List String) :
    List String → Attempt StoreCall GatewayError LlmResponse
  | [] => gateway.exhaust outcomes.stores errorSummaries
  | providerAlias :: aliases =>
    match gateway.getProvider providerAlias with
    | .error error => Attempt.ofExcept (.error error)
    | .ok provider =>
      if provider.enabled then
        if providerAlias ∈ gateway.providerClients then
          let tried := gateway.attempts providerAlias provider (outcomes.attempt place)
          (Attempt.firstOk tried).recover fun summaries =>
            tryProviders outcomes (place + 1) (errorSummaries ++ summaries) aliases
        else Attempt.ofExcept (.error
          (.providerNotConfigured ("Provider client not configured: " ++ providerAlias)))
      else tryProviders outcomes (place + 1)
        (errorSummaries ++ [providerAlias ++ ": provider_disabled"]) aliases

/-- `provider_order or default_provider_order`. -/
def orderedAliases (providerOrder : Option (List String)) : List String :=
  match providerOrder with
  | none | some [] => gateway.settings.defaultProviderOrder
  | some (providerAlias :: aliases) => providerAlias :: aliases

/-- `generate`; `gateway.py:61-164`. -/
def generate (request : LlmRequest) (providerOrder : Option (List String)) :
    Attempt StoreCall GatewayError LlmResponse :=
  let aliases := gateway.orderedAliases providerOrder
  if aliases.isEmpty then Attempt.ofExcept (.error
    (.retryExhausted "No provider aliases configured for gateway request"))
  else do
    gateway.enforceHardQuotaLimits outcomes request aliases
    gateway.tryProviders outcomes 0 [] aliases

end LlmGateway

end OpenTrader.Llm
