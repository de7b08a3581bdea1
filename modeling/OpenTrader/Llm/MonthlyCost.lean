import Mathlib.Algebra.Order.Archimedean.Basic
import OpenTrader.Llm.Admission

/-!
# The monthly cost limit under fallback

Library `Llm`. `services/llm_gateway/gateway.py:61-135`, `:424-501` and `:533-542`. Calls one after
another under hard limits, with any failures of the providers and stores that do not fail. A call
is let in at the price of the cheapest enabled provider and charged at the price of the one that
answers, so the limit holds for certain only when no provider a call can end at is dearer than
another one in its order.
-/

namespace OpenTrader.Llm
open Base

/-! ### Calls in sequence -/

/-- A call of `generate`, with the payload or the failure of each attempt at a provider. -/
structure GenerateCall where
  request : LlmRequest
  providerOrder : Option (List String)
  replies : ℕ → ℕ → Except String RawPayload

namespace GenerateCall

variable (call : GenerateCall)

/-- What happens around the call over stores that do not fail. -/
def outcomes (limits : QuotaLimits) (tables : QuotaTables) : Outcomes where
  limits := .ok limits
  usage := .ok tables.usage
  attempt := fun place attemptIdx => { payload := call.replies place attemptIdx }

/-- Every reply uses at most the projected prompt and completion tokens. -/
def WithinProjection : Prop :=
  ∀ place attemptIdx payload usage, call.replies place attemptIdx = .ok payload →
    extractUsage payload = .ok usage →
      (0 ≤ usage.promptTokens ∧ usage.promptTokens ≤ call.request.projectedPromptTokens) ∧
      (0 ≤ usage.completionTokens ∧
        usage.completionTokens ≤ call.request.projectedCompletionTokens)

end GenerateCall

namespace LlmGateway

variable (gateway : LlmGateway)

/-- The tables after a call. -/
def generateNext (limits : QuotaLimits) (tables : QuotaTables) (call : GenerateCall) :
    QuotaTables :=
  tables.record (gateway.generate (call.outcomes limits tables) call.request
    call.providerOrder).made

/-- The recorded cost of a month stays within the limit, up to a unit of the rounding for each call,
in every sequence of calls with orders from a set. -/
def KeepsMonthlyLimit (orders : Set (Option (List String))) : Prop :=
  ∀ (limits : QuotaLimits) (limit : ℚ) (tables : QuotaTables) (calls : List GenerateCall),
    limits.isHardLimit = true → limits.monthlyCostLimit = some limit →
    tables.monthlyCost ≤ limit →
    (∀ call ∈ calls, call.providerOrder ∈ orders ∧ call.WithinProjection) →
      (run (gateway.generateNext limits) tables calls).monthlyCost ≤
        limit + calls.length * (1 / 10 ^ 8)

/-- No provider an order can end at is dearer than another enabled one in it. A price below zero
counts as zero for the provider that answers, which may use fewer tokens than projected; a provider
that charges nothing is never too dear. -/
def FallbackCovered (aliases : List String) : Prop :=
  gateway.Configured aliases → ∀ before providerAlias after provider,
    aliases = before ++ providerAlias :: after → gateway.HasTurn before providerAlias provider →
    0 ≤ provider.maxRetries →
      (provider.promptCostPer1kTokens ≤ 0 ∧ provider.completionCostPer1kTokens ≤ 0) ∨
      ∀ other ∈ aliases, ∀ settings, gateway.getProvider other = .ok settings →
        settings.enabled = true →
          max provider.promptCostPer1kTokens 0 ≤ settings.promptCostPer1kTokens ∧
          max provider.completionCostPer1kTokens 0 ≤ settings.completionCostPer1kTokens

end LlmGateway

/-! ### Prices -/

variable (usage : TokenUsage) (promptTokens completionTokens : ℤ) (tokens : ℕ) (price : ℚ)

/-- The cost before it is rounded. -/
def exactCost (provider : ProviderSettings) : ℚ :=
  promptTokens / 1000 * provider.promptCostPer1kTokens +
    completionTokens / 1000 * provider.completionCostPer1kTokens

private theorem abs_estimateCost_sub_le (provider : ProviderSettings) :
    |estimateCost promptTokens completionTokens provider -
      exactCost promptTokens completionTokens provider| ≤ 1 / 2 / 10 ^ 8 :=
  abs_roundTo_sub_le 8 _

section

variable {provider settings : ProviderSettings} {prompt completion : ℤ}

private theorem estimateCost_nonpos (hprompt : provider.promptCostPer1kTokens ≤ 0)
    (hcomp : provider.completionCostPer1kTokens ≤ 0) (hp : 0 ≤ prompt)
    (hc : 0 ≤ completion) : estimateCost prompt completion provider ≤ 0 := by
  have hp' : (0 : ℚ) ≤ prompt / 1000 := by positivity
  have hc' : (0 : ℚ) ≤ completion / 1000 := by positivity
  have hexact : exactCost prompt completion provider ≤ 0 :=
    add_nonpos (mul_nonpos_of_nonneg_of_nonpos hp' hprompt)
      (mul_nonpos_of_nonneg_of_nonpos hc' hcomp)
  exact (roundTo_mono 8 hexact).trans_eq (roundTo_zero 8)

private theorem estimateCost_le {projectedPrompt projectedCompletion : ℤ}
    (hprompt : max provider.promptCostPer1kTokens 0 ≤ settings.promptCostPer1kTokens)
    (hcomp : max provider.completionCostPer1kTokens 0 ≤ settings.completionCostPer1kTokens)
    (hp : 0 ≤ prompt ∧ prompt ≤ projectedPrompt)
    (hc : 0 ≤ completion ∧ completion ≤ projectedCompletion) :
    estimateCost prompt completion provider ≤
      estimateCost projectedPrompt projectedCompletion settings := by
  have hpart : ∀ {used projected : ℤ} {price price' : ℚ}, max price 0 ≤ price' →
      0 ≤ used ∧ used ≤ projected → (used / 1000 : ℚ) * price ≤ projected / 1000 * price' := by
    intro used projected price price' hprice hused
    have hle : (used / 1000 : ℚ) ≤ projected / 1000 :=
      div_le_div_of_nonneg_right (Int.cast_le.mpr hused.2) (by norm_num)
    have hnonneg : (0 : ℚ) ≤ used / 1000 := div_nonneg (Int.cast_nonneg hused.1) (by norm_num)
    calc (used / 1000 : ℚ) * price
        ≤ used / 1000 * price' :=
          mul_le_mul_of_nonneg_left ((le_max_left _ _).trans hprice) hnonneg
      _ ≤ projected / 1000 * price' :=
          mul_le_mul_of_nonneg_right hle ((le_max_right _ _).trans hprice)
  exact roundTo_mono 8 (add_le_add (hpart hprompt hp) (hpart hcomp hc))

end

namespace LlmGateway

variable (gateway : LlmGateway)

/-! ### Orders that are covered keep the limit -/

/-- The tables after a call are charged with its result once. -/
theorem generateNext_eq_charge (hstore : gateway.quotaStore = true) (limits : QuotaLimits)
    (tables : QuotaTables) (call : GenerateCall) :
    gateway.generateNext limits tables call = gateway.charge tables
      (gateway.generate (call.outcomes limits tables) call.request call.providerOrder).result :=
  gateway.chargedOnce_of_stores _ hstore (fun _ _ => rfl) _ _ _

private theorem generateNext_monthlyCost_le (hstore : gateway.quotaStore = true)
    {limits : QuotaLimits} {limit : ℚ} (hhard : limits.isHardLimit = true)
    (hlimit : limits.monthlyCostLimit = some limit) {tables : QuotaTables} {call : GenerateCall}
    (hcovered : gateway.FallbackCovered (gateway.orderedAliases call.providerOrder))
    (hwithin : call.WithinProjection) (htables : tables.monthlyCost ≤ limit) :
    (gateway.generateNext limits tables call).monthlyCost ≤ limit := by
  rw [gateway.generateNext_eq_charge hstore]
  cases hres : (gateway.generate (call.outcomes limits tables) call.request
      call.providerOrder).result with
  | error e => exact htables
  | ok response =>
    obtain ⟨hpass, x, hx, hresp⟩ := gateway.generate_eq_ok _ hres
    obtain ⟨before, after, provider, attemptIdx, payload, hsplit, hturn, hidx, hbody, husage,
      hcost, -⟩ := gateway.exists_of_mem_attemptsInTurn _ hx hresp
    obtain ⟨hprompt, hcomp⟩ := hwithin _ _ _ _ hbody husage
    obtain ⟨_, ⟨⟩, hpass⟩ := (gateway.enforceHardQuotaLimits_eq_ok_iff _ hstore _ _).mp hpass
    obtain ⟨_, ⟨⟩, hpass⟩ := hpass hhard
    obtain ⟨cost, hminimum, hfits⟩ := (gateway.quotaBlock_eq_none_iff.mp hpass).2 limit hlimit
    have hconfigured := gateway.exists_minimumProjectedCost_iff.mp ⟨cost, hminimum⟩
    have hmember : response.provider ∈ gateway.orderedAliases call.providerOrder := by
      rw [hsplit]
      exact List.mem_append_right before List.mem_cons_self
    show tables.monthlyCost + gateway.responseCost response ≤ limit
    rw [hcost]
    rcases hcovered hconfigured before response.provider after provider hsplit hturn
        (by omega) with hfree | hcheapest
    · have hnonpos := estimateCost_nonpos hfree.1 hfree.2 hprompt.1 hcomp.1
      linarith
    · obtain ⟨⟨other, hother, settings, hsettings, henabled, hleast⟩, -⟩ :=
        gateway.isLeast_minimumProjectedCost hminimum
          ⟨_, response.provider, hmember, provider, hturn.settings, hturn.enabled, rfl⟩
      obtain ⟨hp, hc⟩ := hcheapest other hother settings hsettings henabled
      have hle := estimateCost_le hp hc hprompt hcomp
      rw [← hleast] at hle
      exact (add_le_add_right hle _).trans hfits

/-- Without a quota store nothing is recorded. -/
theorem generateNext_of_not_quotaStore (hstore : ¬ gateway.quotaStore = true)
    (limits : QuotaLimits) (tables : QuotaTables) (call : GenerateCall) :
    gateway.generateNext limits tables call = tables :=
  tables.record_of_uncharged (gateway.uncharged_generate _ hstore _ _)

private theorem keepsMonthlyLimit_of_covered {orders : Set (Option (List String))}
    (h : gateway.quotaStore = true → ∀ order ∈ orders,
      gateway.FallbackCovered (gateway.orderedAliases order)) :
    gateway.KeepsMonthlyLimit orders := by
  intro limits limit tables calls hhard hlimit htables hcalls
  have hkeep : ∀ (tables : QuotaTables) (call : GenerateCall), tables.monthlyCost ≤ limit →
      (call.providerOrder ∈ orders ∧ call.WithinProjection) →
        (gateway.generateNext limits tables call).monthlyCost ≤ limit := by
    intro tables call htables hcall
    by_cases hstore : gateway.quotaStore = true
    · exact gateway.generateNext_monthlyCost_le hstore hhard hlimit
        (h hstore _ hcall.1) hcall.2 htables
    · rwa [gateway.generateNext_of_not_quotaStore hstore]
  have hlast := (throughout_of_along hkeep htables (along_input_iff.mpr hcalls)).last
  have hslack : (0 : ℚ) ≤ calls.length * (1 / 10 ^ 8) := by positivity
  linarith

end LlmGateway

/-! ### Orders that are not covered break it -/

private theorem exists_tokens_of_dearer {price price' other other' : ℚ} (bound : ℚ) (h : 0 ≤ price)
    (h' : 0 ≤ price') (hpos : 0 < price ∨ 0 < price') (hless : other < price ∨ other' < price') :
    ∃ prompt completion : ℕ, 1 ≤ prompt ∧ bound < prompt * price + completion * price' ∧
      prompt * other + completion * other' + bound < prompt * price + completion * price' := by
  obtain ⟨prompt, completion, hprompt, hbound⟩ : ∃ prompt completion : ℕ, 1 ≤ prompt ∧
      bound < prompt * price + completion * price' := by
    rcases hpos with hpos | hpos
    · obtain ⟨n, hn⟩ := exists_nat_gt (bound / price)
      refine ⟨n + 1, 0, by omega, ?_⟩
      rw [div_lt_iff₀ hpos] at hn
      push_cast
      linarith
    · obtain ⟨n, hn⟩ := exists_nat_gt (bound / price')
      refine ⟨1, n, le_rfl, ?_⟩
      rw [div_lt_iff₀ hpos] at hn
      push_cast
      linarith
  -- More tokens at the dearer price raise the difference, and lower neither of the two.
  let gap := prompt * other + completion * other' + bound - (prompt * price + completion * price')
  rcases hless with hless | hless
  · obtain ⟨n, hn⟩ := exists_nat_gt (gap / (price - other))
    rw [div_lt_iff₀ (sub_pos.mpr hless)] at hn
    have hmore : 0 ≤ (n : ℚ) * price := mul_nonneg (Nat.cast_nonneg n) h
    refine ⟨prompt + n, completion, by omega, ?_, ?_⟩
    · push_cast
      linarith
    · push_cast
      simp only [gap] at hn
      linarith
  · obtain ⟨n, hn⟩ := exists_nat_gt (gap / (price' - other'))
    rw [div_lt_iff₀ (sub_pos.mpr hless)] at hn
    have hmore : 0 ≤ (n : ℚ) * price' := mul_nonneg (Nat.cast_nonneg n) h'
    refine ⟨prompt, completion + n, hprompt, ?_, ?_⟩
    · push_cast
      linarith
    · push_cast
      simp only [gap] at hn
      linarith

/-- What a response may use of the tokens to cost the most: all at a price above zero, none at
another one. -/
def dearestTokens : ℤ := if 0 < price then tokens else 0

theorem dearestTokens_div_mul :
    (dearestTokens tokens price / 1000 : ℚ) * price = tokens * max price 0 / 1000 := by
  unfold dearestTokens
  split
  · next h =>
    rw [max_eq_left h.le]
    push_cast
    ring
  · next h =>
    rw [max_eq_right (not_lt.mp h)]
    simp

theorem dearestTokens_mem :
    0 ≤ dearestTokens tokens price ∧ dearestTokens tokens price ≤ tokens := by
  unfold dearestTokens
  split <;> omega

private theorem exists_overcharge {provider settings : ProviderSettings}
    (hcharges : ¬ (provider.promptCostPer1kTokens ≤ 0 ∧ provider.completionCostPer1kTokens ≤ 0))
    (hdearer : ¬ (max provider.promptCostPer1kTokens 0 ≤ settings.promptCostPer1kTokens ∧
      max provider.completionCostPer1kTokens 0 ≤ settings.completionCostPer1kTokens)) :
    ∃ prompt completion : ℕ, 1 ≤ prompt ∧
      max 0 (estimateCost prompt completion settings) + 1 / 10 ^ 8 <
        estimateCost (dearestTokens prompt provider.promptCostPer1kTokens)
          (dearestTokens completion provider.completionCostPer1kTokens) provider := by
  rw [not_and_or, not_le, not_le] at hcharges hdearer
  have hpos : 0 < max provider.promptCostPer1kTokens 0 ∨
      0 < max provider.completionCostPer1kTokens 0 :=
    hcharges.imp (fun h => lt_max_of_lt_left h) (fun h => lt_max_of_lt_left h)
  obtain ⟨prompt, completion, hprompt, hbound, hexceeds⟩ :=
    exists_tokens_of_dearer (3 / 10 ^ 5) (le_max_right _ _) (le_max_right _ _) hpos hdearer
  refine ⟨prompt, completion, hprompt, ?_⟩
  have hcharged := (abs_le.mp (abs_estimateCost_sub_le
    (dearestTokens prompt provider.promptCostPer1kTokens)
    (dearestTokens completion provider.completionCostPer1kTokens) provider)).1
  have hprojected := (abs_le.mp (abs_estimateCost_sub_le prompt completion settings)).2
  rw [exactCost, dearestTokens_div_mul, dearestTokens_div_mul] at hcharged
  rw [exactCost, Int.cast_natCast, Int.cast_natCast] at hprojected
  rw [← max_add_add_right, max_lt_iff]
  constructor <;> linarith

/-- A request that projects the given tokens. -/
def projectingRequest (prompt completion : ℕ) : LlmRequest where
  messages := [{ content := String.ofList (List.replicate (4 * prompt) 'a') }]
  maxTokens := completion

theorem projectedPromptTokens_projectingRequest {prompt : ℕ} (h : 1 ≤ prompt) (completion : ℕ) :
    (projectingRequest prompt completion).projectedPromptTokens = prompt := by
  simp only [projectingRequest, LlmRequest.projectedPromptTokens, estimatePromptTokens,
    List.map_cons, List.map_nil, List.sum_cons, List.sum_nil, String.length_empty,
    String.length_ofList, List.length_replicate]
  omega

theorem projectedCompletionTokens_projectingRequest (prompt completion : ℕ) :
    (projectingRequest prompt completion).projectedCompletionTokens = completion :=
  max_eq_left (Int.natCast_nonneg completion)

/-- A payload with the given usage. -/
def TokenUsage.payload : RawPayload where
  content := ""
  usage := some
    { promptTokens := .int usage.promptTokens, completionTokens := .int usage.completionTokens
      totalTokens := .int usage.totalTokens }

@[simp] theorem extractUsage_payload :
    extractUsage usage.payload = .ok usage := rfl

/-- A call that only the provider at one place of the order answers. -/
def answeredAt (place : ℕ) (request : LlmRequest) (providerOrder : Option (List String))
    (usage : TokenUsage) : GenerateCall where
  request := request
  providerOrder := providerOrder
  replies := fun place' _ => if place' = place then .ok usage.payload else .error "unavailable"

variable {request : LlmRequest} {providerOrder : Option (List String)}

private theorem replies_answeredAt_eq_ok_iff {place place' attemptIdx : ℕ} {usage : TokenUsage}
    {payload : RawPayload} :
    (answeredAt place request providerOrder usage).replies place' attemptIdx = .ok payload ↔
      place' = place ∧ payload = usage.payload := by
  dsimp only [answeredAt]
  by_cases hplace : place' = place
  · simp [hplace, eq_comm]
  · simp [hplace]

private theorem withinProjection_answeredAt {place : ℕ} {usage : TokenUsage}
    (hprompt : 0 ≤ usage.promptTokens ∧ usage.promptTokens ≤ request.projectedPromptTokens)
    (hcomp : 0 ≤ usage.completionTokens ∧
      usage.completionTokens ≤ request.projectedCompletionTokens) :
    (answeredAt place request providerOrder usage).WithinProjection := by
  intro place' attemptIdx payload usage' hreply husage
  obtain ⟨-, rfl⟩ := replies_answeredAt_eq_ok_iff.mp hreply
  cases husage
  exact ⟨hprompt, hcomp⟩

namespace LlmGateway

variable (gateway : LlmGateway)

private theorem generateNext_answeredAt (hstore : gateway.quotaStore = true)
    {limits : QuotaLimits} {tables : QuotaTables}
    {before after : List String} {providerAlias : String} {provider : ProviderSettings}
    (hsplit : gateway.orderedAliases providerOrder = before ++ providerAlias :: after)
    (hturn : gateway.HasTurn before providerAlias provider) (hretries : 0 ≤ provider.maxRetries)
    (hpass : gateway.quotaBlock request (gateway.orderedAliases providerOrder) limits
      tables.usage = .ok none)
    (usage : TokenUsage) :
    gateway.generateNext limits tables (answeredAt before.length request providerOrder usage) =
      tables.add usage.totalTokens
        (estimateCost usage.promptTokens usage.completionTokens provider) := by
  let call := answeredAt before.length request providerOrder usage
  have haliases : gateway.orderedAliases providerOrder ≠ [] := by
    rw [hsplit]
    simp
  have hgenerate := gateway.generate_of_enforce (call.outcomes limits tables) haliases
    ((gateway.enforceHardQuotaLimits_eq_ok_iff _ hstore _ _).mpr
      ⟨limits, rfl, fun _ => ⟨_, rfl, hpass⟩⟩)
  have htried := gateway.tryProviders_inTurn (call.outcomes limits tables) 0 []
    (gateway.orderedAliases providerOrder)
  rw [gateway.generateNext_eq_charge hstore]
  change gateway.charge tables
    (gateway.generate (call.outcomes limits tables) request providerOrder).result = _
  rw [hgenerate]
  generalize gateway.tryProviders (call.outcomes limits tables) 0 []
    (gateway.orderedAliases providerOrder) = tried at htried
  cases htried with
  | @returned x response hx hresp =>
    obtain ⟨before', after', provider', attemptIdx, payload, hsplit', hturn', -, hbody, husage,
      hcost, -⟩ := gateway.exists_of_mem_attemptsInTurn _ hx hresp
    -- Only the place of the provider has a payload, so the response is its own.
    have hreply : call.replies (0 + before'.length) attemptIdx = .ok payload := hbody
    obtain ⟨hplace, rfl⟩ := replies_answeredAt_eq_ok_iff.mp hreply
    rw [zero_add] at hplace
    obtain ⟨rfl, htail⟩ := List.append_inj (hsplit.symm.trans hsplit') hplace.symm
    cases htail
    have hprovider : provider' = provider :=
      Except.ok.inj (hturn'.settings.symm.trans hturn.settings)
    have husage' : response.usage = usage := (Except.ok.inj husage).symm
    dsimp only [charge]
    rw [hcost, hprovider, husage']
  | exhausted hfails hlast =>
    -- The first attempt at the provider does not fail.
    have hfailed := hfails _ (List.mem_map_of_mem ((gateway.mem_turns_iff _).mpr
      ⟨before, providerAlias, after, provider, hsplit, hturn, 0, by omega, rfl⟩))
    have hbody : call.replies (0 + before.length) 0 = .ok usage.payload :=
      replies_answeredAt_eq_ok_iff.mpr ⟨zero_add _, rfl⟩
    rw [runTurn, Attempt.fails_mapError, gateway.fails_attempt_of_payload rfl hbody
      (extractUsage_payload usage)] at hfailed
    cases hfailed

private theorem covered_of_keepsMonthlyLimit {orders : Set (Option (List String))}
    (h : gateway.KeepsMonthlyLimit orders) (hstore : gateway.quotaStore = true)
    {order : Option (List String)} (ho : order ∈ orders) :
    gateway.FallbackCovered (gateway.orderedAliases order) := by
  intro hconfigured before providerAlias after provider hsplit hturn hretries
  by_contra huncovered
  rw [not_or] at huncovered
  obtain ⟨hcharges, hdearer⟩ := huncovered
  push Not at hdearer
  obtain ⟨other, hother, settings, hsettings, henabled, hdearer⟩ := hdearer
  obtain ⟨prompt, completion, hprompt, hover⟩ :=
    exists_overcharge hcharges fun h => absurd (hdearer h.1) (not_lt.mpr h.2)
  let request := projectingRequest prompt completion
  let usage : TokenUsage :=
    { promptTokens := dearestTokens prompt provider.promptCostPer1kTokens
      completionTokens := dearestTokens completion provider.completionCostPer1kTokens
      totalTokens := 0 }
  let call := answeredAt before.length request order usage
  have hp : request.projectedPromptTokens = prompt :=
    projectedPromptTokens_projectingRequest hprompt completion
  have hc : request.projectedCompletionTokens = completion :=
    projectedCompletionTokens_projectingRequest prompt completion
  have hwithin : call.WithinProjection := by
    refine withinProjection_answeredAt ?_ ?_
    · rw [hp]
      exact dearestTokens_mem prompt _
    · rw [hc]
      exact dearestTokens_mem completion _
  -- The limit is the projected cost, and nothing has been recorded.
  obtain ⟨cost, hcost⟩ : ∃ cost, gateway.minimumProjectedCost request
      (gateway.orderedAliases order) = .ok cost :=
    gateway.exists_minimumProjectedCost_iff.mpr hconfigured
  have hmember : estimateCost prompt completion settings ∈
      gateway.enabledCosts request (gateway.orderedAliases order) :=
    ⟨other, hother, settings, hsettings, henabled, by rw [hp, hc]⟩
  have hleast := (gateway.isLeast_minimumProjectedCost hcost ⟨_, hmember⟩).2 hmember
  let limits : QuotaLimits := { dailyTokenLimit := none, monthlyCostLimit := some (max 0 cost) }
  let tables : QuotaTables := ⟨0, 0, 0, 0⟩
  have hpass : gateway.quotaBlock request (gateway.orderedAliases order) limits tables.usage =
      .ok none := by
    refine gateway.quotaBlock_eq_none_iff.mpr ⟨by simp [limits], ?_⟩
    rintro limit ⟨⟩
    exact ⟨cost, hcost, (zero_add cost).trans_le (le_max_right 0 cost)⟩
  have hkept := h limits (max 0 cost) tables [call] rfl rfl (le_max_left 0 cost)
    (List.forall_mem_singleton.mpr ⟨ho, hwithin⟩)
  rw [run_cons, run_nil, gateway.generateNext_answeredAt hstore hsplit hturn hretries hpass,
    List.length_singleton, Nat.cast_one, one_mul] at hkept
  have hcharged : tables.monthlyCost + estimateCost usage.promptTokens usage.completionTokens
      provider ≤ max 0 cost + 1 / 10 ^ 8 := hkept
  rw [zero_add] at hcharged
  exact absurd (hcharged.trans (add_le_add_left (max_le_max_left 0 hleast) _)) (not_le.mpr hover)

/-- The recorded cost of a month stays within the hard limit, for every limit, sequence of calls and
pattern of provider failures, exactly when in every order of the calls no provider that can answer
is dearer than another enabled one. -/
theorem monthly_limit_iff (orders : Set (Option (List String))) :
    gateway.KeepsMonthlyLimit orders ↔
      (gateway.quotaStore = true → ∀ order ∈ orders,
        gateway.FallbackCovered (gateway.orderedAliases order)) := by
  constructor
  · intro h hstore order horder
    exact gateway.covered_of_keepsMonthlyLimit h hstore horder
  · exact gateway.keepsMonthlyLimit_of_covered

end LlmGateway

/-- A cheap provider, and a dear one to fall back to. -/
def fallbackGateway : LlmGateway where
  settings :=
    { providers := (Dict.empty.set "cheap"
        { model := "small", maxRetries := 0, completionCostPer1kTokens := 1 / 10 }).set "dear"
          { model := "large", maxRetries := 0, completionCostPer1kTokens := 1 }
      defaultProviderOrder := ["cheap", "dear"] }
  providerClients := ["cheap", "dear"]

/-- A request that is let in at the cheap price under a limit of one half, and answered by the dear
provider with no more tokens than projected, records a cost of one. -/
theorem monthly_limit_exceeded_by_fallback :
    let limits : QuotaLimits := { dailyTokenLimit := none, monthlyCostLimit := some (1 / 2) }
    let tables : QuotaTables := ⟨0, 0, 0, 0⟩
    let call := answeredAt 1 { messages := [], maxTokens := 1000 } none ⟨0, 1000, 1000⟩
    call.WithinProjection ∧
      (fallbackGateway.generateNext limits tables call).monthlyCost = 1 ∧
      ¬ fallbackGateway.KeepsMonthlyLimit {none} := by
  intro limits tables call
  have hwithin : call.WithinProjection := withinProjection_answeredAt (by decide) (by decide)
  have hcost : (fallbackGateway.generateNext limits tables call).monthlyCost = 1 := by
    decide +kernel
  refine ⟨hwithin, hcost, fun h => ?_⟩
  have hkept := h limits (1 / 2) tables [call] rfl rfl (by decide +kernel)
    (List.forall_mem_singleton.mpr ⟨rfl, hwithin⟩)
  rw [run_cons, run_nil, hcost] at hkept
  norm_num at hkept

end OpenTrader.Llm
