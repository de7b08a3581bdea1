import OpenTrader.Llm.Charges

/-!
# What the hard limits let pass

Library `Llm`. `services/llm_gateway/gateway.py:341-452` and `:480-501`. A request passes when the
tokens it projects fit the daily limit and the cost it projects fits the monthly one. The cost is
that of the cheapest enabled provider in the order of the request. A request that passes is charged
once when the attempts that fail leave nothing in the tables.
-/

namespace OpenTrader.Llm
open Base

namespace LlmGateway

variable (gateway : LlmGateway)

/-! ### The projected cost -/

/-- The costs projected at the enabled providers of an order. -/
def enabledCosts (request : LlmRequest) (aliases : List String) : Set ℚ :=
  {cost | ∃ providerAlias ∈ aliases, ∃ provider, gateway.getProvider providerAlias = .ok provider ∧
    provider.enabled = true ∧ cost = estimateCost request.projectedPromptTokens
      request.projectedCompletionTokens provider}

/-- Every alias of an order has settings. -/
def Configured (aliases : List String) : Prop :=
  ∀ providerAlias ∈ aliases, ∃ provider, gateway.getProvider providerAlias = .ok provider

variable {aliases : List String}

private theorem exists_projectedCosts_iff {promptTokens completionTokens : ℤ} :
    (∃ costs, gateway.projectedCosts promptTokens completionTokens aliases = .ok costs) ↔
      gateway.Configured aliases := by
  induction aliases with
  | nil => simp [projectedCosts, Configured]
  | cons providerAlias aliases ih =>
    rw [projectedCosts, bind_isOk_iff, Configured, List.forall_mem_cons]
    simp only [bind_isOk_iff, pure_eq_ok_iff, exists_eq', and_true, ih]
    rw [exists_and_right]
    rfl

variable {request : LlmRequest}

private theorem mem_projectedCosts_iff {costs : List ℚ}
    (h : gateway.projectedCosts request.projectedPromptTokens request.projectedCompletionTokens
      aliases = .ok costs)
    (cost : ℚ) : cost ∈ costs ↔ cost ∈ gateway.enabledCosts request aliases := by
  induction aliases generalizing costs with
  | nil =>
    cases h
    simp [enabledCosts]
  | cons providerAlias aliases ih =>
    rw [projectedCosts] at h
    simp only [bind_eq_ok_iff, pure_eq_ok_iff] at h
    obtain ⟨provider, hprovider, rest, hrest, rfl⟩ := h
    have hcons : cost ∈ gateway.enabledCosts request (providerAlias :: aliases) ↔
        (provider.enabled = true ∧ cost = estimateCost request.projectedPromptTokens
          request.projectedCompletionTokens provider) ∨
          cost ∈ gateway.enabledCosts request aliases := by
      simp [enabledCosts, hprovider]
    rw [hcons, ← ih hrest]
    split
    · next henabled => simp [henabled]
    · next henabled => simp [henabled]

/-- A request has a projected cost exactly when every alias has settings. -/
theorem exists_minimumProjectedCost_iff :
    (∃ cost, gateway.minimumProjectedCost request aliases = .ok cost) ↔
      gateway.Configured aliases := by
  rw [minimumProjectedCost, bind_isOk_iff]
  simp only [pure_eq_ok_iff, exists_eq', and_true]
  exact gateway.exists_projectedCosts_iff

/-- The projected cost is the least of the enabled providers, when there is one. -/
theorem isLeast_minimumProjectedCost {cost : ℚ}
    (h : gateway.minimumProjectedCost request aliases = .ok cost)
    (henabled : (gateway.enabledCosts request aliases).Nonempty) :
    IsLeast (gateway.enabledCosts request aliases) cost := by
  rw [minimumProjectedCost] at h
  simp only [bind_eq_ok_iff, pure_eq_ok_iff] at h
  obtain ⟨costs, hcosts, rfl⟩ := h
  have hm := gateway.mem_projectedCosts_iff hcosts
  obtain ⟨some, hsome⟩ := henabled
  cases hmin : costs.min? with
  | none =>
    rw [List.min?_eq_none_iff.mp hmin] at hm
    cases (hm some).mpr hsome
  | some least =>
    obtain ⟨hleast, hle⟩ := List.min?_eq_some_iff.mp hmin
    exact ⟨(hm least).mp hleast, fun other hother => hle other ((hm other).mpr hother)⟩

/-! ### The two checks -/

variable {limits : QuotaLimits} {usage : QuotaUsage}

private theorem monthlyBlock_eq_none_iff :
    gateway.monthlyBlock request aliases limits usage = .ok none ↔
      ∀ limit, limits.monthlyCostLimit = some limit →
        ∃ cost, gateway.minimumProjectedCost request aliases = .ok cost ∧
          usage.monthlyCost + cost ≤ limit := by
  unfold monthlyBlock
  cases limits.monthlyCostLimit with
  | none => simp
  | some limit =>
    simp only [bind_eq_ok_iff, pure_eq_ok_iff, ite_eq_right_iff, reduceCtorEq, imp_false, not_lt,
      Option.some.injEq, forall_eq']

/-- The two checks let a request pass whose projected tokens and cost fit the limits. -/
theorem quotaBlock_eq_none_iff :
    gateway.quotaBlock request aliases limits usage = .ok none ↔
      (∀ limit, limits.dailyTokenLimit = some limit →
        usage.dailyTokens + request.projectedTotalTokens ≤ limit) ∧
      (∀ limit, limits.monthlyCostLimit = some limit →
        ∃ cost, gateway.minimumProjectedCost request aliases = .ok cost ∧
          usage.monthlyCost + cost ≤ limit) := by
  rw [← gateway.monthlyBlock_eq_none_iff]
  unfold quotaBlock
  cases limits.dailyTokenLimit with
  | none => simp
  | some limit =>
    simp only [Option.some.injEq, forall_eq']
    split
    · next hover =>
      simp only [bind_eq_ok_iff, pure_eq_ok_iff, reduceCtorEq, and_false, exists_false]
      exact iff_of_false id fun h => absurd h.1 (not_le.mpr hover)
    · next hfits => exact ⟨fun h => ⟨not_lt.mp hfits, h⟩, fun h => h.2⟩

variable (outcomes : Outcomes)

/-- The limits are read, and when they are hard ones so is the usage, and the request fits them. -/
def Admits (request : LlmRequest) (aliases : List String) : Prop :=
  ∃ limits, outcomes.limits = .ok limits ∧ (limits.isHardLimit = true →
    ∃ usage, outcomes.usage = .ok usage ∧
      (∀ limit, limits.dailyTokenLimit = some limit →
        usage.dailyTokens + request.projectedTotalTokens ≤ limit) ∧
      (∀ limit, limits.monthlyCostLimit = some limit →
        ∃ cost, gateway.minimumProjectedCost request aliases = .ok cost ∧
          usage.monthlyCost + cost ≤ limit))

private theorem passes_iff_admits :
    gateway.Passes outcomes request aliases ↔ gateway.Admits outcomes request aliases := by
  simp only [Passes, Admits, gateway.quotaBlock_eq_none_iff]

variable {providerOrder : Option (List String)}

/-- Over stores that do not fail, a call that is blocked raises the error of its block. -/
theorem result_generate_of_block (hstore : gateway.quotaStore = true)
    (hlimits : outcomes.limits = .ok limits) (hhard : limits.isHardLimit = true)
    (husage : outcomes.usage = .ok usage) (hstores : outcomes.stores = {})
    (haliases : gateway.orderedAliases providerOrder ≠ []) (error : GatewayError)
    (hblock :
      gateway.quotaBlock request (gateway.orderedAliases providerOrder) limits usage =
          .error error ∨
        gateway.quotaBlock request (gateway.orderedAliases providerOrder) limits usage =
          .ok (some error)) :
    (gateway.generate outcomes request providerOrder).result = .error error := by
  have hres : (gateway.enforceHardQuotaLimits outcomes request
      (gateway.orderedAliases providerOrder)).result = .error error := by
    rw [enforceHardQuotaLimits, if_pos hstore, hlimits, Except.mapError, Attempt.ofExcept_ok_bind,
      if_pos hhard, husage, Except.mapError, Attempt.ofExcept_ok_bind]
    rcases hblock with hblock | hblock
    · rw [hblock, Attempt.ofExcept_error_bind]
      rfl
    · rw [hblock, Attempt.ofExcept_ok_bind, hstores]
      exact Attempt.result_callAll_bind _ _ _ _ fun _ _ => rfl
  rcases gateway.enforceHardQuotaLimits_cases outcomes request
    (gateway.orderedAliases providerOrder) with ⟨-, hpass⟩ | ⟨-, made, e, -, hraised⟩
  · rw [hpass] at hres
    cases hres
  · rw [hraised] at hres
    cases hres
    rw [gateway.generate_of_enforce_error outcomes haliases hraised]

/-- A call that returns has passed the hard limits and got its response from an attempt. -/
theorem generate_eq_ok {response : LlmResponse}
    (h : (gateway.generate outcomes request providerOrder).result = .ok response) :
    gateway.enforceHardQuotaLimits outcomes request (gateway.orderedAliases providerOrder) =
        ⟨[], .ok ()⟩ ∧
      ∃ x ∈ gateway.attemptsInTurn outcomes 0 (gateway.orderedAliases providerOrder),
        x.result = .ok response := by
  have haliases : gateway.orderedAliases providerOrder ≠ [] := by
    intro haliases
    rw [gateway.generate_of_nil outcomes request haliases] at h
    cases h
  rcases gateway.enforceHardQuotaLimits_cases outcomes request
    (gateway.orderedAliases providerOrder) with ⟨-, hpass⟩ | ⟨-, made, e, -, hblock⟩
  · refine ⟨hpass, ?_⟩
    rw [gateway.generate_of_enforce outcomes haliases hpass] at h
    have htried := gateway.tryProviders_inTurn outcomes 0 [] (gateway.orderedAliases providerOrder)
    generalize gateway.tryProviders outcomes 0 [] (gateway.orderedAliases providerOrder) = call
      at h htried
    cases htried with
    | @returned x _ hx hresp =>
      cases h
      exact ⟨x, hx, hresp⟩
    | exhausted hfails hlast => cases h
  · rw [gateway.generate_of_enforce_error outcomes haliases hblock] at h
    cases h

/-! ### The charge of a call -/

end LlmGateway

/-- One provider with one retry. -/
def retryingGateway : LlmGateway where
  settings :=
    { providers := Dict.empty.set "openai"
        { model := "gpt", maxRetries := 1, promptCostPer1kTokens := 1,
          completionCostPer1kTokens := 2 }
      defaultProviderOrder := ["openai"] }
  providerClients := ["openai"]

/-- The provider answers both attempts, and the record of the first one raises. -/
def failedRecord : Outcomes where
  limits := .ok { dailyTokenLimit := none, monthlyCostLimit := none, isHardLimit := false }
  usage := .ok { dailyTokens := 0, monthlyCost := 0 }
  attempt := fun _ attemptIdx =>
    { payload := .ok
        { content := "hold"
          usage := some
            { promptTokens := .int 100, completionTokens := .int 50, totalTokens := .int 150 } }
      stores := { raises := fun call => attemptIdx = 0 ∧ call = .persistCall .succeeded } }

end OpenTrader.Llm
