import OpenTrader.Llm.Gateway

/-!
# What a call is charged

Library `Llm`. `services/llm_gateway/gateway.py:61-164`. The usage of a response is written inside
the attempt that got it, before the call is recorded and counted. The attempt that returns writes
exactly its own usage; an attempt that fails after the first of its writes leaves them in the
tables, and the next attempt writes its usage as well. What it leaves is told by its payload and by
the upserts that raise in it.
-/

namespace OpenTrader.Llm
open Base

/-! ### Calls that write nothing -/

/-- The call is one of the two upserts. -/
def StoreCall.isUpsert : StoreCall → Bool
  | .addDaily _ _ | .addMonthly _ _ => true
  | .readDaily | .readMonthly | .persistCall _ | .recordLlmCall _ => false

/-- No call is an upsert. -/
def Uncharged (calls : List StoreCall) : Prop := ∀ call ∈ calls, call.isUpsert = false

namespace QuotaTables

variable (tables : QuotaTables)

private theorem record_append (before after : List StoreCall) :
    tables.record (before ++ after) = (tables.record before).record after :=
  run_append tables before after

/-- Calls without an upsert leave the tables alone. -/
theorem record_of_uncharged {calls : List StoreCall} (h : Uncharged calls) :
    tables.record calls = tables := by
  induction calls with
  | nil => rfl
  | cons call calls ih =>
    have hwrite : tables.write call = tables := by
      have hcall := h call List.mem_cons_self
      cases call <;> first | rfl | cases hcall
    rw [record, run_cons, hwrite]
    exact ih fun other hother => h other (List.mem_cons_of_mem call hother)

private theorem add_inj {tables tables' : QuotaTables} {tokens : ℤ} {cost : ℚ} :
    tables.add tokens cost = tables'.add tokens cost ↔ tables = tables' := by
  cases tables
  cases tables'
  simp [add]

/-- The tables with tokens and cost added to each of the two rows. -/
def addRows (daily monthly : ℤ × ℚ) : QuotaTables where
  dailyTokens := tables.dailyTokens + daily.1
  dailyCost := tables.dailyCost + daily.2
  monthlyTokens := tables.monthlyTokens + monthly.1
  monthlyCost := tables.monthlyCost + monthly.2

private theorem addRows_zero : tables.addRows 0 0 = tables := by
  simp [addRows]

private theorem addRows_addRows (daily monthly daily' monthly' : ℤ × ℚ) :
    (tables.addRows daily monthly).addRows daily' monthly' =
      tables.addRows (daily + daily') (monthly + monthly') := by
  simp [addRows, add_assoc]

private theorem addRows_eq_self_iff {daily monthly : ℤ × ℚ} :
    tables.addRows daily monthly = tables ↔ daily = 0 ∧ monthly = 0 := by
  cases tables
  simp [addRows, Prod.ext_iff, and_assoc]

end QuotaTables

namespace LlmGateway

variable (gateway : LlmGateway) (outcomes : Outcomes)

private theorem uncharged_recordCalls (status : CallStatus) :
    Uncharged (gateway.persistRecord status ++ gateway.recordLlmMetrics status) := by
  unfold persistRecord recordLlmMetrics
  split <;> split <;> simp [Uncharged, StoreCall.isUpsert]

private theorem uncharged_callAll {ε : Type} (stores : StoreFailures) (error : StoreCall → ε)
    (status : CallStatus) :
    Uncharged (Attempt.callAll stores.raises error
      (gateway.persistRecord status ++ gateway.recordLlmMetrics status)).made :=
  fun call hcall => gateway.uncharged_recordCalls status call (List.takeWhile_subset _ hcall)

/-- A program that makes such calls and raises writes nothing. -/
theorem uncharged_callAll_bind (α : Type) (stores : StoreFailures) (status : CallStatus)
    (error : GatewayError) :
    ∃ made e, Uncharged made ∧
      (Attempt.callAll stores.raises (fun call => .raised (stores.error call))
        (gateway.persistRecord status ++ gateway.recordLlmMetrics status) >>= fun _ =>
          (Attempt.ofExcept (.error error) : Attempt StoreCall GatewayError α)) =
        ⟨made, .error e⟩ := by
  have hcalls := gateway.uncharged_callAll stores
    (fun call => GatewayError.raised (stores.error call)) status
  generalize Attempt.callAll stores.raises (fun call => GatewayError.raised (stores.error call))
    (gateway.persistRecord status ++ gateway.recordLlmMetrics status) = x at hcalls
  obtain ⟨made, result⟩ := x
  cases result with
  | ok _ => exact ⟨made ++ [], error, by rwa [List.append_nil], rfl⟩
  | error e => exact ⟨made, e, hcalls, rfl⟩

/-- The limits are read, and when they are hard ones so is the usage, and the checks let the request
pass. -/
def Passes (request : LlmRequest) (aliases : List String) : Prop :=
  ∃ limits, outcomes.limits = .ok limits ∧ (limits.isHardLimit = true →
    ∃ usage, outcomes.usage = .ok usage ∧
      gateway.quotaBlock request aliases limits usage = .ok none)

/-- The check of the hard limits makes no call and lets the request pass, or raises without an
upsert. -/
theorem enforceHardQuotaLimits_cases (request : LlmRequest) (aliases : List String) :
    ((gateway.quotaStore = true → gateway.Passes outcomes request aliases) ∧
        gateway.enforceHardQuotaLimits outcomes request aliases = ⟨[], .ok ()⟩) ∨
      ¬ gateway.Passes outcomes request aliases ∧ ∃ made e, Uncharged made ∧
        gateway.enforceHardQuotaLimits outcomes request aliases = ⟨made, .error e⟩ := by
  unfold enforceHardQuotaLimits Passes
  by_cases hstore : gateway.quotaStore = true
  · rw [if_pos hstore]
    cases hlimits : outcomes.limits with
    | error reason => exact .inr ⟨by simp, [], .raised reason, by simp [Uncharged], rfl⟩
    | ok limits =>
      rw [Except.mapError, Attempt.ofExcept_ok_bind]
      by_cases hhard : limits.isHardLimit = true
      · rw [if_pos hhard]
        cases husage : outcomes.usage with
        | error reason =>
          exact .inr ⟨by simp [hhard], [], .raised reason, by simp [Uncharged], rfl⟩
        | ok usage =>
          rw [Except.mapError, Attempt.ofExcept_ok_bind]
          cases hblock : gateway.quotaBlock request aliases limits usage with
          | error e => exact .inr ⟨by simp [hhard, hblock], [], e, by simp [Uncharged], rfl⟩
          | ok block =>
            rw [Attempt.ofExcept_ok_bind]
            cases block with
            | none => exact .inl ⟨by simp [hblock], rfl⟩
            | some error =>
              exact .inr ⟨by simp [hhard, hblock], gateway.uncharged_callAll_bind Unit _ _ _⟩
      · rw [if_neg hhard]
        exact .inl ⟨by simp [hhard], rfl⟩
  · rw [if_neg hstore]
    exact .inl ⟨fun h => absurd h hstore, rfl⟩

/-- With a quota store, a request is let through exactly when it passes. -/
theorem enforceHardQuotaLimits_eq_ok_iff (hstore : gateway.quotaStore = true)
    (request : LlmRequest) (aliases : List String) :
    gateway.enforceHardQuotaLimits outcomes request aliases = ⟨[], .ok ()⟩ ↔
      gateway.Passes outcomes request aliases := by
  rcases gateway.enforceHardQuotaLimits_cases outcomes request aliases with
    ⟨hpass, heq⟩ | ⟨hnot, made, e, -, heq⟩
  · exact iff_of_true heq (hpass hstore)
  · exact iff_of_false (by simp [heq]) hnot

/-! ### The attempts -/

section

variable {providerAlias : String} {provider : ProviderSettings} {attemptIdx : ℕ}
  {outcome : ProviderOutcome}

private theorem attempt_cases (providerAlias : String) (provider : ProviderSettings)
    (attemptIdx : ℕ) (outcome : ProviderOutcome) :
    (outcome.payload.bind extractUsage).toOption = none ∧
        (∃ reason, gateway.attempt providerAlias provider attemptIdx outcome =
          .ofExcept (.error reason)) ∨
      ∃ payload usage, outcome.payload = .ok payload ∧ extractUsage payload = .ok usage := by
  cases hbody : outcome.payload with
  | error reason =>
    refine .inl ⟨rfl, reason, ?_⟩
    rw [attempt, hbody, Attempt.ofExcept_error_bind]
  | ok payload =>
    cases husage : extractUsage payload with
    | error reason =>
      refine .inl ⟨by rw [Except.bind, husage]; rfl, reason, ?_⟩
      rw [attempt, hbody, Attempt.ofExcept_ok_bind, husage, Attempt.ofExcept_error_bind]
    | ok usage => exact .inr ⟨payload, usage, rfl, husage⟩

private theorem attempt_of_payload {payload : RawPayload} {usage : TokenUsage}
    (hbody : outcome.payload = .ok payload) (husage : extractUsage payload = .ok usage) :
    let calls := Attempt.callAll outcome.stores.raises outcome.stores.error (gateway.bookkeeping
      usage (estimateCost usage.promptTokens usage.completionTokens provider))
    gateway.attempt providerAlias provider attemptIdx outcome =
      ⟨calls.made, calls.result.map fun _ =>
        { provider := providerAlias, model := provider.model, content := payload.content, usage,
          attemptCount := attemptIdx + 1 }⟩ := by
  rw [attempt, hbody, Attempt.ofExcept_ok_bind, husage, Attempt.ofExcept_ok_bind]
  exact Attempt.callAll_bind_pure _ _ _ _

private theorem attempt_eq_ok {response : LlmResponse}
    (h : (gateway.attempt providerAlias provider attemptIdx outcome).result = .ok response) :
    response.provider = providerAlias ∧
      (∃ payload, outcome.payload = .ok payload ∧ extractUsage payload = .ok response.usage) ∧
      (gateway.attempt providerAlias provider attemptIdx outcome).made =
        gateway.bookkeeping response.usage (estimateCost response.usage.promptTokens
          response.usage.completionTokens provider) := by
  rcases gateway.attempt_cases providerAlias provider attemptIdx outcome with
    ⟨-, reason, heq⟩ | ⟨payload, usage, hbody, husage⟩
  · rw [heq] at h
    cases h
  · rw [gateway.attempt_of_payload hbody husage] at h ⊢
    cases hcalls : (Attempt.callAll outcome.stores.raises outcome.stores.error
        (gateway.bookkeeping usage
          (estimateCost usage.promptTokens usage.completionTokens provider))).result with
    | error e =>
      rw [hcalls] at h
      cases h
    | ok done =>
      rw [hcalls] at h
      cases h
      have hall := Attempt.forall_of_callAll_eq_ok _ _ _ hcalls
      refine ⟨rfl, ⟨payload, hbody, husage⟩, ?_⟩
      rw [Attempt.callAll_of_forall _ _ _ hall]

private theorem uncharged_attempt (hstore : ¬ gateway.quotaStore = true) :
    Uncharged (gateway.attempt providerAlias provider attemptIdx outcome).made := by
  rcases gateway.attempt_cases providerAlias provider attemptIdx outcome with
    ⟨-, reason, heq⟩ | ⟨payload, usage, hbody, husage⟩
  · rw [heq]
    simp [Uncharged, Attempt.ofExcept]
  · rw [gateway.attempt_of_payload hbody husage]
    intro call hcall
    have hm := List.takeWhile_subset _ hcall
    rw [bookkeeping, incrementQuotaUsage, if_neg hstore, List.nil_append] at hm
    exact gateway.uncharged_recordCalls .succeeded call hm

end

end LlmGateway

/-- An attempt that has its turn: its provider, its number and what happens in it. -/
structure Turn where
  providerAlias : String
  provider : ProviderSettings
  attemptIdx : ℕ
  outcome : ProviderOutcome

namespace Turn

variable (turn : Turn)

/-- The usage the attempt reads, when the provider answers. -/
def usage : Option TokenUsage := (turn.outcome.payload.bind extractUsage).toOption

/-- The cost of a usage at the provider of the attempt. -/
def cost (usage : TokenUsage) : ℚ :=
  estimateCost usage.promptTokens usage.completionTokens turn.provider

/-- The attempt returns: the provider answers, and no call of the bookkeeping raises. -/
def settles (gateway : LlmGateway) : Bool :=
  turn.usage.any fun usage =>
    !(gateway.bookkeeping usage (turn.cost usage)).any turn.outcome.stores.raises

/-- What the attempt adds to the row of the day: its usage, unless that upsert raises. -/
def daily : ℤ × ℚ :=
  match turn.usage with
  | none => 0
  | some usage =>
    if turn.outcome.stores.raises (.addDaily usage.totalTokens (turn.cost usage)) then 0
    else (usage.totalTokens, turn.cost usage)

/-- What the attempt adds to the row of the month: its usage, unless one of the upserts raises. -/
def monthly : ℤ × ℚ :=
  match turn.usage with
  | none => 0
  | some usage =>
    if turn.outcome.stores.raises (.addMonthly usage.totalTokens (turn.cost usage)) then 0
    else turn.daily

end Turn

namespace LlmGateway

variable (gateway : LlmGateway) (outcomes : Outcomes)

/-- The attempts of a call in order, as many as are made when all of them fail. -/
def turns (place : ℕ) : List String → List Turn
  | [] => []
  | providerAlias :: aliases =>
    match gateway.getProvider providerAlias with
    | .error _ => []
    | .ok provider =>
      if provider.enabled then
        if providerAlias ∈ gateway.providerClients then
          (List.range (provider.maxRetries + 1).toNat).map (fun attemptIdx =>
            ⟨providerAlias, provider, attemptIdx, outcomes.attempt place attemptIdx⟩) ++
            turns (place + 1) aliases
        else []
      else turns (place + 1) aliases

/-- The attempt of a turn, with the summary of its failure. -/
def runTurn (turn : Turn) : Attempt StoreCall String LlmResponse :=
  (gateway.attempt turn.providerAlias turn.provider turn.attemptIdx turn.outcome).mapError
    fun reason => s!"{turn.providerAlias}:attempt{turn.attemptIdx + 1}:{reason}"

/-- The attempts of a call, each made when the ones before it have failed. -/
def attemptsInTurn (place : ℕ) (aliases : List String) :
    List (Attempt StoreCall String LlmResponse) :=
  (gateway.turns outcomes place aliases).map gateway.runTurn

private theorem attemptsInTurn_cons (place : ℕ) (providerAlias : String) (aliases : List String) :
    gateway.attemptsInTurn outcomes place (providerAlias :: aliases) =
      match gateway.getProvider providerAlias with
      | .error _ => []
      | .ok provider =>
        if provider.enabled then
          if providerAlias ∈ gateway.providerClients then
            gateway.attempts providerAlias provider (outcomes.attempt place) ++
              gateway.attemptsInTurn outcomes (place + 1) aliases
          else []
        else gateway.attemptsInTurn outcomes (place + 1) aliases := by
  rw [attemptsInTurn, turns]
  cases gateway.getProvider providerAlias with
  | error e => rfl
  | ok provider =>
    dsimp only
    split
    · split
      · rw [List.map_append, List.map_map]
        rfl
      · rfl
    · rfl

/-- The provider has its turn when no alias before it stops the call: they all have settings, and
the enabled ones a client. -/
structure HasTurn (before : List String) (providerAlias : String) (provider : ProviderSettings) :
    Prop where
  passed : ∀ other ∈ before, ∃ settings, gateway.getProvider other = .ok settings ∧
    (settings.enabled = true → other ∈ gateway.providerClients)
  settings : gateway.getProvider providerAlias = .ok provider
  enabled : provider.enabled = true
  client : providerAlias ∈ gateway.providerClients

variable {aliases : List String} {x : Attempt StoreCall String LlmResponse} {turn : Turn}

variable {place : ℕ}

private theorem mem_turns_cons {first : String} :
    turn ∈ gateway.turns outcomes place (first :: aliases) ↔
      ∃ settings, gateway.getProvider first = .ok settings ∧
        (settings.enabled = true → first ∈ gateway.providerClients) ∧
        (settings.enabled = true ∧ (∃ attemptIdx < (settings.maxRetries + 1).toNat,
            ⟨first, settings, attemptIdx, outcomes.attempt place attemptIdx⟩ = turn) ∨
          turn ∈ gateway.turns outcomes (place + 1) aliases) := by
  rw [turns]
  cases gateway.getProvider first with
  | error e => simp
  | ok settings =>
    by_cases henabled : settings.enabled = true <;>
      by_cases hclient : first ∈ gateway.providerClients <;> simp [henabled, hclient]

/-- The attempts in turn are those of the providers that have their turn. -/
theorem mem_turns_iff :
    turn ∈ gateway.turns outcomes place aliases ↔
      ∃ before providerAlias after provider, aliases = before ++ providerAlias :: after ∧
        gateway.HasTurn before providerAlias provider ∧
        ∃ attemptIdx < (provider.maxRetries + 1).toNat, ⟨providerAlias, provider, attemptIdx,
          outcomes.attempt (place + before.length) attemptIdx⟩ = turn := by
  induction aliases generalizing place with
  | nil => simp [turns]
  | cons first aliases ih =>
    rw [mem_turns_cons]
    constructor
    · rintro ⟨settings, hsettings, hpass, ⟨henabled, hx⟩ | hx⟩
      · exact ⟨[], first, aliases, settings, rfl,
          ⟨by simp, hsettings, henabled, hpass henabled⟩, hx⟩
      · obtain ⟨before, providerAlias, after, provider, rfl, hturn, hx⟩ := ih.mp hx
        refine ⟨first :: before, providerAlias, after, provider, rfl, ⟨?_, hturn.2, hturn.3,
          hturn.4⟩, ?_⟩
        · exact List.forall_mem_cons.mpr ⟨⟨settings, hsettings, hpass⟩, hturn.passed⟩
        · rwa [List.length_cons, add_comm before.length 1, ← add_assoc]
    · rintro ⟨before, providerAlias, after, provider, hsplit, hturn, hx⟩
      cases before with
      | nil =>
        cases hsplit
        exact ⟨provider, hturn.settings, fun _ => hturn.client, .inl ⟨hturn.enabled, hx⟩⟩
      | cons other before =>
        cases hsplit
        obtain ⟨⟨settings, hsettings, hpass⟩, hpassed⟩ := List.forall_mem_cons.mp hturn.passed
        refine ⟨settings, hsettings, hpass, .inr (ih.mpr ⟨before, providerAlias, after, provider,
          rfl, ⟨hpassed, hturn.2, hturn.3, hturn.4⟩, ?_⟩)⟩
        rwa [List.length_cons, add_comm before.length 1, ← add_assoc] at hx

/-- The loop over the providers makes the attempts in turn and writes nothing after them. -/
theorem tryProviders_inTurn (place : ℕ) (errorSummaries aliases : List String) :
    Attempt.TriesInTurn (gateway.attemptsInTurn outcomes place aliases) Uncharged
      (gateway.tryProviders outcomes place errorSummaries aliases) := by
  induction aliases generalizing place errorSummaries with
  | nil =>
    rw [tryProviders, exhaust]
    obtain ⟨made, e, hmade, heq⟩ :=
      gateway.uncharged_callAll_bind LlmResponse outcomes.stores .failed _
    rw [heq]
    exact .exhausted (by simp [attemptsInTurn, turns]) hmade
  | cons providerAlias aliases ih =>
    rw [tryProviders, attemptsInTurn_cons]
    cases gateway.getProvider providerAlias with
    | error e => exact .exhausted (by simp) (by simp [Uncharged])
    | ok provider =>
      by_cases henabled : provider.enabled = true
      · by_cases hclient : providerAlias ∈ gateway.providerClients
        · simp only [henabled, hclient, if_true]
          exact (Attempt.TriesInTurn.firstOk _).recover fun _ => ih _ _
        · simp only [henabled, hclient, if_true, if_false]
          exact .exhausted (by simp) (by simp [Uncharged])
      · simp only [henabled]
        exact ih _ _

/-! ### The charge of a call -/

/-- The cost of a response at the prices of the provider that gave it. -/
def responseCost (response : LlmResponse) : ℚ :=
  match gateway.settings.providers.get? response.provider with
  | none => 0
  | some provider =>
    estimateCost response.usage.promptTokens response.usage.completionTokens provider

/-- The tables with a call charged once: the usage of its response is added to both, and nothing
when it raises. -/
def charge (tables : QuotaTables) (result : Except GatewayError LlmResponse) : QuotaTables :=
  match result with
  | .ok response => tables.add response.usage.totalTokens (gateway.responseCost response)
  | .error _ => tables

/-- A call has left the tables charged once. -/
def ChargedOnce (tables : QuotaTables) (call : Attempt StoreCall GatewayError LlmResponse) : Prop :=
  tables.record call.made = gateway.charge tables call.result

/-- Whether a call is charged once can be evaluated. -/
instance decidableChargedOnce (tables : QuotaTables)
    (call : Attempt StoreCall GatewayError LlmResponse) :
    Decidable (gateway.ChargedOnce tables call) :=
  inferInstanceAs (Decidable (_ = _))

/-- The attempts that are made and fail: those before the first one that returns. -/
def failedTurns (aliases : List String) : List Turn :=
  (gateway.turns outcomes 0 aliases).takeWhile (!·.settles gateway)

private theorem runTurn_cases (turn : Turn) :
    turn.usage = none ∧ (gateway.runTurn turn).made = [] ∧ (gateway.runTurn turn).fails = true ∨
      ∃ usage, turn.usage = some usage ∧
        (gateway.runTurn turn).made = (gateway.bookkeeping usage (turn.cost usage)).takeWhile
          (!turn.outcome.stores.raises ·) ∧
        (gateway.runTurn turn).fails = (gateway.bookkeeping usage (turn.cost usage)).any
          turn.outcome.stores.raises := by
  rw [runTurn, Attempt.fails_mapError]
  rcases gateway.attempt_cases turn.providerAlias turn.provider turn.attemptIdx turn.outcome with
    ⟨hnone, reason, heq⟩ | ⟨payload, usage, hbody, husage⟩
  · rw [heq]
    exact .inl ⟨hnone, rfl, rfl⟩
  · refine .inr ⟨usage, ?_, ?_⟩
    · rw [Turn.usage, hbody, Except.bind, husage]
      rfl
    · rw [gateway.attempt_of_payload hbody husage]
      refine ⟨rfl, ?_⟩
      rw [Turn.cost, ← Attempt.fails_callAll _ turn.outcome.stores.error, Attempt.fails,
        Attempt.fails]
      cases (Attempt.callAll _ _ _).result <;> rfl

private theorem fails_runTurn (turn : Turn) :
    (gateway.runTurn turn).fails = !turn.settles gateway := by
  rcases gateway.runTurn_cases turn with ⟨hnone, -, hfails⟩ | ⟨usage, hsome, -, hfails⟩
  · rw [hfails, Turn.settles, hnone]
    rfl
  · rw [hfails, Turn.settles, hsome, Option.any_some, Bool.not_not]

private theorem record_runTurn (hstore : gateway.quotaStore = true) (tables : QuotaTables)
    (turn : Turn) :
    tables.record (gateway.runTurn turn).made = tables.addRows turn.daily turn.monthly := by
  rcases gateway.runTurn_cases turn with ⟨hnone, hmade, -⟩ | ⟨usage, hsome, hmade, -⟩
  · rw [hmade, Turn.monthly, Turn.daily, hnone]
    exact tables.addRows_zero.symm
  · have hrest : Uncharged (.readDaily :: .readMonthly :: (gateway.persistRecord .succeeded ++
        gateway.recordLlmMetrics .succeeded)) :=
      List.forall_mem_cons.mpr ⟨rfl, List.forall_mem_cons.mpr
        ⟨rfl, gateway.uncharged_recordCalls .succeeded⟩⟩
    have hread (tables : QuotaTables) := tables.record_of_uncharged fun call hcall =>
      hrest call (List.takeWhile_subset (!turn.outcome.stores.raises ·) hcall)
    rw [hmade, bookkeeping, incrementQuotaUsage, if_pos hstore, Turn.monthly, Turn.daily, hsome]
    -- The two upserts come first, so what raises after them changes nothing.
    by_cases hdaily : turn.outcome.stores.raises
        (.addDaily usage.totalTokens (turn.cost usage)) = true
    · simp [hdaily, QuotaTables.addRows_zero, QuotaTables.record]
    · by_cases hmonthly : turn.outcome.stores.raises
          (.addMonthly usage.totalTokens (turn.cost usage)) = true
      · simp [hdaily, hmonthly, QuotaTables.record, QuotaTables.addRows, QuotaTables.write]
      · simp only [List.cons_append, List.nil_append, List.takeWhile_cons, hdaily,
          hmonthly, Bool.not_false, if_true, QuotaTables.record, run_cons] at hread ⊢
        exact hread _

private theorem record_failures (hstore : gateway.quotaStore = true) (tables : QuotaTables)
    (aliases : List String) :
    tables.record (Attempt.failures (gateway.attemptsInTurn outcomes 0 aliases)) =
      tables.addRows ((gateway.failedTurns outcomes aliases).map Turn.daily).sum
        ((gateway.failedTurns outcomes aliases).map Turn.monthly).sum := by
  have hfailed : (gateway.attemptsInTurn outcomes 0 aliases).takeWhile Attempt.fails =
      (gateway.failedTurns outcomes aliases).map gateway.runTurn := by
    rw [attemptsInTurn, List.takeWhile_map, failedTurns]
    congr 2
    funext turn
    exact gateway.fails_runTurn turn
  rw [Attempt.failures, hfailed]
  generalize gateway.failedTurns outcomes aliases = failed
  induction failed generalizing tables with
  | nil => exact tables.addRows_zero.symm
  | cons turn failed ih =>
    rw [List.map_cons, List.flatMap_cons, QuotaTables.record_append, ih,
      gateway.record_runTurn hstore, QuotaTables.addRows_addRows, List.map_cons, List.map_cons,
      List.sum_cons, List.sum_cons]

private theorem record_bookkeeping (hstore : gateway.quotaStore = true) (tables : QuotaTables)
    (usage : TokenUsage) (cost : ℚ) :
    tables.record (gateway.bookkeeping usage cost) = tables.add usage.totalTokens cost := by
  have hrec := gateway.uncharged_recordCalls .succeeded
  rw [bookkeeping, List.append_assoc, QuotaTables.record_append,
    QuotaTables.record_of_uncharged _ hrec, incrementQuotaUsage, if_pos hstore]
  rfl

/-- A response comes from a provider that has its turn, out of a payload of one of its attempts, and
all of the bookkeeping is done. -/
theorem exists_of_mem_attemptsInTurn {response : LlmResponse}
    (hx : x ∈ gateway.attemptsInTurn outcomes place aliases) (hresponse : x.result = .ok response) :
    ∃ before after provider attemptIdx payload,
      aliases = before ++ response.provider :: after ∧
      gateway.HasTurn before response.provider provider ∧
      attemptIdx < (provider.maxRetries + 1).toNat ∧
      (outcomes.attempt (place + before.length) attemptIdx).payload = .ok payload ∧
      extractUsage payload = .ok response.usage ∧
      gateway.responseCost response =
        estimateCost response.usage.promptTokens response.usage.completionTokens provider ∧
      x.made = gateway.bookkeeping response.usage (gateway.responseCost response) := by
  obtain ⟨turn, hmem, rfl⟩ := List.mem_map.mp hx
  obtain ⟨before, providerAlias, after, provider, hsplit, hturn, attemptIdx, hidx, rfl⟩ :=
    (gateway.mem_turns_iff outcomes).mp hmem
  obtain ⟨rfl, ⟨payload, hbody, husage⟩, hmade⟩ :=
    gateway.attempt_eq_ok (mapError_eq_ok_iff.mp hresponse)
  have hcost : gateway.responseCost response =
      estimateCost response.usage.promptTokens response.usage.completionTokens provider := by
    have hsettings := hturn.settings
    unfold getProvider at hsettings
    unfold responseCost
    split at hsettings
    · next found hfound =>
      rw [hfound]
      cases hsettings
      rfl
    · cases hsettings
  refine ⟨before, after, provider, attemptIdx, payload, hsplit, hturn, hidx, hbody, husage, hcost,
    ?_⟩
  rw [hcost]
  exact hmade

private theorem record_tryProviders (hstore : gateway.quotaStore = true) (tables : QuotaTables)
    (place : ℕ) (errorSummaries aliases : List String) :
    let call := gateway.tryProviders outcomes place errorSummaries aliases
    tables.record call.made = gateway.charge
      (tables.record (Attempt.failures (gateway.attemptsInTurn outcomes place aliases)))
      call.result := by
  have htried := gateway.tryProviders_inTurn outcomes place errorSummaries aliases
  generalize gateway.tryProviders outcomes place errorSummaries aliases = call at htried
  cases htried with
  | returned hx hresp =>
    obtain ⟨_, _, _, _, _, -, -, -, -, -, -, hmade⟩ :=
      gateway.exists_of_mem_attemptsInTurn outcomes hx hresp
    dsimp only [charge]
    rw [QuotaTables.record_append, hmade, gateway.record_bookkeeping hstore]
  | exhausted hfails hlast =>
    dsimp only [charge]
    rw [QuotaTables.record_append, QuotaTables.record_of_uncharged _ hlast]

private theorem charge_inj {tables tables' : QuotaTables}
    {result : Except GatewayError LlmResponse} :
    gateway.charge tables result = gateway.charge tables' result ↔ tables = tables' := by
  cases result with
  | ok response => exact QuotaTables.add_inj
  | error e => exact Iff.rfl

private theorem uncharged_of_mem_attemptsInTurn (hstore : ¬ gateway.quotaStore = true)
    (hx : x ∈ gateway.attemptsInTurn outcomes place aliases) : Uncharged x.made := by
  obtain ⟨turn, -, rfl⟩ := List.mem_map.mp hx
  exact gateway.uncharged_attempt hstore

private theorem uncharged_failures (hstore : ¬ gateway.quotaStore = true) (place : ℕ)
    (aliases : List String) :
    Uncharged (Attempt.failures (gateway.attemptsInTurn outcomes place aliases)) := by
  intro call hcall
  obtain ⟨x, hx, hcall⟩ := List.mem_flatMap.mp hcall
  exact gateway.uncharged_of_mem_attemptsInTurn outcomes hstore (List.takeWhile_subset _ hx) call
    hcall

variable {providerOrder : Option (List String)}

/-- A request that passes the hard limits goes on to the providers. -/
theorem generate_of_enforce {request : LlmRequest}
    (haliases : gateway.orderedAliases providerOrder ≠ [])
    (h : gateway.enforceHardQuotaLimits outcomes request (gateway.orderedAliases providerOrder) =
      ⟨[], .ok ()⟩) :
    gateway.generate outcomes request providerOrder =
      gateway.tryProviders outcomes 0 [] (gateway.orderedAliases providerOrder) := by
  rw [generate, if_neg (by simpa using haliases), h]
  rfl

/-- A request that the hard limits stop ends there. -/
theorem generate_of_enforce_error {request : LlmRequest} {made : List StoreCall}
    {e : GatewayError} (haliases : gateway.orderedAliases providerOrder ≠ [])
    (h : gateway.enforceHardQuotaLimits outcomes request (gateway.orderedAliases providerOrder) =
      ⟨made, .error e⟩) : gateway.generate outcomes request providerOrder = ⟨made, .error e⟩ := by
  rw [generate, if_neg (by simpa using haliases), h]
  rfl

/-- A request with no provider fails at once. -/
theorem generate_of_nil (request : LlmRequest)
    (haliases : gateway.orderedAliases providerOrder = []) :
    gateway.generate outcomes request providerOrder = ⟨[], .error
      (.retryExhausted "No provider aliases configured for gateway request")⟩ := by
  rw [generate, haliases]
  rfl

/-- Without a quota store a call holds no upsert. -/
theorem uncharged_generate (hstore : ¬ gateway.quotaStore = true) (request : LlmRequest)
    (providerOrder : Option (List String)) :
    Uncharged (gateway.generate outcomes request providerOrder).made := by
  by_cases haliases : gateway.orderedAliases providerOrder = []
  · rw [gateway.generate_of_nil outcomes request haliases]
    simp [Uncharged]
  rcases gateway.enforceHardQuotaLimits_cases outcomes request
    (gateway.orderedAliases providerOrder) with ⟨-, hpass⟩ | ⟨-, made, e, hmade, hblock⟩
  · rw [gateway.generate_of_enforce outcomes haliases hpass]
    have hfailures := gateway.uncharged_failures outcomes hstore 0
      (gateway.orderedAliases providerOrder)
    have htried := gateway.tryProviders_inTurn outcomes 0 [] (gateway.orderedAliases providerOrder)
    generalize gateway.tryProviders outcomes 0 [] (gateway.orderedAliases providerOrder) = call
      at htried
    cases htried with
    | returned hx hresp =>
      exact List.forall_mem_append.mpr
        ⟨hfailures, gateway.uncharged_of_mem_attemptsInTurn outcomes hstore hx⟩
    | exhausted hfails hlast => exact List.forall_mem_append.mpr ⟨hfailures, hlast⟩
  · rw [gateway.generate_of_enforce_error outcomes haliases hblock]
    exact hmade

/-- A call is charged once exactly when it does not pass the hard limits, or the attempts that
failed have left nothing in the tables. -/
theorem chargedOnce_generate_iff (hstore : gateway.quotaStore = true) (request : LlmRequest)
    (providerOrder : Option (List String)) (tables : QuotaTables) :
    let failed := gateway.failedTurns outcomes (gateway.orderedAliases providerOrder)
    gateway.ChargedOnce tables (gateway.generate outcomes request providerOrder) ↔
      (gateway.enforceHardQuotaLimits outcomes request (gateway.orderedAliases providerOrder) =
          ⟨[], .ok ()⟩ →
        (failed.map Turn.daily).sum = 0 ∧ (failed.map Turn.monthly).sum = 0) := by
  intro failed
  by_cases haliases : gateway.orderedAliases providerOrder = []
  · rw [gateway.generate_of_nil outcomes request haliases]
    refine iff_of_true rfl fun _ => ?_
    simp [failed, haliases, failedTurns, turns]
  rcases gateway.enforceHardQuotaLimits_cases outcomes request
    (gateway.orderedAliases providerOrder) with ⟨-, hpass⟩ | ⟨-, made, e, hmade, hblock⟩
  · rw [gateway.generate_of_enforce outcomes haliases hpass, ChargedOnce,
      gateway.record_tryProviders outcomes hstore, charge_inj,
      gateway.record_failures outcomes hstore, QuotaTables.addRows_eq_self_iff,
      forall_prop_of_true hpass]
  · rw [gateway.generate_of_enforce_error outcomes haliases hblock, hblock]
    exact iff_of_true (tables.record_of_uncharged hmade) (by simp)

section

variable {providerAlias : String} {provider : ProviderSettings} {attemptIdx : ℕ}
  {outcome : ProviderOutcome}

/-- An attempt at a provider that answers returns when no call to the stores raises. -/
theorem fails_attempt_of_payload (hstores : outcome.stores = {}) {payload : RawPayload}
    {usage : TokenUsage} (hpayload : outcome.payload = .ok payload)
    (husage : extractUsage payload = .ok usage) :
    (gateway.attempt providerAlias provider attemptIdx outcome).fails = false := by
  rw [gateway.attempt_of_payload hpayload husage, hstores,
    Attempt.callAll_of_forall _ _ _ fun _ _ => rfl]
  rfl

end

/-- A call is charged once when no call to the stores raises in its attempts. -/
theorem chargedOnce_of_stores (hstore : gateway.quotaStore = true)
    (hstores : ∀ place attemptIdx, (outcomes.attempt place attemptIdx).stores = {})
    (request : LlmRequest) (providerOrder : Option (List String)) (tables : QuotaTables) :
    gateway.ChargedOnce tables (gateway.generate outcomes request providerOrder) := by
  apply (gateway.chargedOnce_generate_iff outcomes hstore request providerOrder tables).mpr
  intro _
  have hnone : ∀ turn ∈ gateway.failedTurns outcomes (gateway.orderedAliases providerOrder),
      turn.usage = none := by
    intro turn hturn
    have hfails := List.mem_takeWhile_imp hturn
    obtain ⟨_, _, _, _, -, -, attemptIdx, -, rfl⟩ :=
      (gateway.mem_turns_iff outcomes).mp (List.takeWhile_subset _ hturn)
    rw [Turn.settles] at hfails
    generalize Turn.usage _ = usage at hfails ⊢
    cases usage with
    | none => rfl
    | some usage => simp [hstores] at hfails
  constructor <;> refine List.sum_eq_zero (List.forall_mem_map.mpr fun turn hturn => ?_)
  · rw [Turn.daily, hnone turn hturn]
  · rw [Turn.monthly, hnone turn hturn]

end LlmGateway

end OpenTrader.Llm
