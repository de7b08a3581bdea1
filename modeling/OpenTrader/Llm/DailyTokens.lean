import OpenTrader.Base.Interleaving
import OpenTrader.Llm.MonthlyCost

/-!
# The daily token limit under concurrent calls

Library `Llm`. `services/llm_gateway/gateway.py:61-135` and `:341-468`. Any number of calls over the
quota rows of one strategy and agent, in one process or several. A call reads the limits and the
two usage rows, goes to its provider, and adds what the response used; other calls may come between
any two of these steps, so what a call adds is not in the usage the others have read.
-/

namespace OpenTrader.Llm
open Base

/-- The limits and the usage rows. -/
structure QuotaStore where
  limits : QuotaLimits
  tables : QuotaTables

/-- A call of `generate` whose first attempt gets a payload with a usage. -/
structure AnsweredCall where
  gateway : LlmGateway
  request : LlmRequest
  providerOrder : Option (List String)
  payload : RawPayload
  usage : TokenUsage
  usage_eq : extractUsage payload = .ok usage

namespace AnsweredCall

variable (call : AnsweredCall)

/-- The aliases the call goes through. -/
def aliases : List String := call.gateway.orderedAliases call.providerOrder

/-- The call with its payload as the reply to every attempt. -/
def toGenerateCall : GenerateCall where
  request := call.request
  providerOrder := call.providerOrder
  replies := fun _ _ => .ok call.payload

/-- What happens around the call over stores that do not fail. -/
def outcomes (store : QuotaStore) : Outcomes :=
  call.toGenerateCall.outcomes store.limits store.tables

/-- The response uses at most the projected tokens. -/
def WithinProjection : Prop :=
  0 ≤ call.usage.totalTokens ∧ call.usage.totalTokens ≤ call.request.projectedTotalTokens

end AnsweredCall

/-- How far a call has come. -/
inductive CallPoint where
  | received
  | limitsRead (limits : QuotaLimits)
  | dailyRead (limits : QuotaLimits) (dailyTokens : ℤ)
  | passed
  | answered (response : LlmResponse)
  | returned (response : LlmResponse)
  | raised (error : GatewayError)

namespace CallPoint

/-- Where the checks of the limits lead. -/
def ofBlock : Except GatewayError (Option GatewayError) → CallPoint
  | .error error | .ok (some error) => .raised error
  | .ok none => .passed

/-- Where the providers lead. -/
def ofAnswer : Except GatewayError LlmResponse → CallPoint
  | .error error => .raised error
  | .ok response => .answered response

/-- The end of a call. -/
def ofResult : Except GatewayError LlmResponse → CallPoint
  | .error error => .raised error
  | .ok response => .returned response

end CallPoint

/-- A call that is running. -/
structure RunningCall where
  call : AnsweredCall
  point : CallPoint

namespace RunningCall

/-- The next step of a call over the rows. The provider answers in one step, and both rows are
incremented in one. -/
def next (store : QuotaStore) (running : RunningCall) (_ : Unit) : QuotaStore × RunningCall :=
  let call := running.call
  let gateway := call.gateway
  match running.point with
  | .received =>
    if call.aliases.isEmpty then (store, ⟨call, .raised
      (.retryExhausted "No provider aliases configured for gateway request")⟩)
    else if gateway.quotaStore then (store, ⟨call, .limitsRead store.limits⟩)
    else (store, ⟨call, .passed⟩)
  | .limitsRead limits =>
    if limits.isHardLimit then (store, ⟨call, .dailyRead limits store.tables.dailyTokens⟩)
    else (store, ⟨call, .passed⟩)
  | .dailyRead limits dailyTokens =>
    let usage : QuotaUsage := ⟨dailyTokens, store.tables.monthlyCost⟩
    (store, ⟨call, .ofBlock (gateway.quotaBlock call.request call.aliases limits usage)⟩)
  | .passed =>
    (store, ⟨call, .ofAnswer
      (gateway.tryProviders (call.outcomes store) 0 [] call.aliases).result⟩)
  | .answered response =>
    let tables := if gateway.quotaStore then
        store.tables.add response.usage.totalTokens (gateway.responseCost response)
      else store.tables
    ({ store with tables }, ⟨call, .returned response⟩)
  | .returned _ | .raised _ => (store, running)

end RunningCall

/-! ### A call by itself -/

namespace RunningCall

/-- A step of a call that is alone. -/
def stepAlone (s : QuotaStore × RunningCall) : QuotaStore × RunningCall := next s.1 s.2 ()

/-- A call that has ended, with its result charged to the rows. -/
def ended (store : QuotaStore) (call : AnsweredCall) (result : Except GatewayError LlmResponse) :
    QuotaStore × RunningCall :=
  ({ store with
      tables := if call.gateway.quotaStore then call.gateway.charge store.tables result
        else store.tables },
    ⟨call, .ofResult result⟩)

private abbrev result (store : QuotaStore) (call : AnsweredCall) :
    Except GatewayError LlmResponse :=
  (call.gateway.generate (call.outcomes store) call.request call.providerOrder).result

private theorem iterate_raised (n : ℕ) (store : QuotaStore) (call : AnsweredCall)
    (error : GatewayError) :
    stepAlone^[n] (store, ⟨call, .raised error⟩) = ended store call (.error error) := by
  rw [Function.iterate_fixed rfl n]
  unfold ended
  split <;> rfl

section

variable {store : QuotaStore} {call : AnsweredCall} (haliases : call.aliases ≠ [])
include haliases

private theorem iterate_passed (n : ℕ)
    (hpass : call.gateway.enforceHardQuotaLimits (call.outcomes store) call.request call.aliases =
      ⟨[], .ok ()⟩) :
    stepAlone^[n + 2] (store, ⟨call, .passed⟩) = ended store call (result store call) := by
  rw [result, call.gateway.generate_of_enforce _ haliases hpass, Function.iterate_succ_apply]
  change stepAlone^[n + 1] (store, ⟨call, .ofAnswer _⟩) = ended store call
    (call.gateway.tryProviders (call.outcomes store) 0 [] call.aliases).result
  cases (call.gateway.tryProviders (call.outcomes store) 0 [] call.aliases).result with
  | error error => exact iterate_raised _ _ _ _
  | ok response =>
    rw [Function.iterate_succ_apply, Function.iterate_fixed rfl]
    rfl

variable (hstore : call.gateway.quotaStore = true)
include hstore

private theorem iterate_dailyRead (n : ℕ) (hhard : store.limits.isHardLimit = true) :
    stepAlone^[n + 3] (store, ⟨call, .dailyRead store.limits store.tables.dailyTokens⟩) =
      ended store call (result store call) := by
  have hraised : ∀ error, _ → result store call = .error error :=
    call.gateway.result_generate_of_block (call.outcomes store) hstore rfl hhard rfl rfl haliases
  rw [Function.iterate_succ_apply]
  change stepAlone^[n + 2] (store, ⟨call, .ofBlock (call.gateway.quotaBlock call.request
    call.aliases store.limits store.tables.usage)⟩) = _
  cases hblock : call.gateway.quotaBlock call.request call.aliases store.limits
      store.tables.usage with
  | error error =>
    rw [hraised error (.inl hblock)]
    exact iterate_raised _ _ _ _
  | ok block =>
    cases block with
    | some error =>
      rw [hraised error (.inr hblock)]
      exact iterate_raised _ _ _ _
    | none =>
      exact iterate_passed haliases n
        ((call.gateway.enforceHardQuotaLimits_eq_ok_iff _ hstore _ _).mpr
          ⟨_, rfl, fun _ => ⟨_, rfl, hblock⟩⟩)

private theorem iterate_limitsRead (n : ℕ) :
    stepAlone^[n + 4] (store, ⟨call, .limitsRead store.limits⟩) =
      ended store call (result store call) := by
  rw [Function.iterate_succ_apply]
  by_cases hhard : store.limits.isHardLimit = true
  · have hnext : stepAlone (store, ⟨call, .limitsRead store.limits⟩) =
        (store, ⟨call, .dailyRead store.limits store.tables.dailyTokens⟩) := if_pos hhard
    rw [hnext]
    exact iterate_dailyRead haliases hstore n hhard
  · have hnext : stepAlone (store, ⟨call, .limitsRead store.limits⟩) =
        (store, ⟨call, .passed⟩) := if_neg hhard
    rw [hnext]
    refine iterate_passed haliases (n + 1) ?_
    rw [LlmGateway.enforceHardQuotaLimits, if_pos hstore]
    exact if_neg hhard

end

private theorem iterate_received (store : QuotaStore) (call : AnsweredCall) :
    stepAlone^[5] (store, ⟨call, .received⟩) = ended store call (result store call) := by
  rw [Function.iterate_succ_apply]
  by_cases haliases : call.aliases = []
  · have hnext : stepAlone (store, ⟨call, .received⟩) = (store, ⟨call, .raised
        (.retryExhausted "No provider aliases configured for gateway request")⟩) :=
      if_pos (by simpa using haliases)
    rw [hnext, iterate_raised, result, call.gateway.generate_of_nil _ _ haliases]
  have hempty : ¬ call.aliases.isEmpty = true := by simpa using haliases
  dsimp only [stepAlone, next]
  rw [if_neg hempty]
  by_cases hstore : call.gateway.quotaStore = true
  · rw [if_pos hstore]
    exact iterate_limitsRead haliases hstore 0
  · rw [if_neg hstore]
    exact iterate_passed haliases 2 (if_neg hstore)

/-- A call by itself is a call of `generate`, in its result and in what it leaves in the rows. -/
theorem run_alone (store : QuotaStore) (call : AnsweredCall) :
    run (Calls.step next) ⟨store, [⟨call, .received⟩]⟩ (List.replicate 5 (0, ())) =
      ⟨{ store with
          tables := call.gateway.generateNext store.limits store.tables call.toGenerateCall },
        [⟨call, .ofResult (call.gateway.generate (call.outcomes store) call.request
          call.providerOrder).result⟩]⟩ := by
  have htables : (if call.gateway.quotaStore then
      call.gateway.charge store.tables (result store call) else store.tables) =
      call.gateway.generateNext store.limits store.tables call.toGenerateCall := by
    split
    · next hstore => exact (call.gateway.generateNext_eq_charge hstore _ _ _).symm
    · next hstore => exact (call.gateway.generateNext_of_not_quotaStore hstore _ _ _).symm
  have hrun := Calls.run_replicate_single next () 5 store ⟨call, .received⟩
  have hended : (fun s => next s.1 s.2 ())^[5] (store, ⟨call, .received⟩) =
      ended store call (result store call) := iterate_received store call
  rw [hrun, hended, ended, htables]

end RunningCall

/-- The calls when they come in. -/
def concurrentCalls (store : QuotaStore) (calls : List AnsweredCall) :
    Calls QuotaStore RunningCall :=
  ⟨store, calls.map (⟨·, .received⟩)⟩

variable (request : LlmRequest) (requests : List LlmRequest)

/-- The recorded usage of a day stays within the hard limit, however calls with the given requests
interleave and whatever their providers, prices and responses within the projection are. -/
def KeepsDailyLimit (limit used : ℤ) : Prop :=
  ∀ (calls : List AnsweredCall) (store : QuotaStore) (moves : List (ℕ × Unit)),
    calls.map (·.request) = requests → (∀ call ∈ calls, call.WithinProjection) →
    store.limits.isHardLimit = true → store.limits.dailyTokenLimit = some limit →
    store.tables.dailyTokens = used →
      Throughout (Calls.step RunningCall.next) (fun s => s.store.tables.dailyTokens ≤ limit)
        (concurrentCalls store calls) moves

/-! ### What the calls add -/

namespace RunningCall

/-- What a call has added to the tokens of the day. -/
def charged (running : RunningCall) : ℤ :=
  match running.point with
  | .returned response =>
    if running.call.gateway.quotaStore then response.usage.totalTokens else 0
  | _ => 0

private theorem next_charged (store : QuotaStore) (running : RunningCall) (x : Unit) :
    (running.next store x).1.tables.dailyTokens - (running.next store x).2.charged =
      store.tables.dailyTokens - running.charged := by
  obtain ⟨call, point⟩ := running
  cases point with
  | received =>
    dsimp only [next]
    split
    · rfl
    · split <;> rfl
  | limitsRead limits =>
    dsimp only [next]
    split <;> rfl
  | dailyRead limits dailyTokens =>
    dsimp only [next]
    generalize call.gateway.quotaBlock call.request call.aliases limits _ = block
    rcases block with error | (_ | error) <;> rfl
  | passed =>
    dsimp only [next]
    cases (call.gateway.tryProviders (call.outcomes store) 0 [] call.aliases).result <;> rfl
  | answered response =>
    dsimp only [next, charged]
    split
    · dsimp only [QuotaTables.add]
      omega
    · rfl
  | returned | raised => rfl

/-- The tokens a call projects fit the limit on top of what was used at the start. -/
def Fits (limit used : ℤ) (call : AnsweredCall) : Prop :=
  call.gateway.quotaStore = true → used + call.request.projectedTotalTokens ≤ limit

/-- What is known of a call under hard limits: past the check its projected tokens fit, and past the
provider it has the usage of its payload. -/
def Follows (limits : QuotaLimits) (limit used : ℤ) (origin running : RunningCall) : Prop :=
  running.call = origin.call ∧ running.call.WithinProjection ∧
    match running.point with
    | .received | .raised _ => True
    | .limitsRead limits' => limits' = limits
    | .dailyRead limits' dailyTokens => limits' = limits ∧ used ≤ dailyTokens
    | .passed => Fits limit used running.call
    | .answered response | .returned response =>
      response.usage = running.call.usage ∧ Fits limit used running.call

private theorem usage_of_tryProviders {store : QuotaStore} {call : AnsweredCall}
    {response : LlmResponse}
    (h : (call.gateway.tryProviders (call.outcomes store) 0 [] call.aliases).result =
      .ok response) : response.usage = call.usage := by
  have htried := call.gateway.tryProviders_inTurn (call.outcomes store) 0 [] call.aliases
  generalize call.gateway.tryProviders (call.outcomes store) 0 [] call.aliases = tried at h htried
  cases htried with
  | returned hx hresp =>
    cases h
    obtain ⟨_, _, _, _, payload, -, -, -, hbody, husage, -, -⟩ :=
      call.gateway.exists_of_mem_attemptsInTurn _ hx hresp
    have hbody' : call.payload = payload := Except.ok.inj hbody
    rw [← hbody', call.usage_eq] at husage
    exact (Except.ok.inj husage).symm
  | exhausted hfails hlast => cases h

variable {limits : QuotaLimits} {origin running : RunningCall} {used : ℤ}

/-- Every step keeps what is known of a call, and lowers no row. -/
theorem Follows.next {limit : ℤ} (hhard : limits.isHardLimit = true)
    (hlimit : limits.dailyTokenLimit = some limit) {store : QuotaStore}
    (hlimits : store.limits = limits) (hused : used ≤ store.tables.dailyTokens)
    (h : Follows limits limit used origin running) :
    ((running.next store ()).1.limits = limits ∧
        used ≤ (running.next store ()).1.tables.dailyTokens) ∧
      Follows limits limit used origin (running.next store ()).2 := by
  obtain ⟨call, point⟩ := running
  obtain ⟨hcall, hwithin, hpoint⟩ := h
  cases point with
  | received =>
    dsimp only [RunningCall.next]
    split
    · exact ⟨⟨hlimits, hused⟩, hcall, hwithin, trivial⟩
    · split
      · exact ⟨⟨hlimits, hused⟩, hcall, hwithin, hlimits⟩
      · next hstore => exact ⟨⟨hlimits, hused⟩, hcall, hwithin, fun h => absurd h hstore⟩
  | limitsRead limits' =>
    have hlimits' : limits' = limits := hpoint
    subst hlimits'
    dsimp only [RunningCall.next]
    rw [if_pos hhard]
    exact ⟨⟨hlimits, hused⟩, hcall, hwithin, rfl, hused⟩
  | dailyRead limits' dailyTokens =>
    obtain ⟨hlimits', hr⟩ : limits' = limits ∧ used ≤ dailyTokens := hpoint
    subst hlimits'
    refine ⟨⟨hlimits, hused⟩, ?_⟩
    dsimp only [RunningCall.next]
    cases hblock : call.gateway.quotaBlock call.request call.aliases limits'
        ⟨dailyTokens, store.tables.monthlyCost⟩ with
    | error error => exact ⟨hcall, hwithin, trivial⟩
    | ok block =>
      cases block with
      | some error => exact ⟨hcall, hwithin, trivial⟩
      | none =>
        have hfits := (call.gateway.quotaBlock_eq_none_iff.mp hblock).1 limit hlimit
        exact ⟨hcall, hwithin, fun _ => (Int.add_le_add_right hr _).trans hfits⟩
  | passed =>
    refine ⟨⟨hlimits, hused⟩, ?_⟩
    dsimp only [RunningCall.next]
    cases hres : (call.gateway.tryProviders (call.outcomes store) 0 [] call.aliases).result with
    | error error => exact ⟨hcall, hwithin, trivial⟩
    | ok response => exact ⟨hcall, hwithin, usage_of_tryProviders hres, hpoint⟩
  | answered response =>
    obtain ⟨husage, hfits⟩ : response.usage = call.usage ∧ Fits limit used call := hpoint
    refine ⟨⟨hlimits, ?_⟩, hcall, hwithin, husage, hfits⟩
    dsimp only [RunningCall.next]
    split
    · have hnonneg : 0 ≤ call.usage.totalTokens := hwithin.1
      dsimp only [QuotaTables.add]
      rw [husage]
      omega
    · exact hused
  | returned response => exact ⟨⟨hlimits, hused⟩, hcall, hwithin, hpoint⟩
  | raised error => exact ⟨⟨hlimits, hused⟩, hcall, hwithin, trivial⟩

private theorem Follows.charged_le {limit : ℤ} (h : Follows limits limit used origin running) :
    running.charged ≤ if used + origin.call.request.projectedTotalTokens ≤ limit then
      origin.call.request.projectedTotalTokens else 0 := by
  obtain ⟨call, point⟩ := running
  obtain ⟨rfl, hwithin, hpoint⟩ := h
  have hprojected : 0 ≤ origin.call.request.projectedTotalTokens := hwithin.1.trans hwithin.2
  have hnonneg : 0 ≤ if used + origin.call.request.projectedTotalTokens ≤ limit then
      origin.call.request.projectedTotalTokens else 0 := by
    split
    · exact hprojected
    · exact le_rfl
  cases point with
  | returned response =>
    obtain ⟨husage, hfits⟩ : response.usage = origin.call.usage ∧ Fits limit used origin.call :=
      hpoint
    dsimp only [charged]
    split
    · next hstore =>
      rw [husage, if_pos (hfits hstore)]
      exact hwithin.2
    · exact hnonneg
  | received | limitsRead | dailyRead | passed | answered | raised => exact hnonneg

end RunningCall

/-! ### The limit -/

/-- The tokens of the requests whose projected tokens fit the limit on top of what is used. -/
def fittingTokens (limit used : ℤ) : ℤ :=
  ((requests.filter fun request => used + request.projectedTotalTokens ≤ limit).map
    (·.projectedTotalTokens)).sum

private theorem fittingTokens_eq_sum_ite (limit used : ℤ) :
    fittingTokens requests limit used = (requests.map fun request =>
      if used + request.projectedTotalTokens ≤ limit then request.projectedTotalTokens
      else 0).sum := by
  rw [List.sum_map_ite, List.map_const', List.sum_replicate, nsmul_zero, add_zero, fittingTokens]

private theorem sum_charged_concurrentCalls (store : QuotaStore) (calls : List AnsweredCall) :
    ((concurrentCalls store calls).calls.map RunningCall.charged).sum = 0 := by
  refine List.sum_eq_zero ?_
  intro added hadded
  obtain ⟨_, hrunning, rfl⟩ := List.mem_map.mp hadded
  obtain ⟨call, -, rfl⟩ := List.mem_map.mp hrunning
  rfl

private theorem dailyTokens_le {calls : List AnsweredCall} {store : QuotaStore} {limit : ℤ}
    (hwithin : ∀ call ∈ calls, call.WithinProjection) (hhard : store.limits.isHardLimit = true)
    (hlimit : store.limits.dailyTokenLimit = some limit) (moves : List (ℕ × Unit)) :
    Throughout (Calls.step RunningCall.next)
      (fun s => s.store.tables.dailyTokens ≤ store.tables.dailyTokens +
        fittingTokens (calls.map (·.request)) limit store.tables.dailyTokens)
      (concurrentCalls store calls) moves := by
  have hrelated := Calls.throughout_related (fun _ => True)
    (fun s => s.limits = store.limits ∧ store.tables.dailyTokens ≤ s.tables.dailyTokens)
    (RunningCall.Follows store.limits limit store.tables.dailyTokens)
    (fun _ _ _ _ _ hrows hcall => hcall.next hhard hlimit hrows.1 hrows.2)
    (s := concurrentCalls store calls) (fun m (_ : m ∈ moves) => trivial) ⟨rfl, le_rfl⟩ (by
      intro running hrunning
      obtain ⟨call, hcall, rfl⟩ := List.mem_map.mp hrunning
      exact ⟨rfl, hwithin call hcall, trivial⟩)
  have hsum := Calls.throughout_eq_sum (fun store : QuotaStore => store.tables.dailyTokens)
    RunningCall.charged RunningCall.next_charged (concurrentCalls store calls) moves
  refine (hrelated.and hsum).mono ?_
  rintro s ⟨⟨-, hcalls⟩, hsum⟩
  have hle := Calls.sum_map_le_sum_map hcalls fun _ _ => RunningCall.Follows.charged_le
  have hbound : ((concurrentCalls store calls).calls.map fun origin =>
      if store.tables.dailyTokens + origin.call.request.projectedTotalTokens ≤ limit then
        origin.call.request.projectedTotalTokens else 0).sum =
      fittingTokens (calls.map (·.request)) limit store.tables.dailyTokens := by
    rw [fittingTokens_eq_sum_ite, concurrentCalls, List.map_map, List.map_map]
    rfl
  rw [sum_charged_concurrentCalls] at hsum
  rw [hbound] at hle
  have hstore : (concurrentCalls store calls).store = store := rfl
  rw [hstore] at hsum
  omega

/-! ### Calls in step with each other -/

/-- One provider without a price. -/
def freeGateway : LlmGateway where
  settings :=
    { providers := Dict.empty.set "openai" { model := "gpt", maxRetries := 0 }
      defaultProviderOrder := ["openai"] }
  providerClients := ["openai"]

/-- A call that uses all the tokens it projects. -/
def fullCall : AnsweredCall :=
  let usage : TokenUsage :=
    { promptTokens := request.projectedPromptTokens
      completionTokens := request.projectedCompletionTokens
      totalTokens := request.projectedTotalTokens }
  { gateway := freeGateway, request, providerOrder := none, payload := usage.payload, usage
    usage_eq := extractUsage_payload usage }

theorem withinProjection_fullCall : (fullCall request).WithinProjection := by
  refine ⟨?_, le_rfl⟩
  have hcomp : 0 ≤ request.projectedCompletionTokens := le_max_right _ _
  exact add_nonneg (Int.natCast_nonneg _) hcomp

/-- The response to such a call. -/
def fullResponse : LlmResponse where
  provider := "openai"
  model := "gpt"
  content := ""
  usage := (fullCall request).usage
  attemptCount := 1

section

variable (limit : ℤ) (tables : QuotaTables)

/-- The hard limits with only a daily one. -/
def dailyStore : QuotaStore where
  limits := { dailyTokenLimit := some limit, monthlyCostLimit := none }
  tables

/-- A call at a point past the check, when its projected tokens fit. -/
def checkedAt (point : LlmRequest → CallPoint) (request : LlmRequest) : RunningCall where
  call := fullCall request
  point :=
    if tables.dailyTokens + request.projectedTotalTokens ≤ limit then point request
    else .raised (.quotaExceeded "daily_token_limit_exceeded"
      (tables.dailyTokens + request.projectedTotalTokens : ℤ) limit)

private theorem next_dailyRead (request : LlmRequest) :
    RunningCall.next (dailyStore limit tables)
        ⟨fullCall request, .dailyRead (dailyStore limit tables).limits tables.dailyTokens⟩ () =
      (dailyStore limit tables, checkedAt limit tables (fun _ => .passed) request) := by
  have hblock : freeGateway.quotaBlock request (fullCall request).aliases
      (dailyStore limit tables).limits ⟨tables.dailyTokens, tables.monthlyCost⟩ =
      if limit < tables.dailyTokens + request.projectedTotalTokens then
        .ok (some (.quotaExceeded "daily_token_limit_exceeded"
          (tables.dailyTokens + request.projectedTotalTokens : ℤ) limit))
      else .ok none := rfl
  have hnext : RunningCall.next (dailyStore limit tables)
      ⟨fullCall request, .dailyRead (dailyStore limit tables).limits tables.dailyTokens⟩ () =
      (dailyStore limit tables, ⟨fullCall request, .ofBlock (freeGateway.quotaBlock request
        (fullCall request).aliases (dailyStore limit tables).limits
          ⟨tables.dailyTokens, tables.monthlyCost⟩)⟩) := rfl
  rw [hnext, hblock, checkedAt]
  split
  · next hover => rw [if_neg (not_le.mpr hover), CallPoint.ofBlock]
  · next hfits => rw [if_pos (not_lt.mp hfits), CallPoint.ofBlock]

private theorem next_checkedAt_passed (request : LlmRequest) :
    RunningCall.next (dailyStore limit tables) (checkedAt limit tables (fun _ => .passed) request)
        () =
      (dailyStore limit tables,
        checkedAt limit tables (fun request => .answered (fullResponse request)) request) := by
  unfold checkedAt
  split <;> rfl

/-- The calls after five rounds, in which every call checks before any of them adds what it used. -/
def inStep (requests : List LlmRequest) : Calls QuotaStore RunningCall :=
  run (Calls.step RunningCall.next)
    (concurrentCalls (dailyStore limit tables) (requests.map fullCall))
    (Calls.roundMoves requests.length [(), (), (), (), ()])

private theorem calls_inStep (requests : List LlmRequest) :
    (inStep limit tables requests).calls =
      requests.map (checkedAt limit tables fun request => .returned (fullResponse request)) := by
  have hlen : requests.length =
      (concurrentCalls (dailyStore limit tables) (requests.map fullCall)).calls.length := by
    simp [concurrentCalls]
  have hlimits : Calls.round RunningCall.next () (dailyStore limit tables)
      (requests.map fun request => ⟨fullCall request, .received⟩) =
      ⟨dailyStore limit tables, requests.map fun request =>
        ⟨fullCall request, .limitsRead (dailyStore limit tables).limits⟩⟩ :=
    Calls.round_map_of_fixed (fun _ => rfl) requests
  have hdaily : Calls.round RunningCall.next () (dailyStore limit tables)
      (requests.map fun request =>
        ⟨fullCall request, .limitsRead (dailyStore limit tables).limits⟩) =
      ⟨dailyStore limit tables, requests.map fun request =>
        ⟨fullCall request, .dailyRead (dailyStore limit tables).limits tables.dailyTokens⟩⟩ :=
    Calls.round_map_of_fixed (fun _ => rfl) requests
  rw [inStep, hlen, Calls.run_roundMoves, concurrentCalls, List.map_map]
  simp only [List.foldl_cons, List.foldl_nil, Function.comp_def, hlimits, hdaily,
    Calls.round_map_of_fixed (next_dailyRead limit tables),
    Calls.round_map_of_fixed (next_checkedAt_passed limit tables)]
  refine (Calls.round_map (fun _ => True) _ _ ?_ trivial).2
  intro store _ request _
  unfold checkedAt
  split <;> exact ⟨trivial, rfl⟩

private theorem dailyTokens_inStep (requests : List LlmRequest) :
    (inStep limit tables requests).store.tables.dailyTokens =
      tables.dailyTokens + fittingTokens requests limit tables.dailyTokens := by
  have hsum := (Calls.throughout_eq_sum (fun store : QuotaStore => store.tables.dailyTokens)
    RunningCall.charged RunningCall.next_charged
    (concurrentCalls (dailyStore limit tables) (requests.map fullCall))
    (Calls.roundMoves requests.length [(), (), (), (), ()])).last
  have hcharged : ((requests.map (checkedAt limit tables fun request =>
      .returned (fullResponse request))).map RunningCall.charged).sum =
        fittingTokens requests limit tables.dailyTokens := by
    rw [fittingTokens_eq_sum_ite, List.map_map]
    congr 1
    refine List.map_congr_left fun request _ => ?_
    rw [Function.comp_apply, checkedAt]
    split <;> rfl
  rw [← inStep, calls_inStep, hcharged, sum_charged_concurrentCalls, sub_zero] at hsum
  exact sub_eq_iff_eq_add.mp hsum

end

/-- However the calls interleave, the recorded usage of the day stays within the hard limit exactly
when all requests that would fit by themselves fit together. -/
theorem daily_limit_concurrent_iff (requests : List LlmRequest) (limit used : ℤ) :
    KeepsDailyLimit requests limit used ↔ used + fittingTokens requests limit used ≤ limit := by
  constructor
  · intro h
    let tables : QuotaTables := ⟨used, 0, 0, 0⟩
    have hrequests : (requests.map fullCall).map (·.request) = requests := by
      rw [List.map_map]
      exact List.map_id requests
    have hwithin : ∀ call ∈ requests.map fullCall, call.WithinProjection := by
      simpa using fun request _ => withinProjection_fullCall request
    have hlast := (h _ (dailyStore limit tables)
      (Calls.roundMoves requests.length [(), (), (), (), ()]) hrequests hwithin rfl rfl rfl).last
    rwa [← inStep, dailyTokens_inStep] at hlast
  · rintro h calls store moves rfl hwithin hhard hlimit rfl
    exact (dailyTokens_le hwithin hhard hlimit moves).mono fun s hs => hs.trans h

/-- Two calls of sixty tokens each that read the usage before either adds to it record a hundred and
twenty under a limit of a hundred. -/
theorem daily_limit_exceeded_by_two_calls :
    let request : LlmRequest := { messages := [], maxTokens := 59 }
    request.projectedTotalTokens = 60 ∧ (fullCall request).WithinProjection ∧
      (inStep 100 ⟨0, 0, 0, 0⟩ [request, request]).store.tables.dailyTokens = 120 ∧
      ¬ KeepsDailyLimit [request, request] 100 0 := by
  intro request
  have hwithin := withinProjection_fullCall request
  have htokens : (inStep 100 ⟨0, 0, 0, 0⟩ [request, request]).store.tables.dailyTokens = 120 := by
    rw [dailyTokens_inStep]
    decide
  refine ⟨by decide, hwithin, htokens, fun h => ?_⟩
  have hkept := h ([request, request].map fullCall) (dailyStore 100 ⟨0, 0, 0, 0⟩)
    (Calls.roundMoves [request, request].length [(), (), (), (), ()]) rfl (by simpa using hwithin)
    rfl rfl rfl
  have hle := hkept.last
  rw [← inStep, htokens] at hle
  exact absurd hle (by decide)

end OpenTrader.Llm
