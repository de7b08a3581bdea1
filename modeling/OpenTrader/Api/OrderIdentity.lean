import OpenTrader.Api.Dispatch
import OpenTrader.Worker.Order

/-!
# The identifiers of dispatched orders

Library `Api`. `services/api/internal_execution/adapters.py:151-211,327-380,559-588`, reached from
the dispatch endpoint and from the status poller, `services/workers/execution_lifecycle.py:196-225`.
An order goes by its exchange order id, else by its client order id, else by its command id. The
adapters read an identifier that is absent as the text `None`, which is not blank, so it is taken
for one.
-/

namespace OpenTrader.Api
open Base Execution Worker

/-- An identifier that is present and not blank. -/
def held (id : Option String) : Option String := id.filter fun text => strip text ≠ ""

namespace ExecutionDispatchCommand

variable (c : ExecutionDispatchCommand)

/-- What the order of a command goes by. -/
def identity : String := ((held c.exchangeOrderId).or (held c.clientOrderId)).getD c.commandId

/-- Going through the identifiers in their order, an absent one comes before one that is held. -/
def ReachesAbsent : Prop :=
  c.exchangeOrderId = none ∨ held c.exchangeOrderId = none ∧ c.clientOrderId = none

/-- No absent identifier is reached and the one that is has no white space around it, or it happens
to read `None`. -/
def IdentityWritten : Prop :=
  c.identity = "None" ∨ ¬ c.ReachesAbsent ∧ strip c.identity = c.identity

end ExecutionDispatchCommand

/-! ### Simulated orders -/

private theorem strip_none_text : strip "None" = "None" ∧ strip "None" ≠ "" := by decide +kernel

@[simp] private theorem held_none : held none = none := rfl

private theorem held_of_blank {text : String} (h : strip text = "") : held (some text) = none := by
  simp [held, h]

private theorem held_of_text {text : String} (h : strip text ≠ "") :
    held (some text) = some text := by
  simp [held, h]

private def firstText : List String → String → String
  | [], fallback => fallback
  | text :: texts, fallback => if text ≠ "" then text else firstText texts fallback

private theorem firstText_of_ne {text : String} (h : text ≠ "") (texts : List String)
    (fallback : String) : firstText (text :: texts) fallback = text := if_pos h

private theorem firstText_empty (texts : List String) (fallback : String) :
    firstText ("" :: texts) fallback = firstText texts fallback := rfl

private def fallbackId (decisionId : String) : String :=
  if strip decisionId ≠ "" then "bridge-" ++ takeText 8 (strip decisionId) else "bridge-unknown"

private theorem strip_fallbackId_ne (decisionId : String) : strip (fallbackId decisionId) ≠ "" := by
  unfold fallbackId
  split
  · exact strip_append_ne_empty _ (by decide +kernel)
  · decide +kernel

section

variable {c : ExecutionDispatchCommand} {exchange : Exchange} {orderType : Execution.OrderType}
  {timeInForce : Option TimeInForce}

private theorem resolveOrderId_payload :
    resolveOrderId (c.payload exchange orderType timeInForce) =
      firstText [strip (pyStr c.exchangeOrderId), strip (pyStr c.clientOrderId),
        strip c.commandId] (fallbackId c.decisionId) := rfl

private theorem resolveOrderId_of_reachesAbsent (h : c.ReachesAbsent) :
    resolveOrderId (c.payload exchange orderType timeInForce) = "None" := by
  have hr : strip (pyStr none) = "None" := strip_none_text.1
  have hne : "None" ≠ "" := by decide
  rw [resolveOrderId_payload]
  cases hexchange : c.exchangeOrderId with
  | none => rw [hr, firstText_of_ne hne]
  | some id =>
    obtain ⟨hheld, hclient⟩ := h.resolve_left (by simp [hexchange])
    have hblank : strip id = "" := by
      by_contra htext
      rw [hexchange, held_of_text htext] at hheld
      cases hheld
    rw [pyStr, Option.getD_some, hblank, firstText_empty, hclient, hr, firstText_of_ne hne]

private theorem resolveOrderId_of_not_reachesAbsent (h : ¬ c.ReachesAbsent) :
    resolveOrderId (c.payload exchange orderType timeInForce) =
      firstText [strip c.identity] (fallbackId c.decisionId) := by
  unfold ExecutionDispatchCommand.ReachesAbsent at h
  unfold ExecutionDispatchCommand.identity
  rw [resolveOrderId_payload]
  obtain ⟨id, hexchange⟩ := Option.ne_none_iff_exists'.mp fun hid => h (.inl hid)
  rw [hexchange, pyStr, Option.getD_some]
  by_cases hblank : strip id = ""
  · obtain ⟨id', hclient⟩ := Option.ne_none_iff_exists'.mp fun hid =>
      h (.inr ⟨by rw [hexchange, held_of_blank hblank], hid⟩)
    rw [hclient, pyStr, Option.getD_some, held_of_blank hblank, Option.none_or, hblank,
      firstText_empty]
    by_cases hblank' : strip id' = ""
    · rw [held_of_blank hblank', Option.getD_none, hblank', firstText_empty]
    · rw [held_of_text hblank', Option.getD_some, firstText_of_ne hblank',
        firstText_of_ne hblank']
  · rw [held_of_text hblank, Option.some_or, Option.getD_some, firstText_of_ne hblank,
      firstText_of_ne hblank]

private theorem identity_ne_empty (hcmd : c.commandId ≠ "") : c.identity ≠ "" := by
  have hblank : strip "" = "" := by decide +kernel
  unfold ExecutionDispatchCommand.identity
  cases hid : (held c.exchangeOrderId).or (held c.clientOrderId) with
  | none => exact hcmd
  | some id =>
    rw [Option.getD_some]
    rintro rfl
    rcases Option.or_eq_some_iff.mp hid with hheld | ⟨-, hheld⟩
    · simpa [hblank] using (Option.filter_eq_some_iff.mp hheld).2
    · simpa [hblank] using (Option.filter_eq_some_iff.mp hheld).2

private theorem resolveOrderId_eq_identity_iff (hcmd : c.commandId ≠ "") :
    resolveOrderId (c.payload exchange orderType timeInForce) = c.identity ↔
      c.IdentityWritten := by
  unfold ExecutionDispatchCommand.IdentityWritten
  by_cases habsent : c.ReachesAbsent
  · rw [resolveOrderId_of_reachesAbsent habsent]
    simp only [habsent, not_true_eq_false, false_and, or_false]
    exact eq_comm
  · have hwritten : (c.identity = "None" ∨ ¬ c.ReachesAbsent ∧ strip c.identity = c.identity) ↔
        strip c.identity = c.identity := by
      constructor
      · rintro (hname | ⟨-, hname⟩)
        · rw [hname, strip_none_text.1]
        · exact hname
      · exact fun hname => .inr ⟨habsent, hname⟩
    rw [hwritten, resolveOrderId_of_not_reachesAbsent habsent]
    by_cases hblank : strip c.identity = ""
    · rw [hblank, firstText_empty]
      refine iff_of_false ?_ (identity_ne_empty hcmd).symm
      intro hname
      exact strip_fallbackId_ne c.decisionId (by rw [← hblank, ← hname]; rfl)
    · rw [firstText_of_ne hblank]

end

private theorem orderId_eq_identity_iff {env : BridgeEnv} {exchange : SignedRequest → ExchangeReply}
    {request : DispatchRequest} {outcome : DispatchOutcome}
    (hsimulated : toBool env.realDispatch = false)
    (hresp : (dispatchExecutionCommand env exchange request).response = .ok outcome) :
    outcome.orderId = request.command.identity ↔ request.command.IdentityWritten := by
  unfold dispatchExecutionCommand at hresp
  split at hresp
  · cases hresp
  · next payload adapter hacc =>
    obtain ⟨hbody, -, hprepare, -⟩ := acceptRequest_eq_ok_iff.mp hacc
    obtain ⟨venue, -, orderType, -, timeInForce, -, adapter', hadapter, hprepared⟩ :=
      prepare_eq_ok_iff.mp hprepare
    cases hprepared
    have hcmd : request.command.commandId ≠ "" :=
      (validateBody_eq_ok_iff _).mp hbody ("command_id", _) (by
        simp [ExecutionDispatchCommand.requiredTexts])
    have hsigned : adapter.signed = false := by
      simp only [getSpotAdapter, hsimulated] at hadapter
      cases hadapter
      rfl
    rw [mapError_eq_ok_iff] at hresp
    simp only [SpotAdapter.perform, hsigned] at hresp
    cases hresp
    exact resolveOrderId_eq_identity_iff hcmd

/-! ### Signed requests -/

/-- The parameters of a request. -/
def SignedRequest.params (request : SignedRequest) : Params := request.query ++ request.body

/-- The parameter of the client order id in a cancel or status request. -/
def clientOrderIdKey : Exchange → String
  | .binance => "origClientOrderId"
  | .bitget => "clientOid"

/-- A request carries an identifier only if there is one. -/
structure SendsOnlyHeld (venue : Exchange) (request : SignedRequest)
    (exchangeOrderId clientOrderId : Option String) : Prop where
  exchangeId : "orderId" ∈ request.params.map Prod.fst → (held exchangeOrderId).isSome = true
  clientId : clientOrderIdKey venue ∈ request.params.map Prod.fst →
    (held clientOrderId).isSome = true

/-- The payload of `SignedRESTOrderStatusPoller.fetch_status`; `execution_lifecycle.py:201-218`. An
order type or a time in force that no adapter knows counts as none, for the request of a status
reads neither. -/
def statusPayload (venue : Exchange) (order : TrackedLifecycleOrder) : DispatchPayload :=
  { commandId := "status-" ++ order.decisionId
    operation := .getOrderStatus
    action := .cancel
    exchange := venue
    symbol := order.symbol
    quantity := 0
    orderType := Execution.normalizeOrderType order.orderType
    timeInForce := (normalizeTimeInForce order.timeInForce).toOption.join
    limitPrice := order.limitPrice
    triggerPrice := order.triggerPrice
    reduceOnly := order.reduceOnly
    idempotencyKey := order.idempotencyKey ++ ":status"
    clientOrderId := order.clientOrderId
    exchangeOrderId := order.exchangeOrderId
    traceId := order.traceId
    decisionId := order.decisionId }

section

variable {payload : DispatchPayload} {key clientKey : String}

private theorem mem_keys_cons_of_ne {name : String} {value : ParamValue} {params : Params}
    (h : key ≠ name) :
    key ∈ (renderParams ((name, value) :: params)).map Prod.fst ↔
      key ∈ (renderParams params).map Prod.fst := by
  cases value with
  | text text =>
    by_cases hblank : strip text = ""
    · simp [renderParams, hblank]
    · simp [renderParams, hblank, h]
  | decimal q => simp [renderParams, h]

private theorem mem_keys_optionalParam {name value : String} :
    key ∈ (optionalParam name value).map Prod.fst ↔ key = name ∧ value ≠ "" := by
  unfold optionalParam
  by_cases hvalue : value = "" <;> simp [hvalue]

private theorem renderParams_identifierParams :
    renderParams (identifierParams clientKey payload) = identifierParams clientKey payload := by
  have hparam (name value : String) :
      renderParams (optionalParam name (strip value)) = optionalParam name (strip value) := by
    unfold optionalParam
    by_cases hvalue : strip value = "" <;> simp [renderParams, hvalue, strip_strip]
  rw [identifierParams, renderParams, List.filterMap_append]
  exact congrArg₂ (· ++ ·) (hparam _ _) (hparam _ _)

private theorem sent_imp_held_iff (id : Option String) :
    (strip (pyStr id) ≠ "" → (held id).isSome = true) ↔ id.isSome = true := by
  cases id with
  | none => simp [pyStr, strip_none_text.1]
  | some text =>
    by_cases hblank : strip text = ""
    · simp [pyStr, hblank]
    · simp [pyStr, hblank, held_of_text]

private theorem mem_keys_request {adapter : SpotAdapter} {operation : DispatchOperation}
    {request : SignedRequest} (hoperation : operation ≠ .createOrder)
    (hrequest : adapter.request operation payload = .ok request) (hk : key ≠ "symbol") :
    key ∈ request.params.map Prod.fst ↔
      key ∈ (identifierParams (clientOrderIdKey adapter.exchange) payload).map Prod.fst := by
  obtain ⟨venue, signed⟩ := adapter
  cases venue <;> cases operation <;>
    first
    | exact absurd rfl hoperation
    | skip
  all_goals
    simp only [SpotAdapter.request, bind_eq_ok_iff, pure_eq_ok_iff] at hrequest
    obtain ⟨symbol, -, rfl⟩ := hrequest
    simp only [SignedRequest.params, List.append_nil, List.nil_append, clientOrderIdKey]
  · rw [mem_keys_cons_of_ne hk, renderParams_identifierParams]
  · rw [mem_keys_cons_of_ne hk, renderParams_identifierParams]
  · simp [hk]
  · rw [mem_keys_cons_of_ne hk, renderParams_identifierParams]

private theorem sendsOnlyHeld_iff {adapter : SpotAdapter} {operation : DispatchOperation}
    {request : SignedRequest} (hoperation : operation ≠ .createOrder)
    (hrequest : adapter.request operation payload = .ok request) :
    SendsOnlyHeld adapter.exchange request payload.exchangeOrderId payload.clientOrderId ↔
      payload.exchangeOrderId.isSome = true ∧ payload.clientOrderId.isSome = true := by
  have hkeys : clientOrderIdKey adapter.exchange ≠ "symbol" ∧
      clientOrderIdKey adapter.exchange ≠ "orderId" := by
    cases adapter.exchange <;> decide
  have hexchange : "orderId" ∈ request.params.map Prod.fst ↔
      strip (pyStr payload.exchangeOrderId) ≠ "" := by
    rw [mem_keys_request hoperation hrequest (by decide), identifierParams, List.map_append,
      List.mem_append, mem_keys_optionalParam, mem_keys_optionalParam]
    simp [hkeys.2.symm]
  have hclient : clientOrderIdKey adapter.exchange ∈ request.params.map Prod.fst ↔
      strip (pyStr payload.clientOrderId) ≠ "" := by
    rw [mem_keys_request hoperation hrequest hkeys.1, identifierParams, List.map_append,
      List.mem_append, mem_keys_optionalParam, mem_keys_optionalParam]
    simp [hkeys.2]
  rw [← sent_imp_held_iff payload.exchangeOrderId, ← sent_imp_held_iff payload.clientOrderId,
    ← hexchange, ← hclient]
  exact ⟨fun h => ⟨h.exchangeId, h.clientId⟩, fun h => ⟨h.1, h.2⟩⟩

end

/-! ### Orders keep their identity -/

/-- Two simulated orders get the identifiers they go by, and different ones when neither command
has an exchange order id and their client order ids differ. -/
structure IdentitiesKept (c₁ c₂ : ExecutionDispatchCommand) (outcome₁ outcome₂ : DispatchOutcome) :
    Prop where
  first : outcome₁.orderId = c₁.identity
  second : outcome₂.orderId = c₂.identity
  apart : ∀ id₁ id₂, held c₁.exchangeOrderId = none → held c₂.exchangeOrderId = none →
    held c₁.clientOrderId = some id₁ → held c₂.clientOrderId = some id₂ → id₁ ≠ id₂ →
    outcome₁.orderId ≠ outcome₂.orderId

/-- Simulated orders keep their identity exactly when it is written without an absent identifier
before it, and a signed request to cancel an order or to read its status, for a command or for a
tracked order, sends only identifiers that there are exactly when both are present. -/
theorem identity_kept_iff (env : BridgeEnv) (exchange : SignedRequest → ExchangeReply) :
    (∀ (request₁ request₂ : DispatchRequest) (outcome₁ outcome₂ : DispatchOutcome),
      toBool env.realDispatch = false →
      (dispatchExecutionCommand env exchange request₁).response = .ok outcome₁ →
      (dispatchExecutionCommand env exchange request₂).response = .ok outcome₂ →
      (IdentitiesKept request₁.command request₂.command outcome₁ outcome₂ ↔
        request₁.command.IdentityWritten ∧ request₂.command.IdentityWritten)) ∧
    (∀ (request : DispatchRequest) (payload : DispatchPayload) (adapter : SpotAdapter)
      (signed : SignedRequest),
      acceptRequest env request = .ok (payload, adapter) → payload.operation ≠ .createOrder →
      adapter.request payload.operation payload = .ok signed →
      (SendsOnlyHeld adapter.exchange signed request.command.exchangeOrderId
          request.command.clientOrderId ↔
        request.command.exchangeOrderId.isSome = true ∧
          request.command.clientOrderId.isSome = true)) ∧
    (∀ (adapter : SpotAdapter) (order : TrackedLifecycleOrder) (signed : SignedRequest),
      adapter.request .getOrderStatus (statusPayload adapter.exchange order) = .ok signed →
      (SendsOnlyHeld adapter.exchange signed order.exchangeOrderId order.clientOrderId ↔
        order.exchangeOrderId.isSome = true ∧ order.clientOrderId.isSome = true)) := by
  refine ⟨?_, ?_, ?_⟩
  · intro request₁ request₂ outcome₁ outcome₂ hsimulated hresponse₁ hresponse₂
    rw [← orderId_eq_identity_iff hsimulated hresponse₁,
      ← orderId_eq_identity_iff hsimulated hresponse₂]
    constructor
    · exact fun h => ⟨h.first, h.second⟩
    · rintro ⟨h₁, h₂⟩
      refine ⟨h₁, h₂, ?_⟩
      intro id₁ id₂ hex₁ hex₂ hcl₁ hcl₂ hne
      rw [h₁, h₂, ExecutionDispatchCommand.identity, ExecutionDispatchCommand.identity, hex₁, hex₂,
        hcl₁, hcl₂]
      exact hne
  · intro request payload adapter signed haccept hoperation hrequest
    obtain ⟨-, -, hprepare, -⟩ := acceptRequest_eq_ok_iff.mp haccept
    obtain ⟨_, -, _, -, _, -, _, -, hprepared⟩ := prepare_eq_ok_iff.mp hprepare
    cases hprepared
    exact sendsOnlyHeld_iff hoperation hrequest
  · intro adapter order signed hrequest
    exact @sendsOnlyHeld_iff (statusPayload adapter.exchange order) adapter .getOrderStatus signed
      (by decide) hrequest

/-- With an empty exchange order id, two orders go by their client order ids. -/
theorem identity_kept_of_empty_exchange_id :
    IdentitiesKept (bridgeOrder (some "") (some "client-1")).command
      (bridgeOrder (some "") (some "client-2")).command ⟨"client-1", "submitted"⟩
      ⟨"client-2", "submitted"⟩ := by
  have hresponse : ∀ id ∈ ["client-1", "client-2"],
      (dispatchExecutionCommand simulatedEnv (fun _ => .notObject)
        (bridgeOrder (some "") (some id))).response.toOption = some ⟨id, "submitted"⟩ ∧
      (bridgeOrder (some "") (some id)).command.identity = id ∧ strip id = id ∧
      held (some "") = none := by
    decide +kernel
  have hwritten : ∀ id ∈ ["client-1", "client-2"],
      (bridgeOrder (some "") (some id)).command.IdentityWritten := by
    intro id hid
    obtain ⟨-, hidentity, hstrip, -⟩ := hresponse id hid
    refine .inr ⟨?_, by rw [hidentity, hstrip]⟩
    rintro (habsent | ⟨-, habsent⟩)
    · cases habsent
    · cases habsent
  refine ((identity_kept_iff simulatedEnv (fun _ => .notObject)).1 _ _ _ _ (by decide +kernel)
    (toOption_eq_some_iff.mp (hresponse "client-1" (by simp)).1)
    (toOption_eq_some_iff.mp (hresponse "client-2" (by simp)).1)).mpr ⟨?_, ?_⟩
  · exact hwritten "client-1" (by simp)
  · exact hwritten "client-2" (by simp)

/-- Without an exchange order id, two orders with different client order ids are both `None`. -/
theorem orders_named_none :
    ∃ outcome₁ outcome₂ : DispatchOutcome,
      (dispatchExecutionCommand simulatedEnv (fun _ => .notObject)
        (bridgeOrder none (some "client-1"))).response = .ok outcome₁ ∧
      (dispatchExecutionCommand simulatedEnv (fun _ => .notObject)
        (bridgeOrder none (some "client-2"))).response = .ok outcome₂ ∧
      outcome₁.orderId = "None" ∧ outcome₂.orderId = "None" ∧
      ¬ IdentitiesKept (bridgeOrder none (some "client-1")).command
        (bridgeOrder none (some "client-2")).command outcome₁ outcome₂ := by
  have hresponse : ∀ id ∈ ["client-1", "client-2"],
      (dispatchExecutionCommand simulatedEnv (fun _ => .notObject)
        (bridgeOrder none (some id))).response.toOption = some ⟨"None", "submitted"⟩ := by
    decide +kernel
  have hidentity : (bridgeOrder none (some "client-1")).command.identity = "client-1" := by
    decide +kernel
  refine ⟨_, _, toOption_eq_some_iff.mp (hresponse "client-1" (by simp)),
    toOption_eq_some_iff.mp (hresponse "client-2" (by simp)), rfl, rfl, ?_⟩
  intro hkept
  have hfirst := hkept.first
  rw [hidentity] at hfirst
  exact absurd hfirst (by decide)

end OpenTrader.Api
