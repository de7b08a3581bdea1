import OpenTrader.Api.IntentDispatch
import OpenTrader.Api.OrderIdentity
import OpenTrader.Worker.Attribution

/-!
# The client order ids of decisions

Library `Api`. The orchestrator names the order of a decision by its strategy and the first twelve
characters of its decision id, `services/agent_orchestrator/orchestrator.py:414-438`. The signed
adapters send at most 32 characters of that, `services/api/internal_execution/adapters.py:591-601`,
while the lifecycle worker keeps all of it, `services/workers/execution_lifecycle.py:348-385`, and
looks an update up by it, `services/workers/execution_lifecycle.py:512-542`.
-/

namespace OpenTrader.Api
open Base Market Execution Agent Worker

/-! ### What a create request carries -/

/-- The parameter of the client order id in a create request. -/
def newClientOrderIdKey : Exchange → String
  | .binance => "newClientOrderId"
  | .bitget => "clientOid"

/-- The text of a parameter. -/
def ParamValue.asText : ParamValue → Option String
  | .text s => some s
  | .decimal _ => none

/-- The text a request carries under a key. -/
def SignedRequest.text (request : SignedRequest) (key : String) : Option String :=
  request.params.findSome? fun param => if param.1 = key then param.2.asText else none

private def writtenId : Exchange → DispatchPayload → String
  | .binance, payload => strip (resolveClientOrderId payload)
  | .bitget, payload => resolveClientOrderId payload

variable {key : String} {params : Params}

private theorem not_mem_decimalParam (name : String) {number : Option ℚ}
    (h : decimalParam key number = .ok params) (hname : name ≠ key) (value : ParamValue) :
    (name, value) ∉ params := by
  unfold decimalParam at h
  split at h
  · cases h
  · split at h
    · cases h
    · cases h
      simp [hname]

private theorem mem_optionalParam {value : String} {p : String × ParamValue} :
    p ∈ optionalParam key value ↔ p = (key, .text value) ∧ value ≠ "" := by
  unfold optionalParam
  by_cases hvalue : value = "" <;> simp [hvalue]

private theorem mem_renderParams {text : String} {value : ParamValue}
    (h : ∀ given, (key, given) ∈ params ↔ given = .text text ∧ text ≠ "") :
    (key, value) ∈ renderParams params ↔ value = .text (strip text) ∧ strip text ≠ "" := by
  simp only [renderParams, List.mem_filterMap, Prod.exists]
  constructor
  · rintro ⟨name, given, hm, hrendered⟩
    cases given with
    | decimal q =>
      simp only [Option.some.injEq, Prod.mk.injEq] at hrendered
      rw [hrendered.1] at hm
      cases ((h _).mp hm).1
    | text s =>
      by_cases hblank : strip s = ""
      · simp [hblank] at hrendered
      · simp only [hblank, if_false, Option.some.injEq, Prod.mk.injEq] at hrendered
        rw [hrendered.1] at hm
        cases ((h _).mp hm).1
        exact ⟨hrendered.2.symm, hblank⟩
  · rintro ⟨rfl, hstripped⟩
    have hne : text ≠ "" := by
      rintro rfl
      exact hstripped (by decide +kernel)
    exact ⟨key, .text text, (h _).mpr ⟨rfl, hne⟩, by simp [hstripped]⟩

section

variable {adapter : SpotAdapter} {payload : DispatchPayload} {request : SignedRequest}

private theorem mem_binanceCreate (h : binanceCreateRequest payload = .ok request)
    {value : ParamValue} :
    ("newClientOrderId", value) ∈ request.params ↔
      value = .text (writtenId .binance payload) ∧ writtenId .binance payload ≠ "" := by
  simp only [binanceCreateRequest, bind_eq_ok_iff] at h
  obtain ⟨symbol, -, quantity, hq, h⟩ := h
  have hq := not_mem_decimalParam "newClientOrderId" hq (by decide)
  cases htype : payload.orderType
  all_goals simp only [htype, reduceCtorEq, if_true, if_false, or_false, or_true, or_self,
    bind_eq_ok_iff, pure_eq_ok_iff, Except.ok.injEq, exists_eq_left'] at h
  · subst h
    rw [SignedRequest.params, List.append_nil]
    exact mem_renderParams fun given => by simp [hq, mem_optionalParam]
  · obtain ⟨price, hprice, rfl⟩ := h
    have hprice := not_mem_decimalParam "newClientOrderId" hprice (by decide)
    rw [SignedRequest.params, List.append_nil]
    exact mem_renderParams fun given => by simp [hq, hprice, mem_optionalParam]
  all_goals
    obtain ⟨stopPrice, hstop, rfl⟩ := h
    have hstop := not_mem_decimalParam "newClientOrderId" hstop (by decide)
    rw [SignedRequest.params, List.append_nil]
    exact mem_renderParams fun given => by simp [hq, hstop, mem_optionalParam]

private theorem mem_bitgetCreate (h : bitgetCreateRequest payload = .ok request)
    {value : ParamValue} :
    ("clientOid", value) ∈ request.params ↔
      value = .text (writtenId .bitget payload) ∧ writtenId .bitget payload ≠ "" := by
  simp only [bitgetCreateRequest, bind_eq_ok_iff] at h
  obtain ⟨symbol, -, h⟩ := h
  cases htype : payload.orderType
  all_goals simp only [htype, reduceCtorEq, if_true, if_false, or_false, or_true, or_self,
    bind_eq_ok_iff, pure_eq_ok_iff, Except.ok.injEq, exists_eq_left'] at h
  · obtain ⟨size, hsize, rfl⟩ := h
    have hsize := not_mem_decimalParam "clientOid" hsize (by decide)
    simp [SignedRequest.params, hsize, mem_optionalParam, writtenId]
  · obtain ⟨size, hsize, price, hprice, rfl⟩ := h
    have hsize := not_mem_decimalParam "clientOid" hsize (by decide)
    have hprice := not_mem_decimalParam "clientOid" hprice (by decide)
    simp [SignedRequest.params, hsize, hprice, mem_optionalParam, writtenId]
  all_goals
    obtain ⟨trigger, htrigger, size, hsize, rfl⟩ := h
    have htrigger := not_mem_decimalParam "clientOid" htrigger (by decide)
    have hsize := not_mem_decimalParam "clientOid" hsize (by decide)
    simp [SignedRequest.params, htrigger, hsize, mem_optionalParam, writtenId]

private theorem text_createRequest (h : adapter.request .createOrder payload = .ok request) :
    request.text (newClientOrderIdKey adapter.exchange) =
      omitEmpty (writtenId adapter.exchange payload) := by
  have hm {value : ParamValue} : (newClientOrderIdKey adapter.exchange, value) ∈ request.params ↔
      value = .text (writtenId adapter.exchange payload) ∧
        writtenId adapter.exchange payload ≠ "" := by
    unfold SpotAdapter.request at h
    cases hvenue : adapter.exchange with
    | binance => rw [hvenue] at h; exact mem_binanceCreate h
    | bitget => rw [hvenue] at h; exact mem_bitgetCreate h
  unfold omitEmpty
  split
  · next hblank =>
    rw [SignedRequest.text, List.findSome?_eq_none_iff]
    rintro ⟨name, value⟩ hparam
    refine if_neg fun hname => ?_
    change name = _ at hname
    rw [hname] at hparam
    exact (hm.mp hparam).2 hblank
  · next htext =>
    cases hfound : request.text (newClientOrderIdKey adapter.exchange) with
    | none =>
      rw [SignedRequest.text, List.findSome?_eq_none_iff] at hfound
      have hn := hfound _ (hm.mpr ⟨rfl, htext⟩)
      simp [ParamValue.asText] at hn
    | some text =>
      obtain ⟨⟨name, value⟩, hparam, hvalue⟩ := List.exists_of_findSome?_eq_some hfound
      by_cases hname : name = newClientOrderIdKey adapter.exchange
      · rw [hname] at hparam
        rw [if_pos hname, (hm.mp hparam).1] at hvalue
        exact hvalue.symm
      · rw [if_neg hname] at hvalue
        cases hvalue

end

/-! ### Decisions on their way to an exchange -/

/-- `f"{strategy_id}-{decision_id[:12]}"`. -/
def decisionOrderId (strategyId decisionId : String) : String :=
  strategyId ++ "-" ++ takeText 12 decisionId

/-- A decision of a strategy, made without a client order id of the language model, whose REAL
intent is dispatched to a signed adapter and tracked by the lifecycle worker. -/
structure DispatchedDecision (strategy : StrategyConfig) where
  message : CanonicalMessage
  now : UtcStamp
  suggestions : Suggestions
  unnamed : (orderEntries suggestions).clientOrderId = none
  routingKey : String
  intent : IntentEnvelope
  published : message.intent now suggestions strategy = some (routingKey, intent)
  real : intent.mode = some "REAL"
  payload : DispatchPayload
  dispatched : dispatchIntent intent = .ok payload
  env : BridgeEnv
  adapter : SpotAdapter
  adapted : getSpotAdapter env payload.exchange = .ok adapter
  signed : adapter.signed = true
  request : SignedRequest
  requested : adapter.request .createOrder payload = .ok request
  order : TrackedLifecycleOrder
  tracked : intentOrder intent = .ok (some order)

namespace DispatchedDecision

variable {strategy : StrategyConfig} (d : DispatchedDecision strategy)

def decisionId : String := d.message.envelope.decisionId.getD ""

/-- The client order id the exchange gets. -/
def sentId : Option String := d.request.text (newClientOrderIdKey d.adapter.exchange)

/-- The worker tracks the order of the decision, and beside it at most that of another one. -/
structure TrackedBeside (other : DispatchedDecision strategy) (orders : TrackedOrders) : Prop where
  here : (d.order.idempotencyKey, d.order) ∈ orders.entries
  only : ∀ e ∈ orders.entries, e = (d.order.idempotencyKey, d.order) ∨
    e = (other.order.idempotencyKey, other.order)

/-- The exchange gets the id that the worker keeps, and an update that carries it is applied to the
order of the decision. -/
structure FoundBeside (other : DispatchedDecision strategy) : Prop where
  kept : d.sentId = d.order.clientOrderId
  resolved : ∀ orders snapshot, d.TrackedBeside other orders → snapshot.onExchange d.order = true →
    snapshot.clientOrderId = d.sentId →
    resolveOrder orders snapshot = some (d.order.idempotencyKey, d.order)

private theorem isUuid_decisionId : isUuid d.decisionId = true := by
  obtain ⟨-, hdec, -⟩ := (validateEnvelope_ok_iff _).mp d.message.valid
  unfold decisionId
  cases hid : d.message.envelope.decisionId with
  | none => rw [hid] at hdec; cases hdec
  | some id => rw [hid] at hdec; exact hdec

private theorem clientOrderId_runAgents (suggestions : Suggestions) (context : MarketContext)
    (strategy : StrategyConfig) :
    (runAgents suggestions context strategy).decision.constraints.clientOrderId =
      (orderEntries suggestions).clientOrderId := by
  cases h : suggestions.execution with
  | none => simp [runAgents, orderEntries, h, applyExecutionSuggestion]; rfl
  | some suggestion =>
    simp only [runAgents, orderEntries, h, applyExecutionSuggestion, Constraints.update]
    exact Option.or_none

private theorem payload_intent : ∃ p, d.intent.payload = some p ∧
    p.clientOrderId = some (decisionOrderId strategy.strategyId d.decisionId) ∧
    p.exchangeOrderId = none := by
  obtain ⟨-, hint⟩ := d.message.trades_of_intent d.now d.suggestions strategy d.published
  have hid : (d.message.conclusion d.suggestions strategy).decision.constraints.clientOrderId =
      none := (clientOrderId_runAgents _ _ _).trans d.unnamed
  refine ⟨_, by rw [hint]; rfl, ?_, rfl⟩
  simp only [intentPayload, hid, Option.getD_none]
  rfl

private theorem decisionOrderId_ne_empty (strategyId decisionId : String) :
    strip (decisionOrderId strategyId decisionId) ≠ "" := by
  have hhyphen : isSpace '-' = false := by decide
  rw [Ne, strip_eq_empty_iff]
  intro hblank
  have hspace := hblank '-' (by simp [decisionOrderId, String.toList_append])
  rw [hhyphen] at hspace
  cases hspace

private theorem clientOrderId_of_dispatchIntent {intent : IntentEnvelope} {p : IntentPayload}
    {payload : DispatchPayload} (hp : intent.payload = some p)
    (h : dispatchIntent intent = .ok payload) :
    payload.clientOrderId = omitEmpty (p.clientOrderId.getD "") := by
  simp only [dispatchIntent, bind_eq_ok_iff, mapError_eq_ok_iff] at h
  obtain ⟨envelope, hdecode, ⟨command, key⟩, hcmd, hchecked⟩ := h
  obtain ⟨hbody, -⟩ := decodeEnvelope_eq_ok hdecode hp
  obtain ⟨-, -, hid, -⟩ := decodePayload_eq_ok hbody
  obtain ⟨action, -, hbuilt, -⟩ := toBridgeCommand_eq_ok hcmd
  have hsame : command.clientOrderId = envelope.payload.clientOrderId := by
    by_cases hcancel : action = .cancel
    · rw [hcancel] at hbuilt
      cases hbuilt
      rfl
    · exact (bridgeCommand_eq_ok hbuilt hcancel).2.2.2.1
  simp only [checkedPayload, bind_eq_ok_iff, pure_eq_ok_iff] at hchecked
  obtain ⟨-, -, venue, -, orderType, -, tif, -, -, -, rfl⟩ := hchecked
  change omitEmpty command.clientOrderId = _
  rw [hsame, hid]

private theorem resolveClientOrderId_payload : resolveClientOrderId d.payload =
    takeText 32 (strip (decisionOrderId strategy.strategyId d.decisionId)) := by
  obtain ⟨p, hp, hid, -⟩ := d.payload_intent
  have hne := decisionOrderId_ne_empty strategy.strategyId d.decisionId
  have hnonempty : decisionOrderId strategy.strategyId d.decisionId ≠ "" := by
    intro hempty
    rw [hempty] at hne
    exact hne (by decide +kernel)
  have hbody := clientOrderId_of_dispatchIntent hp d.dispatched
  rw [hid, Option.getD_some, omitEmpty, if_neg hnonempty] at hbody
  rw [resolveClientOrderId, hbody]
  exact if_pos hne

private theorem clientOrderId_order : d.order.clientOrderId =
    some (strip (decisionOrderId strategy.strategyId d.decisionId)) := by
  obtain ⟨p, hp, hid, -⟩ := d.payload_intent
  obtain ⟨p', quantity, hp', -, hfrom⟩ := fromIntent_of_intentOrder d.tracked
  cases hp.symm.trans hp'
  rw [hfrom.client_eq, hid]
  exact if_neg (decisionOrderId_ne_empty _ _)

private theorem exchangeOrderId_order : d.order.exchangeOrderId = none := by
  obtain ⟨p, hp, -, hid⟩ := d.payload_intent
  obtain ⟨p', quantity, hp', -, hfrom⟩ := fromIntent_of_intentOrder d.tracked
  cases hp.symm.trans hp'
  rw [hfrom.exchangeId_eq, hid]
  rfl

private theorem strip_decisionOrderId :
    strip (decisionOrderId strategy.strategyId d.decisionId) =
      strip (strategy.strategyId ++ "-") ++ takeText 12 d.decisionId := by
  apply strip_append_of_concat (c := '-') (by rw [String.toList_append]; rfl) (by decide)
  intro c hc
  rw [takeText, String.toList_ofList] at hc
  exact isSpace_of_mem_uuid d.isUuid_decisionId (List.mem_of_mem_take hc)

private theorem length_decisionOrderId :
    (strip (decisionOrderId strategy.strategyId d.decisionId)).toList.length =
      (strip (strategy.strategyId ++ "-")).toList.length + 12 := by
  have hlong := length_of_isUuid d.isUuid_decisionId
  rw [d.strip_decisionOrderId, String.toList_append, List.length_append, takeText,
    String.toList_ofList, List.length_take]
  omega

private theorem sentId_eq : d.sentId = omitEmpty (writtenId d.adapter.exchange d.payload) :=
  text_createRequest d.requested

private theorem sentId_eq_clientOrderId_iff : d.sentId = d.order.clientOrderId ↔
    (strip (strategy.strategyId ++ "-")).toList.length ≤ 20 := by
  have hlen := d.length_decisionOrderId
  have hne := decisionOrderId_ne_empty strategy.strategyId d.decisionId
  rw [d.clientOrderId_order, d.sentId_eq]
  constructor
  · intro hkept
    have hwritten : (writtenId d.adapter.exchange d.payload).toList.length ≤ 32 := by
      have htaken : (resolveClientOrderId d.payload).toList.length ≤ 32 := by
        rw [resolveClientOrderId_payload, takeText, String.toList_ofList]
        exact List.length_take_le _ _
      unfold writtenId
      split
      · exact (strip_length_le _).trans htaken
      · exact htaken
    have hsame : writtenId d.adapter.exchange d.payload =
        strip (decisionOrderId strategy.strategyId d.decisionId) := by
      unfold omitEmpty at hkept
      split at hkept
      · cases hkept
      · exact Option.some.inj hkept
    rw [hsame] at hwritten
    omega
  · intro hshort
    have hwhole : resolveClientOrderId d.payload =
        strip (decisionOrderId strategy.strategyId d.decisionId) := by
      rw [resolveClientOrderId_payload, takeText, List.take_of_length_le (by omega),
        String.ofList_toList]
    have hwritten : writtenId d.adapter.exchange d.payload =
        strip (decisionOrderId strategy.strategyId d.decisionId) := by
      unfold writtenId
      split
      · rw [hwhole, strip_strip]
      · exact hwhole
    rw [hwritten, omitEmpty, if_neg hne]

private theorem resolved_of_ne {other : DispatchedDecision strategy} {orders : TrackedOrders}
    {snapshot : LifecycleStatusSnapshot} (htracked : d.TrackedBeside other orders)
    (hexchange : snapshot.onExchange d.order = true)
    (hid : snapshot.clientOrderId = d.order.clientOrderId)
    (hother : other.order.clientOrderId ≠ d.order.clientOrderId) :
    resolveOrder orders snapshot = some (d.order.idempotencyKey, d.order) := by
  have hne := decisionOrderId_ne_empty strategy.strategyId d.decisionId
  have hagrees (recorded : Option String) :
      agrees recorded snapshot.clientOrderId = true ↔ recorded = d.order.clientOrderId := by
    rw [hid, d.clientOrderId_order, agrees, Option.getD_some, strip_strip]
    constructor
    · intro h
      exact beq_iff_eq.mp (Bool.and_eq_true_iff.mp h).2
    · rintro rfl
      simp [truthy, hne]
  have hnoExchange : ∀ e ∈ orders.entries, ¬ snapshot.hasExchangeId e.2 = true := by
    intro e he
    have hn : e.2.exchangeOrderId = none := by
      rcases htracked.only e he with rfl | rfl
      · exact d.exchangeOrderId_order
      · exact other.exchangeOrderId_order
    simp [LifecycleStatusSnapshot.hasExchangeId, hn, agrees, truthy]
  apply resolveOrder_eq_some_iff.mpr
  refine .inr (.inl ⟨hnoExchange, ?_⟩)
  have hown : snapshot.hasClientId d.order = true := by
    rw [LifecycleStatusSnapshot.hasClientId, hexchange, Bool.true_and, hagrees]
  cases hfound : orders.entries.find? (fun e => snapshot.hasClientId e.2) with
  | none => exact absurd hown (List.find?_eq_none.mp hfound _ htracked.here)
  | some e =>
    have hmatch : snapshot.hasClientId e.2 = true := by
      simpa using List.find?_some hfound
    rcases htracked.only e (List.mem_of_find?_eq_some hfound) with rfl | rfl
    · rfl
    · rw [LifecycleStatusSnapshot.hasClientId, Bool.and_eq_true, hagrees] at hmatch
      exact absurd hmatch.2 hother

/-- The client order ids of two decisions of a strategy tell them apart, at the exchange and in the
worker, exactly when the strategy id with its hyphen has no more than 20 characters and the
decision ids differ in their first twelve. -/
theorem client_order_ids_identify_iff (first second : DispatchedDecision strategy) :
    (first.sentId ≠ second.sentId ∧ first.FoundBeside second ∧ second.FoundBeside first) ↔
      (strip (strategy.strategyId ++ "-")).toList.length ≤ 20 ∧
        takeText 12 first.decisionId ≠ takeText 12 second.decisionId := by
  have hdiffer : first.order.clientOrderId ≠ second.order.clientOrderId ↔
      takeText 12 first.decisionId ≠ takeText 12 second.decisionId := by
    rw [first.clientOrderId_order, second.clientOrderId_order, first.strip_decisionOrderId,
      second.strip_decisionOrderId, Ne, Option.some.injEq, String.append_right_inj]
  constructor
  · rintro ⟨hsent, hfirst, hsecond⟩
    refine ⟨first.sentId_eq_clientOrderId_iff.mp hfirst.kept, ?_⟩
    rw [← hdiffer, ← hfirst.kept, ← hsecond.kept]
    exact hsent
  · rintro ⟨hshort, hids⟩
    have hfirst := first.sentId_eq_clientOrderId_iff.mpr hshort
    have hsecond := second.sentId_eq_clientOrderId_iff.mpr hshort
    have hids := hdiffer.mpr hids
    refine ⟨by rwa [hfirst, hsecond], ⟨hfirst, ?_⟩, ⟨hsecond, ?_⟩⟩
    · intro orders snapshot htracked hexchange hid
      exact first.resolved_of_ne htracked hexchange (hid.trans hfirst) hids.symm
    · intro orders snapshot htracked hexchange hid
      exact second.resolved_of_ne htracked hexchange (hid.trans hsecond) hids

/-! ### Two decisions of a sample strategy -/

private def decisionEnvelope (decisionId : String) : MarketEnvelope :=
  { (sampleMessage true sampleBook).envelope with decisionId := some decisionId }

private theorem decisionEnvelope_valid {decisionId : String} (h : isUuid decisionId = true) :
    validateEnvelope (decisionEnvelope decisionId) = .ok () := by
  obtain ⟨htrace, -, hrest⟩ := (validateEnvelope_ok_iff _).mp (sampleMessage true sampleBook).valid
  exact (validateEnvelope_ok_iff _).mpr ⟨htrace, h, hrest⟩

private def decisionMessage (decisionId : String) (h : isUuid decisionId = true) :
    CanonicalMessage where
  envelope := decisionEnvelope decisionId
  valid := decisionEnvelope_valid h
  canonical := (sampleMessage true sampleBook).canonical

/-- An environment with the credentials of one exchange. -/
def signedEnv : BridgeEnv :=
  { bridgeApiKey := "test-bridge-key"
    realDispatch := "true"
    binanceApiKey := "key"
    binanceApiSecret := "secret" }

private def arrives (intent : IntentEnvelope) : Bool :=
  match dispatchIntent intent, intentOrder intent with
  | .ok payload, .ok (some _) =>
    payload.exchange = .binance ∧
      ((SpotAdapter.mk .binance true).request .createOrder payload).toOption.isSome
  | _, _ => false

private def sampleDecision : ExecutionDecision where
  action := .buy
  quantity := 1 / 2
  confidence := 1 / 2
  constraints := { schemaValid := true, riskApproved := true, blockedBy := [], mode := "MOCK" }

private theorem conclusion_decisionMessage (decisionId : String) (h : isUuid decisionId = true) :
    ((decisionMessage decisionId h).conclusion {} sampleStrategy).shouldPublishIntent = true ∧
      ((decisionMessage decisionId h).conclusion {} sampleStrategy).decision = sampleDecision := by
  change ((sampleMessage true sampleBook).conclusion {} sampleStrategy).shouldPublishIntent = true ∧
    ((sampleMessage true sampleBook).conclusion {} sampleStrategy).decision = sampleDecision
  decide +kernel

private theorem exists_dispatched (decisionId : String) (h : isUuid decisionId = true)
    (harrives : arrives (intentEnvelope sampleTime (decisionEnvelope decisionId) sampleStrategy
      ((sampleMessage true sampleBook).context sampleStrategy) sampleDecision) = true) :
    ∃ d : DispatchedDecision sampleStrategy, d.decisionId = decisionId := by
  obtain ⟨hpub, hdec⟩ := conclusion_decisionMessage decisionId h
  obtain ⟨key, -, hint⟩ := (decisionMessage decisionId h).intent_eq sampleTime {} sampleStrategy
  rw [if_pos hpub, hdec] at hint
  unfold arrives at harrives
  split at harrives
  · next payload order hbody ho =>
    obtain ⟨hexchange, hsome⟩ := of_decide_eq_true harrives
    obtain ⟨request, hrequest⟩ := Option.isSome_iff_exists.mp hsome
    have hadapter : getSpotAdapter signedEnv payload.exchange = .ok ⟨.binance, true⟩ := by
      rw [hexchange]
      decide +kernel
    exact ⟨{ message := decisionMessage decisionId h
             now := sampleTime
             suggestions := {}
             unnamed := rfl
             routingKey := key
             intent := _
             published := hint
             real := rfl
             payload
             dispatched := hbody
             env := signedEnv
             adapter := ⟨.binance, true⟩
             adapted := hadapter
             signed := rfl
             request
             requested := toOption_eq_some_iff.mp hrequest
             order
             tracked := ho }, rfl⟩
  · cases harrives

private theorem exists_dispatched_first : ∃ d : DispatchedDecision sampleStrategy,
    d.decisionId = "5d0c7b1e-0000-4000-8000-000000000002" :=
  exists_dispatched _ (by decide +kernel) (by decide +kernel)

/-- Decisions whose ids differ in their first block are told apart. -/
theorem client_order_ids_identify_first_block :
    ∃ first second : DispatchedDecision sampleStrategy,
      first.decisionId = "5d0c7b1e-0000-4000-8000-000000000002" ∧
      second.decisionId = "6d0c7b1e-0000-4000-8000-000000000002" ∧
      first.sentId ≠ second.sentId ∧ first.FoundBeside second ∧ second.FoundBeside first := by
  obtain ⟨first, hfirst⟩ := exists_dispatched_first
  obtain ⟨second, hsecond⟩ := exists_dispatched
    "6d0c7b1e-0000-4000-8000-000000000002" (by decide +kernel) (by decide +kernel)
  refine ⟨first, second, hfirst, hsecond, (first.client_order_ids_identify_iff second).mpr ?_⟩
  rw [hfirst, hsecond]
  decide +kernel

/-- Decisions whose ids differ in their last character send one client order id. -/
theorem one_client_order_id_for_two_decisions :
    ∃ first second : DispatchedDecision sampleStrategy,
      first.decisionId = "5d0c7b1e-0000-4000-8000-000000000002" ∧
      second.decisionId = "5d0c7b1e-0000-4000-8000-000000000003" ∧
      first.sentId = some "momentum-5d0c7b1e-000" ∧
      second.sentId = some "momentum-5d0c7b1e-000" := by
  obtain ⟨first, hfirst⟩ := exists_dispatched_first
  obtain ⟨second, hsecond⟩ := exists_dispatched
    "5d0c7b1e-0000-4000-8000-000000000003" (by decide +kernel) (by decide +kernel)
  have hshort : (strip (sampleStrategy.strategyId ++ "-")).toList.length ≤ 20 := by decide +kernel
  refine ⟨first, second, hfirst, hsecond, ?_, ?_⟩
  · rw [first.sentId_eq_clientOrderId_iff.mpr hshort, first.clientOrderId_order, hfirst]
    decide +kernel
  · rw [second.sentId_eq_clientOrderId_iff.mpr hshort, second.clientOrderId_order, hsecond]
    decide +kernel

end DispatchedDecision

end OpenTrader.Api
