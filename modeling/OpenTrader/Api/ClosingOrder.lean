import OpenTrader.Api.IntentDispatch

/-!
# Closing a position

Library `Api`. A CLOSE on its way to an exchange: the orchestrator writes the opposite of the
position as the signed quantity of the intent,
`services/agent_orchestrator/execution_decision_agent.py:79-116`, the Go handler takes the size of
it, `services/real_execution_go/internal/service/handler.go:96-117`, and the adapter derives the
side from the action alone, `services/api/internal_execution/adapters.py:118-136,273-313,611-619`.
-/

namespace OpenTrader.Api
open Base Market Execution Agent

/-! ### What a request orders -/

namespace SignedRequest

/-- The side of an order. -/
def side (r : SignedRequest) : Option String :=
  (r.query ++ r.body).findSome? fun (key, value) =>
    match value with
    | .text text => if key = "side" then some (upper text) else none
    | .decimal _ => none

/-- The size of an order, `quantity` for one exchange and `size` for the other. -/
def size (r : SignedRequest) : Option ℚ :=
  (r.query ++ r.body).findSome? fun (key, value) =>
    match value with
    | .text _ => none
    | .decimal q => if key = "quantity" ∨ key = "size" then some q else none

/-- What the complete fill of the order adds to a position. -/
def fill (r : SignedRequest) : ℚ :=
  if r.side = some "BUY" then r.size.getD 0 else -r.size.getD 0

end SignedRequest

/-- The request of a signed adapter that creates an order. -/
def createRequest (payload : DispatchPayload) : Except DispatchError SignedRequest :=
  (SpotAdapter.mk payload.exchange true).request .createOrder payload

private theorem decimalParam_eq_ok {key : String} {value : Option ℚ} {params : Params}
    (h : decimalParam key value = .ok params) :
    ∃ q, value = some q ∧ params = [(key, .decimal q)] := by
  unfold decimalParam at h
  cases value with
  | none => cases h
  | some q => exact ⟨q, rfl, (Except.ok.inj (guard_eq_ok_iff.mp h).2).symm⟩

private theorem side_texts (action : Action) :
    let side := resolveExchangeSide action
    strip side = side ∧ side ≠ "" ∧ upper side = side ∧ upper (lower side) = side := by
  cases action <;> decide +kernel

variable {payload : DispatchPayload}

private theorem binanceCreateRequest_eq_ok {r : SignedRequest}
    (h : binanceCreateRequest payload = .ok r) :
    ∃ symbol rest, r.body = [] ∧
      r.query = renderParams ([("symbol", .text symbol),
        ("side", .text (resolveExchangeSide payload.action)),
        ("type", .text (binanceOrderType payload.orderType)),
        ("quantity", .decimal payload.quantity)] ++ rest) := by
  unfold binanceCreateRequest at h
  simp only [bind_eq_ok_iff] at h
  obtain ⟨symbol, -, quantity, hq, h⟩ := h
  obtain ⟨q, ⟨⟩, rfl⟩ := decimalParam_eq_ok hq
  simp only [List.cons_append, List.nil_append, List.append_assoc] at h ⊢
  split at h
  all_goals
    obtain ⟨price, -, h⟩ := bind_eq_ok_iff.mp h
    split at h
    all_goals
      obtain ⟨stop, -, h⟩ := bind_eq_ok_iff.mp h
      cases h
      exact ⟨symbol, _, rfl, rfl⟩

private theorem createRequest_orders {r : SignedRequest} (h : createRequest payload = .ok r) :
    r.side = some (resolveExchangeSide payload.action) ∧ r.size = some payload.quantity := by
  obtain ⟨hstrip, hne, hupper, hlower⟩ := side_texts payload.action
  unfold createRequest SpotAdapter.request at h
  cases hexchange : payload.exchange with
  | binance =>
    rw [hexchange] at h
    obtain ⟨symbol, rest, hbody, hquery⟩ := binanceCreateRequest_eq_ok h
    have htype : strip (binanceOrderType payload.orderType) ≠ "" := by
      cases payload.orderType <;> decide +kernel
    by_cases hsym : strip symbol = "" <;>
      simp [SignedRequest.side, SignedRequest.size, hbody, hquery, renderParams, hsym, hstrip,
        hne, hupper, htype]
  | bitget =>
    rw [hexchange] at h
    unfold bitgetCreateRequest at h
    simp only [bind_eq_ok_iff] at h
    obtain ⟨symbol, -, h⟩ := h
    split at h
    · simp only [bind_eq_ok_iff] at h
      obtain ⟨trigger, htrigger, size, hsize, h⟩ := h
      obtain ⟨price, -, rfl⟩ := decimalParam_eq_ok htrigger
      obtain ⟨q, ⟨⟩, rfl⟩ := decimalParam_eq_ok hsize
      cases h
      simp [SignedRequest.side, SignedRequest.size, hlower]
    · obtain ⟨size, hsize, h⟩ := bind_eq_ok_iff.mp h
      obtain ⟨q, ⟨⟩, rfl⟩ := decimalParam_eq_ok hsize
      split at h
      all_goals
        obtain ⟨price, -, h⟩ := bind_eq_ok_iff.mp h
        cases h
        simp [SignedRequest.side, SignedRequest.size, hlower]

/-! ### A closing order -/

/-- The order for a CLOSE: a REAL intent of the orchestrator that reaches a signed adapter. -/
structure ClosingOrder where
  now : UtcStamp
  suggestions : Suggestions
  strategy : StrategyConfig
  message : CanonicalMessage
  routingKey : String
  intent : IntentEnvelope
  payload : DispatchPayload
  request : SignedRequest
  published : message.intent now suggestions strategy = some (routingKey, intent)
  real : intent.mode = some "REAL"
  closes : intent.payload.bind (·.action) = some "CLOSE"
  dispatched : dispatchIntent intent = .ok payload
  created : createRequest payload = .ok request

private theorem payload_of_dispatchIntent {intent : IntentEnvelope} {p : IntentPayload}
    {quantity : ℚ} {action : Action} (hbody : intent.payload = some p)
    (hact : parseBridgeAction (upper (trimSpace (p.action.getD ""))) = some action)
    (hcreate : action ≠ .cancel) (hq : p.quantity = .num quantity)
    (h : dispatchIntent intent = .ok payload) :
    payload.action = action ∧ payload.quantity = |quantity| := by
  simp only [dispatchIntent, bind_eq_ok_iff, mapError_eq_ok_iff] at h
  obtain ⟨e, he, ⟨c, key⟩, hc, hchecked⟩ := h
  obtain ⟨hdecoded, -⟩ := decodeEnvelope_eq_ok he hbody
  obtain ⟨-, hsame, -, hnumber⟩ := decodePayload_eq_ok hdecoded
  obtain ⟨parsed, hparsed, hbuilt, -⟩ := toBridgeCommand_eq_ok hc
  rw [hsame, hact] at hparsed
  cases hparsed
  obtain ⟨-, hbuiltAction, hsize, -⟩ := bridgeCommand_eq_ok hbuilt hcreate
  rw [hq] at hnumber
  cases hnumber
  simp only [checkedPayload, bind_eq_ok_iff, pure_eq_ok_iff] at hchecked
  obtain ⟨_, -, _, -, _, -, _, -, _, -, rfl⟩ := hchecked
  exact ⟨hbuiltAction, hsize⟩

namespace ClosingOrder

variable (o : ClosingOrder)

/-- The position of the message. -/
def position : ℚ := (o.message.context o.strategy).currentPosition

/-- The quantity the language model sets for the execution, or what the agents decide without. -/
def quantity : ℚ :=
  (o.suggestions.execution.bind (·.quantity)).getD
    (o.message.conclusion { o.suggestions with execution := none } o.strategy).decision.quantity

private theorem decision_quantity :
    (o.message.conclusion o.suggestions o.strategy).decision.quantity = o.quantity := by
  unfold quantity CanonicalMessage.conclusion runAgents
  cases o.suggestions.execution <;> rfl

private theorem decision_action :
    (o.message.conclusion o.suggestions o.strategy).decision.action = .close := by
  have hcloses := o.closes
  rw [(o.message.trades_of_intent o.now o.suggestions o.strategy o.published).2] at hcloses
  have hname := Option.some.inj hcloses
  cases hact : (o.message.conclusion o.suggestions o.strategy).decision.action with
  | close => rfl
  | buy | sell | hold =>
    rw [hact] at hname
    exact absurd hname (by decide)

private theorem fill_eq : o.request.fill = -|o.quantity| ∧ o.quantity ≠ 0 := by
  obtain ⟨htrades, hint⟩ :=
    o.message.trades_of_intent o.now o.suggestions o.strategy o.published
  have hdispatched := o.dispatched
  rw [hint] at hdispatched
  have hparse : parseBridgeAction (upper (trimSpace DecisionAction.close.name)) = some .close := by
    decide +kernel
  rw [← o.decision_action] at hparse
  obtain ⟨hact, hsize⟩ := payload_of_dispatchIntent (p := intentPayload o.strategy _ _ _) rfl
    hparse (by decide) rfl hdispatched
  obtain ⟨hside, hamount⟩ := createRequest_orders o.created
  rw [hact] at hside
  rw [hsize, o.decision_quantity] at hamount
  refine ⟨?_, o.decision_quantity ▸ htrades.2.2.quantity_ne_zero⟩
  rw [SignedRequest.fill, hside, hamount, if_neg (by decide)]
  rfl

/-- The complete fill of a closing order makes the position smaller exactly when the position is
long and less than twice as much is sold. -/
theorem reduces_iff :
    |o.position + o.request.fill| < |o.position| ↔
      0 < o.position ∧ |o.quantity| < 2 * o.position := by
  obtain ⟨hfill, hne⟩ := o.fill_eq
  have hpositive := abs_pos.mpr hne
  rw [hfill]
  rcases le_or_gt o.position 0 with hshort | hlong
  · -- a short position is sold further
    have hsum : o.position + -|o.quantity| ≤ 0 := by linarith
    rw [abs_of_nonpos hsum, abs_of_nonpos hshort]
    constructor
    · intro h
      linarith
    · rintro ⟨hlong, -⟩
      linarith
  · rw [abs_of_pos hlong, abs_lt]
    constructor
    · rintro ⟨hlow, -⟩
      exact ⟨hlong, by linarith⟩
    · rintro ⟨-, hbound⟩
      exact ⟨by linarith, by linarith⟩

end ClosingOrder

/-- A short position of one coin is closed by selling one more. -/
theorem short_position_is_doubled :
    let m := sampleMessage true { sampleBook with currentPosition := .num (-1) }
    let suggestions : Suggestions := { plan := some { action := some .close } }
    let sent := m.intent sampleTime suggestions sampleStrategy
    let position := (m.context sampleStrategy).currentPosition
    position = -1 ∧
      sent.map (fun sent => (sent.1, sent.2.payload.map fun p => (p.action, p.quantity))) =
        some ("execution.intent.real", some (some "CLOSE", .num 1)) ∧
      (sent.bind fun sent => (dispatchIntent sent.2).toOption.bind
          fun payload => (createRequest payload).toOption.map
          fun request => (request.side, request.size, position + request.fill)) =
        some (some "SELL", some 1, -2) := by
  intro m suggestions sent position
  have hpublish : (m.conclusion suggestions sampleStrategy).shouldPublishIntent = true := by
    decide +kernel
  have hsent := intent_sampleMessage hpublish
  rw [show sent = _ from hsent]
  refine ⟨?_, ?_, ?_⟩ <;> decide +kernel

end OpenTrader.Api
