import OpenTrader.Agent.Limits
import OpenTrader.Api.Dispatch
import OpenTrader.Execution.Validation

/-!
# From an intent to an order

Library `Api`. The way of a REAL intent: the orchestrator builds it,
`services/agent_orchestrator/orchestrator.py:402-451`, the Go handler decodes it and turns it into
a command, `services/real_execution_go/internal/service/envelope.go:35-104` and `handler.go:78-137`,
and the dispatch endpoint checks the command, `services/api/routers/internal.py:23-106`. The
orchestrator copies the exchange of the market message and the order entries of the language
model as they are; the handler and the endpoint each have a list of what they accept.
-/

namespace OpenTrader.Api
open Base Market Execution Agent

/-- The JSON of a text with `omitempty`, as the endpoint reads it. -/
def omitEmpty (text : String) : Option String := if text = "" then none else some text

/-- The body the bridge client posts for a command;
`services/real_execution_go/internal/bridge/contracts.go:34-51`. -/
def commandBody (c : Command) : ExecutionDispatchCommand :=
  { commandId := c.commandId
    operation :=
      match c.operation with
      | .createOrder => .createOrder
      | .cancelOrder => .cancelOrder
    action := c.action
    exchange := c.exchange
    symbol := c.symbol
    quantity := c.quantity
    orderType := c.orderType.name
    timeInForce := omitEmpty c.timeInForce
    limitPrice := c.limitPrice
    triggerPrice := c.triggerPrice
    reduceOnly := c.reduceOnly
    idempotencyKey := c.idempotencyKey
    clientOrderId := omitEmpty c.clientOrderId
    exchangeOrderId := omitEmpty c.exchangeOrderId
    traceId := c.traceId
    decisionId := c.decisionId }

/-- Who refuses an intent on its way to the adapter. -/
inductive IntentRefusal where
  | handler (message : String)
  | endpoint (error : HttpError)
  deriving DecidableEq

/-- The field checks of the endpoint: the body, the names of exchange, order type and time in
force, and the order's own fields. -/
def checkedPayload (c : ExecutionDispatchCommand) : Except HttpError DispatchPayload := do
  validateBody c
  let exchange ← (normalizeExchange c.exchange).mapError (·.toHttp)
  let orderType ← (normalizeOrderType c.orderType).mapError (·.toHttp)
  let timeInForce ← (normalizeTimeInForce c.timeInForce).mapError (·.toHttp)
  let payload := c.payload exchange orderType timeInForce
  (checkOperation payload).mapError (·.toHttp)
  return payload

/-- The payload an intent brings to the adapter, through the handler and the endpoint. -/
def dispatchIntent (intent : IntentEnvelope) : Except IntentRefusal DispatchPayload := do
  let envelope ← (decodeEnvelope intent).mapError .handler
  let command ← (toBridgeCommand envelope).mapError .handler
  (checkedPayload (commandBody command.1)).mapError .endpoint

/-! ### The entries that are accepted -/

/-- The order entries of a language model; there are none without an execution suggestion. -/
def orderEntries (suggestions : Suggestions) : ConstraintUpdate :=
  (suggestions.execution.map (·.constraints)).getD {}

/-- A price as the handler reads it: `none` for what is no number. -/
def jsonPrice : NumField → Option (Option ℚ)
  | .absent | .null => some none
  | .num value => some (some value)
  | .invalid _ => none

/-- The order type of an intent. -/
def intentOrderType (entries : ConstraintUpdate) : String :=
  let orderType := upper (strip (entries.orderType.getD "MARKET"))
  if orderType = "" then "MARKET" else orderType

/-- The time in force of an intent. -/
def intentTimeInForce (entries : ConstraintUpdate) : Option String :=
  if entries.timeInForce.any (strip · ≠ "") then entries.timeInForce
  else if intentOrderType entries = "LIMIT" then some "GTC"
  else none

/-- The exchange of an intent. -/
def intentExchange (context : MarketContext) : String :=
  let exchange := lower (strip context.exchange)
  if exchange = "" then "binance" else exchange

/-- The order type is known, and the prices are numbers it takes. -/
def OrderTypeAccepted (entries : ConstraintUpdate) : Prop :=
  ∃ orderType limitPrice triggerPrice, orderType.name = intentOrderType entries ∧
    jsonPrice entries.limitPrice = some limitPrice ∧
    jsonPrice entries.triggerPrice = some triggerPrice ∧
    PricesFit limitPrice triggerPrice orderType

/-- The entries of an intent that the handler and the endpoint both accept. -/
structure EntriesAccepted (context : MarketContext) (entries : ConstraintUpdate) (quantity : ℚ) :
    Prop where
  symbol : trimSpace context.symbol ≠ ""
  exchange : lower (strip context.exchange) ∈ ["", "binance", "bitget"]
  orderType : OrderTypeAccepted entries
  timeInForce : ∀ text ∈ entries.timeInForce, strip text ≠ "" →
    upper (strip text) ∈ ["GTC", "IOC", "FOK"]
  quantity : 1 / 1000000000 ≤ |quantity|

/-! ### The intent of a decision -/

/-- The decision has the order entries `entries`. -/
structure HasEntries (entries : ConstraintUpdate) (decision : ExecutionDecision) : Prop where
  orderType : decision.constraints.orderType = entries.orderType
  timeInForce : decision.constraints.timeInForce = entries.timeInForce
  limitPrice : decision.constraints.limitPrice = entries.limitPrice
  triggerPrice : decision.constraints.triggerPrice = entries.triggerPrice

private theorem hasEntries_runAgents (suggestions : Suggestions) (context : MarketContext)
    (strategy : StrategyConfig) :
    HasEntries (orderEntries suggestions) (runAgents suggestions context strategy).decision := by
  cases h : suggestions.execution with
  | none => constructor <;> simp [runAgents, orderEntries, h, applyExecutionSuggestion] <;> rfl
  | some suggestion =>
    have hfield (field : NumField) : field.orElse .absent = field := by cases field <;> rfl
    constructor
    all_goals simp only [runAgents, orderEntries, h, applyExecutionSuggestion, Constraints.update]
    exacts [Option.or_none, Option.or_none, hfield _, hfield _]

section

variable {now : UtcStamp} {envelope : MarketEnvelope} {strategy : StrategyConfig}
  {context : MarketContext} {decision : ExecutionDecision} {entries : ConstraintUpdate}

private def goPayload (strategy : StrategyConfig) (context : MarketContext) (decisionId : String)
    (decision : ExecutionDecision) (entries : ConstraintUpdate)
    (limitPrice triggerPrice : Option ℚ) : GoIntentPayload :=
  { strategyId := strategy.strategyId
    exchange := intentExchange context
    symbol := context.symbol
    action := decision.action.name
    orderType := intentOrderType entries
    timeInForce := (intentTimeInForce entries).getD ""
    limitPrice
    triggerPrice
    reduceOnly := decide (decision.action = .close)
    quantity := decision.quantity
    clientOrderId := decision.constraints.clientOrderId.getD
      (strategy.strategyId ++ "-" ++ String.ofList (decisionId.toList.take 12)) }

private theorem decodePayload_intentPayload (h : HasEntries entries decision) {decisionId : String}
    {p : GoIntentPayload} :
    decodePayload (intentPayload strategy context decisionId decision) = .ok p ↔
      ∃ limitPrice, jsonPrice entries.limitPrice = some limitPrice ∧
      ∃ triggerPrice, jsonPrice entries.triggerPrice = some triggerPrice ∧
      goPayload strategy context decisionId decision entries limitPrice triggerPrice = p := by
  have hnumber (field : String) (value : NumField) (price : Option ℚ) :
      decodeNumber field (orNull value) = .ok price ↔ jsonPrice value = some price := by
    cases value <;> simp [orNull, NumField.orElse, decodeNumber, jsonPrice]
  have hq (field : String) (value : ℚ) :
      decodeNumber field (.num value) = .ok (some value) := rfl
  simp only [decodePayload, intentPayload, bind_eq_ok_iff, pure_eq_ok_iff, hnumber, hq,
    h.limitPrice, h.triggerPrice, h.orderType, h.timeInForce, Except.ok.injEq, exists_eq_left',
    Option.getD_some]
  rfl

private def goEnvelope (now : UtcStamp) (envelope : MarketEnvelope) (strategy : StrategyConfig)
    (context : MarketContext) (decision : ExecutionDecision) (entries : ConstraintUpdate)
    (limitPrice triggerPrice : Option ℚ) : GoEnvelope :=
  let mode := envelope.mode.getD ""
  let decisionId := envelope.decisionId.getD ""
  { traceId := envelope.traceId.getD ""
    decisionId
    mode
    idempotencyKey := "execution.intent:" ++ lower mode ++ ":" ++ decisionId
    eventType := "execution.intent.created"
    emittedAt := now.text
    payload :=
      goPayload strategy context decisionId decision entries limitPrice triggerPrice }

private theorem texts_of_valid (hv : validateEnvelope envelope = .ok ()) :
    trimSpace (envelope.traceId.getD "") ≠ "" ∧ trimSpace (envelope.decisionId.getD "") ≠ "" := by
  obtain ⟨htrace, hdec, -⟩ := (validateEnvelope_ok_iff envelope).mp hv
  have huuid {text : Option String} (h : text.any isUuid = true) :
      trimSpace (text.getD "") ≠ "" := by
    cases text with
    | none => cases h
    | some text => exact trimSpace_ne_empty (strip_ne_empty_of_isUuid h)
  exact ⟨huuid htrace, huuid hdec⟩

private theorem intentExchange_ne_blank (context : MarketContext) :
    trimSpace (intentExchange context) ≠ "" := by
  apply trimSpace_ne_empty
  unfold intentExchange
  dsimp only
  split_ifs with h
  · decide +kernel
  · rw [strip_lower_strip]
    exact h

-- The handler normalizes an order type that the orchestrator has normalized.
private theorem handlerOrderType_intentOrderType (entries : ConstraintUpdate) :
    handlerOrderType (intentOrderType entries) = intentOrderType entries := by
  unfold intentOrderType
  dsimp only
  split_ifs with h
  · decide +kernel
  · rw [handlerOrderType, trimSpace_of_stripped (strip_upper_strip _), upper_upper, if_neg h]

private theorem intentTimeInForce_of_limit (h : intentOrderType entries = "LIMIT") :
    strip ((intentTimeInForce entries).getD "") ≠ "" := by
  unfold intentTimeInForce
  rw [if_pos h]
  split_ifs with hgiven
  · cases htext : entries.timeInForce with
    | none => rw [htext] at hgiven; cases hgiven
    | some text => simpa [htext] using hgiven
  · change strip "GTC" ≠ ""
    decide +kernel

private theorem validateOrderType_goPayload (strategy : StrategyConfig) (context : MarketContext)
    (decisionId : String) (decision : ExecutionDecision) {limitPrice triggerPrice : Option ℚ} :
    (goPayload strategy context decisionId decision entries limitPrice
        triggerPrice).validateOrderType = .ok () ↔
      ∃ orderType : Execution.OrderType, orderType.name = intentOrderType entries ∧
        PricesFit limitPrice triggerPrice orderType := by
  rw [GoIntentPayload.validateOrderType_eq_ok_iff]
  refine exists_congr fun orderType => ?_
  change orderType.name = handlerOrderType (intentOrderType entries) ∧
    TermsFit limitPrice triggerPrice ((intentTimeInForce entries).getD "") orderType ↔ _
  rw [handlerOrderType_intentOrderType]
  refine and_congr_right fun hname => ⟨fun h => h.prices, fun h => ⟨h, ?_⟩⟩
  rintro rfl
  exact trimSpace_ne_empty (intentTimeInForce_of_limit hname.symm)

private theorem validate_goEnvelope (hv : validateEnvelope envelope = .ok ())
    (hreal : envelope.mode = some "REAL") {limitPrice triggerPrice : Option ℚ} :
    (goEnvelope now envelope strategy context decision entries limitPrice
        triggerPrice).validate = .ok () ↔
      trimSpace context.symbol ≠ "" ∧ ∃ orderType : Execution.OrderType,
        orderType.name = intentOrderType entries ∧ PricesFit limitPrice triggerPrice orderType := by
  obtain ⟨htrace, hdec⟩ := texts_of_valid hv
  have hk (tail : String) : trimSpace ("execution.intent:" ++ tail) ≠ "" :=
    trimSpace_ne_empty (strip_append_ne_empty tail (by decide +kernel))
  obtain ⟨hmode, htype⟩ : upper (trimSpace "REAL") = "REAL" ∧
      trimSpace "execution.intent.created" = "execution.intent.created" := by decide +kernel
  have hact : trimSpace decision.action.name ≠ "" := by
    cases decision.action <;> decide +kernel
  refine Iff.trans ?_ (and_congr_right fun _ =>
    validateOrderType_goPayload strategy context (envelope.decisionId.getD "") decision)
  unfold goEnvelope
  dsimp only
  generalize hbody : goPayload strategy context (envelope.decisionId.getD "") decision entries
    limitPrice triggerPrice = p
  obtain ⟨hsym, hexchange, hname⟩ : p.symbol = context.symbol ∧
      p.exchange = intentExchange context ∧ p.action = decision.action.name := by
    rw [← hbody]
    exact ⟨rfl, rfl, rfl⟩
  simp only [GoEnvelope.validate, hreal, Option.getD_some, String.append_assoc,
    guard_eq_ok_iff, hsym, hexchange, hname, hmode, htype]
  simp only [htrace, hdec, hk, hact, intentExchange_ne_blank, ne_eq, not_false_eq_true,
    not_true_eq_false, true_and]

private theorem parseBridgeAction_name (h : decision.action ≠ .hold) :
    ∃ action, parseBridgeAction (upper (trimSpace decision.action.name)) = some action ∧
      action ≠ .cancel ∧ (decision.action = .close → action = .close) := by
  cases hact : decision.action with
  | buy => exact ⟨.buy, by decide +kernel, by simp⟩
  | sell => exact ⟨.sell, by decide +kernel, by simp⟩
  | close => exact ⟨.close, by decide +kernel, by simp⟩
  | hold => exact absurd hact h

/-- What the command for a decision has. -/
private structure Sends (context : MarketContext) (decision : ExecutionDecision)
    (entries : ConstraintUpdate) (limitPrice triggerPrice : Option ℚ)
    (orderType : Execution.OrderType) (c : Command) : Prop where
  commandId : trimSpace c.commandId ≠ ""
  idempotencyKey : trimSpace c.idempotencyKey ≠ ""
  traceId : trimSpace c.traceId ≠ ""
  decisionId : trimSpace c.decisionId ≠ ""
  operation : c.operation = .createOrder
  create : c.action ≠ .cancel
  close : decision.action = .close → c.action = .close
  exchange : c.exchange = intentExchange context
  symbol : c.symbol = context.symbol
  quantity : c.quantity = |decision.quantity|
  orderType : c.orderType = orderType
  timeInForce : c.timeInForce = trimSpace (upper (trimSpace ((intentTimeInForce entries).getD "")))
  limitPrice : c.limitPrice = limitPrice
  triggerPrice : c.triggerPrice = triggerPrice

section

variable {limitPrice triggerPrice : Option ℚ} {orderType : Execution.OrderType} {c : Command}

private theorem toBridgeCommand_goEnvelope
    (hval : (goEnvelope now envelope strategy context decision entries limitPrice
      triggerPrice).validate = .ok ())
    (htrades : decision.action ≠ .hold) (hq : decision.quantity ≠ 0)
    (hname : orderType.name = intentOrderType entries) :
    ∃ c key, toBridgeCommand (goEnvelope now envelope strategy context decision entries limitPrice
        triggerPrice) = .ok (c, key) ∧
      Sends context decision entries limitPrice triggerPrice orderType c := by
  obtain ⟨action, hparse, hcreate, hclose⟩ := parseBridgeAction_name htrades
  obtain ⟨htrace, hdec, -, hk, -⟩ := GoEnvelope.validate_eq_ok_iff.mp hval
  refine ⟨_, _, toBridgeCommand_create hval hparse hcreate hq, ?_⟩
  refine ⟨trimSpace_commandId _, hk, htrace, hdec, rfl, hcreate, hclose, rfl, rfl, rfl, ?_,
    rfl, rfl, rfl⟩
  change Execution.normalizeOrderType (handlerOrderType (intentOrderType entries)) = orderType
  rw [handlerOrderType_intentOrderType, ← hname, Execution.normalizeOrderType_name]

end

/-! ### The endpoint -/

private theorem normalizeExchange_intentExchange (context : MarketContext) :
    (∃ exchange, normalizeExchange (intentExchange context) = .ok exchange) ↔
      lower (strip context.exchange) ∈ ["", "binance", "bitget"] := by
  have hdefault : lower (strip "binance") = "binance" := by decide +kernel
  unfold intentExchange
  dsimp only
  by_cases h : lower (strip context.exchange) = ""
  · simp [h, normalizeExchange, hdefault]
  · rw [if_neg h, normalizeExchange, strip_lower_strip, lower_lower]
    split_ifs with hbinance hbitget
    · simp [hbinance]
    · simp [hbitget]
    · simp [h, hbinance, hbitget]

private theorem normalizeTimeInForce_wire (text : String) :
    normalizeTimeInForce (omitEmpty (trimSpace (upper (trimSpace text)))) =
      normalizeTimeInForce (some text) := by
  have homit (x : String) : (omitEmpty x).getD "" = x := by
    unfold omitEmpty
    split_ifs with h
    · exact h.symm
    · rfl
  simp only [normalizeTimeInForce, homit, Option.getD_some, strip_trimSpace, strip_upper,
    upper_upper]

private theorem normalizeTimeInForce_isOk_iff (text : String) :
    (∃ timeInForce, normalizeTimeInForce (some text) = .ok timeInForce) ↔
      upper (strip text) ∈ ["", "GTC", "IOC", "FOK"] := by
  simp only [normalizeTimeInForce, Option.getD_some]
  split_ifs with hblank hgtc hioc hfok
  · simp [hblank]
  · simp [hgtc]
  · simp [hioc]
  · simp [hfok]
  · simp [hblank, hgtc, hioc, hfok]

private theorem normalizeTimeInForce_isSome {text : String} {timeInForce : Option TimeInForce}
    (h : normalizeTimeInForce (some text) = .ok timeInForce) (hgiven : strip text ≠ "") :
    timeInForce.isSome = true := by
  simp only [normalizeTimeInForce, Option.getD_some] at h
  rw [if_neg (mt (upper_eq_empty_iff _).mp hgiven)] at h
  split_ifs at h <;> cases h <;> rfl

private theorem intentTimeInForce_accepted (entries : ConstraintUpdate) :
    upper (strip ((intentTimeInForce entries).getD "")) ∈ ["", "GTC", "IOC", "FOK"] ↔
      ∀ text ∈ entries.timeInForce, strip text ≠ "" →
        upper (strip text) ∈ ["GTC", "IOC", "FOK"] := by
  have hdefault : upper (strip "GTC") = "GTC" ∧ upper (strip "") = "" := by decide +kernel
  unfold intentTimeInForce
  by_cases hgiven : entries.timeInForce.any (strip · ≠ "") = true
  · rw [if_pos hgiven]
    cases htext : entries.timeInForce with
    | none => rw [htext] at hgiven; cases hgiven
    | some text =>
      have hne : strip text ≠ "" := by simpa [htext] using hgiven
      simp [hne]
  · rw [if_neg hgiven]
    apply iff_of_true
    · split_ifs <;> simp [hdefault]
    · intro text htext hne
      rw [Option.mem_def] at htext
      simp [htext, hne] at hgiven

section

variable {limitPrice triggerPrice : Option ℚ} {orderType : Execution.OrderType} {c : Command}

private theorem validateCreateOrderFields_eq_ok_iff {timeInForce : Option TimeInForce}
    {quantity : ℚ} (hfit : PricesFit limitPrice triggerPrice orderType)
    (htif : orderType = .limit → timeInForce.isSome = true) :
    validateCreateOrderFields orderType timeInForce quantity limitPrice triggerPrice = .ok () ↔
      1 / 1000000000 ≤ quantity := by
  unfold validateCreateOrderFields
  rw [guard_eq_ok_iff, not_lt]
  apply and_iff_left
  cases orderType with
  | market => simp [hfit.1, hfit.2]
  | limit =>
    have hsome := Option.isSome_iff_ne_none.mp (htif rfl)
    simp [hfit.1, hfit.2, hsome]
  | stopMarket | takeProfitMarket => simp [hfit.1, hfit.2]

private theorem checkedPayload_commandBody
    (h : Sends context decision entries limitPrice triggerPrice orderType c)
    (hsym : trimSpace context.symbol ≠ "") (hname : orderType.name = intentOrderType entries)
    (hfit : PricesFit limitPrice triggerPrice orderType) :
    (∃ payload, checkedPayload (commandBody c) = .ok payload) ↔
      lower (strip context.exchange) ∈ ["", "binance", "bitget"] ∧
      (∀ text ∈ entries.timeInForce, strip text ≠ "" →
        upper (strip text) ∈ ["GTC", "IOC", "FOK"]) ∧
      1 / 1000000000 ≤ |decision.quantity| := by
  have hbody : validateBody (commandBody c) = .ok () := by
    have hne {text : String} (h : trimSpace text ≠ "") : text ≠ "" := by
      rintro rfl
      exact h (by decide +kernel)
    have hnamed : c.orderType.name ≠ "" := by cases c.orderType <;> decide
    have hexchange : c.exchange ≠ "" := by
      rw [h.exchange]
      exact hne (intentExchange_ne_blank context)
    rw [← h.symbol] at hsym
    simp [validateBody_eq_ok_iff, ExecutionDispatchCommand.requiredTexts, commandBody,
      hne h.commandId, hexchange, hne hsym, hnamed, hne h.idempotencyKey, hne h.traceId,
      hne h.decisionId]
  have htype : normalizeOrderType (commandBody c).orderType = .ok orderType := by
    change normalizeOrderType c.orderType.name = .ok orderType
    rw [h.orderType]
    cases orderType <;> decide +kernel
  have hforce : normalizeTimeInForce (commandBody c).timeInForce =
      normalizeTimeInForce (some ((intentTimeInForce entries).getD "")) := by
    change normalizeTimeInForce (omitEmpty c.timeInForce) = _
    rw [h.timeInForce]
    exact normalizeTimeInForce_wire _
  have hfields {venue : Exchange} {timeInForce : Option TimeInForce}
      (hforced : normalizeTimeInForce (some ((intentTimeInForce entries).getD "")) =
        .ok timeInForce) :
      checkOperation ((commandBody c).payload venue orderType timeInForce) = .ok () ↔
        1 / 1000000000 ≤ |decision.quantity| := by
    have hlimit : orderType = .limit → timeInForce.isSome = true := by
      rintro rfl
      exact normalizeTimeInForce_isSome hforced (intentTimeInForce_of_limit hname.symm)
    rw [← validateCreateOrderFields_eq_ok_iff hfit hlimit, ← h.quantity, ← h.limitPrice,
      ← h.triggerPrice]
    simp only [checkOperation, commandBody, ExecutionDispatchCommand.payload, h.operation]
  rw [← normalizeExchange_intentExchange, ← intentTimeInForce_accepted,
    ← normalizeTimeInForce_isOk_iff, ← h.exchange]
  simp only [checkedPayload, bind_eq_ok_iff, pure_eq_ok_iff, mapError_eq_ok_iff, hforce, htype]
  constructor
  · rintro ⟨payload, _, -, venue, hvenue, _, ⟨⟩, timeInForce, hforced, _, hcheck, -⟩
    exact ⟨⟨venue, hvenue⟩, ⟨timeInForce, hforced⟩, (hfields hforced).mp hcheck⟩
  · rintro ⟨⟨venue, hvenue⟩, ⟨timeInForce, hforced⟩, hq⟩
    exact ⟨_, (), hbody, venue, hvenue, orderType, rfl, timeInForce, hforced, (),
      (hfields hforced).mpr hq, rfl⟩

end

private theorem dispatchIntent_isOk_iff (now : UtcStamp) (strategy : StrategyConfig)
    (context : MarketContext) (hv : validateEnvelope envelope = .ok ())
    (hreal : envelope.mode = some "REAL") (hentries : HasEntries entries decision)
    (htrades : decision.action ≠ .hold) (hq : decision.quantity ≠ 0) :
    (∃ payload, dispatchIntent (intentEnvelope now envelope strategy context decision) =
        .ok payload) ↔
      EntriesAccepted context entries decision.quantity := by
  have hdecode {e : GoEnvelope} :
      decodeEnvelope (intentEnvelope now envelope strategy context decision) = .ok e ↔
        ∃ limitPrice, jsonPrice entries.limitPrice = some limitPrice ∧
        ∃ triggerPrice, jsonPrice entries.triggerPrice = some triggerPrice ∧
        (goEnvelope now envelope strategy context decision entries limitPrice
          triggerPrice).validate = .ok () ∧
        goEnvelope now envelope strategy context decision entries limitPrice triggerPrice = e := by
    simp only [decodeEnvelope, intentEnvelope, Option.map_some, Option.getD_some, bind_eq_ok_iff,
      pure_eq_ok_iff, decodePayload_intentPayload hentries]
    constructor
    · rintro ⟨p, ⟨limitPrice, hlimit, triggerPrice, htrigger, rfl⟩, _, hval, rfl⟩
      exact ⟨limitPrice, hlimit, triggerPrice, htrigger, hval, rfl⟩
    · rintro ⟨limitPrice, hlimit, triggerPrice, htrigger, hval, rfl⟩
      exact ⟨_, ⟨limitPrice, hlimit, triggerPrice, htrigger, rfl⟩, (), hval, rfl⟩
  simp only [dispatchIntent, bind_eq_ok_iff, mapError_eq_ok_iff, hdecode]
  constructor
  · rintro ⟨payload, e, ⟨limitPrice, hlimit, triggerPrice, htrigger, hval, rfl⟩, command,
      hcmd, hbody⟩
    obtain ⟨hsym, orderType, hname, hfit⟩ := (validate_goEnvelope hv hreal).mp hval
    obtain ⟨c, key, hbuilt, hsends⟩ :=
      toBridgeCommand_goEnvelope hval htrades hq hname
    rw [hbuilt] at hcmd
    cases hcmd
    obtain ⟨hexchange, htif, hsize⟩ :=
      (checkedPayload_commandBody hsends hsym hname hfit).mp ⟨payload, hbody⟩
    exact ⟨hsym, hexchange, ⟨orderType, limitPrice, triggerPrice, hname, hlimit, htrigger,
      hfit⟩, htif, hsize⟩
  · rintro ⟨hsym, hexchange, ⟨orderType, limitPrice, triggerPrice, hname, hlimit, htrigger,
      hfit⟩, htif, hsize⟩
    have hval := (@validate_goEnvelope now envelope strategy context decision entries hv
      hreal limitPrice triggerPrice).mpr
      ⟨hsym, orderType, hname, hfit⟩
    obtain ⟨c, key, hbuilt, hsends⟩ :=
      toBridgeCommand_goEnvelope hval htrades hq hname
    obtain ⟨payload, hbody⟩ :=
      (checkedPayload_commandBody hsends hsym hname hfit).mpr ⟨hexchange, htif, hsize⟩
    exact ⟨payload, _, ⟨limitPrice, hlimit, triggerPrice, htrigger, hval, rfl⟩, (c, key),
      hbuilt, hbody⟩

end

/-- Every REAL intent of a message reaches the adapter exactly when a decision to trade on a REAL
message has accepted entries. -/
theorem real_intents_dispatched_iff (now : UtcStamp) (suggestions : Suggestions)
    (strategy : StrategyConfig) (m : CanonicalMessage) :
    let context := m.context strategy
    let c := m.conclusion suggestions strategy
    (∀ key intent, m.intent now suggestions strategy = some (key, intent) →
        intent.mode = some "REAL" → ∃ payload, dispatchIntent intent = .ok payload) ↔
      (m.envelope.mode = some "REAL" → c.Trades strategy context →
        EntriesAccepted context (orderEntries suggestions) c.decision.quantity) := by
  intro context c
  have hmode := (validateEnvelope_intentEnvelope now m.valid strategy context c.decision).2
  have hentries : HasEntries (orderEntries suggestions) c.decision :=
    hasEntries_runAgents suggestions context strategy
  have hdispatch (hreal : m.envelope.mode = some "REAL") (htrades : c.Trades strategy context) :=
    dispatchIntent_isOk_iff now strategy context m.valid hreal hentries htrades.2.2.executable
      htrades.2.2.quantity_ne_zero
  constructor
  · intro h hreal htrades
    obtain ⟨key, -, hintent⟩ := m.intent_of_trades now suggestions strategy htrades
    exact (hdispatch hreal htrades).mp (h _ _ hintent (hmode.trans hreal))
  · intro h key' intent hsent hintentReal
    obtain ⟨htrades, rfl⟩ := m.trades_of_intent now suggestions strategy hsent
    have hreal := hmode.symm.trans hintentReal
    exact (hdispatch hreal htrades).mpr (h hreal htrades)

/-- A message without an exchange is traded on `unknown`, which the endpoint refuses, and a limit
price that the language model adds to a market order is refused by the handler. -/
theorem real_intents_refused :
    let unnamed := sampleMessage true { sampleBook with exchange := none }
    let priced : Suggestions := { execution := some { constraints := { limitPrice := .num 100 } } }
    let m := sampleMessage true sampleBook
    (unnamed.intent sampleTime {} sampleStrategy).map
        (fun sent => (sent.1, dispatchIntent sent.2)) =
      some ("execution.intent.real", .error (.endpoint
        ⟨422, "unsupported exchange: unknown; allowed=['binance', 'bitget']"⟩)) ∧
    (m.intent sampleTime priced sampleStrategy).map (fun sent => (sent.1, dispatchIntent sent.2)) =
      some ("execution.intent.real",
        .error (.handler "payload.limit_price is not allowed for MARKET")) := by
  intro unnamed priced m
  have hunnamed : (unnamed.conclusion {} sampleStrategy).shouldPublishIntent = true := by
    decide +kernel
  have hpriced : (m.conclusion priced sampleStrategy).shouldPublishIntent = true := by
    decide +kernel
  rw [intent_sampleMessage hunnamed, intent_sampleMessage hpriced]
  constructor <;> decide +kernel

end OpenTrader.Api
