import OpenTrader.Execution.Handler

/-!
# Two validations of an intent

Library `Execution`. `Envelope.Validate`, `internal/service/envelope.go:46-104`, before
`Command.Validate`, `internal/bridge/contracts.go:63-134`. The order type is normalized by the
first, by the handler in between and by the constructor of the command, the last of which takes
any unknown type for MARKET. What the first lets through is one of the four known types, so none
of this is lost on the way.
-/

namespace OpenTrader.Execution
open Base

/-- The prices an order type takes. -/
def PricesFit (limitPrice triggerPrice : Option ℚ) : OrderType → Prop
  | .market => limitPrice = none ∧ triggerPrice = none
  | .limit => limitPrice.any (0 < ·) = true ∧ triggerPrice = none
  | .stopMarket | .takeProfitMarket => triggerPrice.any (0 < ·) = true ∧ limitPrice = none

/-- An order type takes the prices and the time in force. -/
structure TermsFit (limitPrice triggerPrice : Option ℚ) (timeInForce : String)
    (orderType : OrderType) : Prop where
  prices : PricesFit limitPrice triggerPrice orderType
  timeInForce : orderType = .limit → trimSpace timeInForce ≠ ""

/-- The envelope's order type checks pass for a known type that takes the terms. -/
theorem GoIntentPayload.validateOrderType_eq_ok_iff (p : GoIntentPayload) :
    p.validateOrderType = .ok () ↔
      ∃ orderType : OrderType, orderType.name = handlerOrderType p.orderType ∧
        TermsFit p.limitPrice p.triggerPrice p.timeInForce orderType := by
  have hsame : (if upper (trimSpace p.orderType) = "" then "MARKET"
      else upper (trimSpace p.orderType)) = handlerOrderType p.orderType := rfl
  unfold GoIntentPayload.validateOrderType
  dsimp only
  rw [hsame]
  generalize handlerOrderType p.orderType = text
  constructor
  · intro h
    split_ifs at h with hmarket hl ht hlimit hl htif ht hstop ht hl
    · exact ⟨.market, hmarket.symm, ⟨by simpa using hl, by simpa using ht⟩, by simp⟩
    · exact ⟨.limit, hlimit.symm, ⟨by simpa using hl, by simpa using ht⟩, fun _ => htif⟩
    · rcases hstop with hstop | hstop
      · exact ⟨.stopMarket, hstop.symm, ⟨by simpa using ht, by simpa using hl⟩, by simp⟩
      · exact ⟨.takeProfitMarket, hstop.symm, ⟨by simpa using ht, by simpa using hl⟩, by simp⟩
  · rintro ⟨orderType, rfl, hfit, htif⟩
    cases orderType with
    | market => simp [OrderType.name, hfit.1, hfit.2]
    | limit => simp [OrderType.name, hfit.1, hfit.2, htif rfl]
    | stopMarket | takeProfitMarket => simp [OrderType.name, hfit.1, hfit.2]

private theorem Command.validateOrderType_of_termsFit {c : Command}
    (h : TermsFit c.limitPrice c.triggerPrice c.timeInForce c.orderType) :
    c.validateOrderType = .ok () := by
  obtain ⟨hfit, htif⟩ := h
  unfold Command.validateOrderType
  cases htype : c.orderType with
  | market => rw [htype] at hfit; simp [hfit.1, hfit.2]
  | limit => rw [htype] at hfit; simp [hfit.1, hfit.2, htif htype]
  | stopMarket | takeProfitMarket => rw [htype] at hfit; simp [hfit.1, hfit.2]

/-- The name of an order type is read back as it. -/
@[simp] theorem normalizeOrderType_name (orderType : OrderType) :
    normalizeOrderType orderType.name = orderType := by
  cases orderType <;> decide +kernel

private theorem bridgeCommand_create {envelope : GoEnvelope} {action : Action}
    (hcreate : action ≠ .cancel) (hq : envelope.payload.quantity ≠ 0) :
    bridgeCommand envelope action = .ok (createCommand envelope action) := by
  have habs : |envelope.payload.quantity| ≠ 0 := abs_ne_zero.mpr hq
  cases action with
  | cancel => exact absurd rfl hcreate
  | buy | sell | close => exact if_neg habs

section
variable {envelope : GoEnvelope} {action : Action}

/-- A valid envelope names what its command needs, and its order type takes the terms. -/
theorem GoEnvelope.validate_eq_ok_iff :
    envelope.validate = .ok () ↔
      trimSpace envelope.traceId ≠ "" ∧ trimSpace envelope.decisionId ≠ "" ∧
        upper (trimSpace envelope.mode) = "REAL" ∧ trimSpace envelope.idempotencyKey ≠ "" ∧
        trimSpace envelope.eventType = "execution.intent.created" ∧
        trimSpace envelope.payload.symbol ≠ "" ∧ trimSpace envelope.payload.exchange ≠ "" ∧
        trimSpace envelope.payload.action ≠ "" ∧ envelope.payload.validateOrderType = .ok () := by
  simp only [GoEnvelope.validate, guard_eq_ok_iff, ne_eq, not_not]

/-- A command id is not blank. -/
theorem trimSpace_commandId (decisionId : String) : trimSpace ("cmd-" ++ decisionId) ≠ "" :=
  trimSpace_ne_empty (strip_append_ne_empty decisionId (by decide +kernel))

-- The constructor of the command trims the time in force again, and finds it trimmed.
private theorem termsFit_createCommand (action : Action) {orderType : OrderType}
    (hname : orderType.name = handlerOrderType envelope.payload.orderType)
    (hfit : TermsFit envelope.payload.limitPrice envelope.payload.triggerPrice
      envelope.payload.timeInForce orderType) :
    (createCommand envelope action).orderType = orderType ∧
      TermsFit envelope.payload.limitPrice envelope.payload.triggerPrice
        (createCommand envelope action).timeInForce orderType := by
  refine ⟨?_, hfit.prices, ?_⟩
  · change normalizeOrderType (handlerOrderType envelope.payload.orderType) = orderType
    rw [← hname, normalizeOrderType_name]
  · intro hlimit
    change trimSpace (trimSpace (upper (trimSpace envelope.payload.timeInForce))) ≠ ""
    rw [trimSpace_upper_trimSpace, trimSpace_upper_trimSpace, Ne, upper_eq_empty_iff]
    exact hfit.timeInForce hlimit

private theorem validate_createCommand (hv : envelope.validate = .ok ())
    (hcreate : action ≠ .cancel) (hq : envelope.payload.quantity ≠ 0) :
    (createCommand envelope action).validate = .ok () := by
  obtain ⟨htrace, hdec, -, hk, -, hsym, hexchange, -, hterms⟩ :=
    GoEnvelope.validate_eq_ok_iff.mp hv
  obtain ⟨orderType, hname, hfit⟩ :=
    (GoIntentPayload.validateOrderType_eq_ok_iff envelope.payload).mp hterms
  obtain ⟨htype, hfit⟩ := termsFit_createCommand action hname hfit
  have hpos : ¬ (createCommand envelope action).quantity ≤ 0 :=
    not_le.mpr (abs_pos.mpr hq)
  have hcancel : (createCommand envelope action).action ≠ .cancel := hcreate
  have hoperation : (createCommand envelope action).validateOperation = .ok () := by
    change (if (createCommand envelope action).action = .cancel then _ else
      if (createCommand envelope action).quantity ≤ 0 then _ else
      (createCommand envelope action).validateOrderType) = _
    rw [if_neg hcancel, if_neg hpos]
    apply Command.validateOrderType_of_termsFit
    rw [htype]
    exact hfit
  simp only [Command.validate, guard_eq_ok_iff]
  exact ⟨trimSpace_commandId _, hk, hsym, hexchange, htrace, hdec, hoperation⟩

/-- The handler builds the command of a valid envelope whose action creates an order. -/
theorem toBridgeCommand_create (hvalid : envelope.validate = .ok ())
    (haction : parseBridgeAction (upper (trimSpace envelope.payload.action)) = some action)
    (hcreate : action ≠ .cancel) (hquantity : envelope.payload.quantity ≠ 0) :
    toBridgeCommand envelope =
      .ok (createCommand envelope action, envelope.idempotencyKey ++ ":CREATE_ORDER") := by
  rw [toBridgeCommand, haction, Option.elim_some, bridgeCommand_create hcreate hquantity]
  simp only [bind, Except.bind, validate_createCommand hvalid hcreate hquantity]
  rw [String.append_assoc]
  rfl

end

/-- A valid envelope to buy, sell or close a quantity that is not zero becomes a command that is
valid too, with its order type, prices and time in force, and one to close only reduces. -/
theorem toBridgeCommand_of_validate (envelope : GoEnvelope) (hvalid : envelope.validate = .ok ())
    (haction : upper (trimSpace envelope.payload.action) ∈ ["BUY", "SELL", "CLOSE"])
    (hquantity : envelope.payload.quantity ≠ 0) :
    ∃ command dispatchKey, toBridgeCommand envelope = .ok (command, dispatchKey) ∧
      command.validate = .ok () ∧
      command.action.name = upper (trimSpace envelope.payload.action) ∧
      command.orderType.name = handlerOrderType envelope.payload.orderType ∧
      command.limitPrice = envelope.payload.limitPrice ∧
      command.triggerPrice = envelope.payload.triggerPrice ∧
      command.timeInForce = upper (trimSpace envelope.payload.timeInForce) ∧
      (upper (trimSpace envelope.payload.action) = "CLOSE" → command.reduceOnly = true) := by
  obtain ⟨action, hparse, hname, hcreate⟩ : ∃ action : Action,
      parseBridgeAction (upper (trimSpace envelope.payload.action)) = some action ∧
      action.name = upper (trimSpace envelope.payload.action) ∧ action ≠ .cancel := by
    simp only [List.mem_cons, List.not_mem_nil, or_false] at haction
    rcases haction with h | h | h
    · exact ⟨.buy, by rw [h]; rfl, h.symm, by decide⟩
    · exact ⟨.sell, by rw [h]; rfl, h.symm, by decide⟩
    · exact ⟨.close, by rw [h]; rfl, h.symm, by decide⟩
  obtain ⟨-, -, -, -, -, -, -, -, hterms⟩ := GoEnvelope.validate_eq_ok_iff.mp hvalid
  obtain ⟨orderType, htype, hfit⟩ :=
    (GoIntentPayload.validateOrderType_eq_ok_iff envelope.payload).mp hterms
  refine ⟨_, _, toBridgeCommand_create hvalid hparse hcreate hquantity,
    validate_createCommand hvalid hcreate hquantity, hname, ?_, rfl, rfl, ?_, ?_⟩
  · rw [(termsFit_createCommand action htype hfit).1, htype]
  · exact trimSpace_upper_trimSpace envelope.payload.timeInForce
  · intro hclose
    have haction : action = .close := by
      cases action with
      | close => rfl
      | buy | sell | cancel => rw [hclose] at hname; revert hname; decide
    change (_ || _) = true
    rw [haction]
    simp

private def closingEnvelope : GoEnvelope :=
  { traceId := "trace", decisionId := "decision", mode := "real", idempotencyKey := "key"
    eventType := "execution.intent.created", emittedAt := "2026-01-01T00:00:00Z"
    payload :=
      { exchange := "binance", symbol := "BTC/USDT", action := " close", orderType := " limit "
        timeInForce := "gtc ", limitPrice := some 100, quantity := -2 } }

/-- An envelope to close two at a limit. -/
theorem toBridgeCommand_of_validate_close :
    ∃ command dispatchKey, toBridgeCommand closingEnvelope = .ok (command, dispatchKey) ∧
      command.validate = .ok () ∧
      command.action.name = upper (trimSpace closingEnvelope.payload.action) ∧
      command.orderType.name = handlerOrderType closingEnvelope.payload.orderType ∧
      command.limitPrice = closingEnvelope.payload.limitPrice ∧
      command.triggerPrice = closingEnvelope.payload.triggerPrice ∧
      command.timeInForce = upper (trimSpace closingEnvelope.payload.timeInForce) ∧
      (upper (trimSpace closingEnvelope.payload.action) = "CLOSE" → command.reduceOnly = true) :=
  toBridgeCommand_of_validate closingEnvelope (by decide +kernel) (by decide +kernel)
    (by decide +kernel)

end OpenTrader.Execution
