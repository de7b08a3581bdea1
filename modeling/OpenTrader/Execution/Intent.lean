import OpenTrader.Base.Envelope

/-!
# Execution intents

Library `Execution`. The `execution.intent.created` message that the orchestrator publishes,
`services/agent_orchestrator/orchestrator.py:419-455`, and that the Go handler, the lifecycle
worker and the simulation engine read. Entries no reader looks at are left out, but for the
confidence, which the limits of a strategy are about.
-/

namespace OpenTrader.Execution
open Base

/-- A leg of a one-cancels-other order. -/
structure OcoLeg where
  orderType : Option String := none
  limitPrice : NumField := .absent
  triggerPrice : NumField := .absent
  deriving DecidableEq

/-- Payload of an execution intent; `midPrice` is the entry of its `market_context`, and a leg
that is no object is `none`. -/
structure IntentPayload where
  strategyId : Option String := none
  exchange : Option String := none
  symbol : Option String := none
  action : Option String := none
  quantity : NumField := .absent
  confidence : NumField := .absent
  orderType : Option String := none
  timeInForce : Option String := none
  limitPrice : NumField := .absent
  triggerPrice : NumField := .absent
  reduceOnly : Option Bool := none
  clientOrderId : Option String := none
  exchangeOrderId : Option String := none
  price : NumField := .absent
  referencePrice : NumField := .absent
  midPrice : NumField := .absent
  ocoLegs : Option (List (Option OcoLeg)) := none
  deriving DecidableEq

/-- An execution intent message. -/
abbrev IntentEnvelope := Envelope IntentPayload

end OpenTrader.Execution
