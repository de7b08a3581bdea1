import OpenTrader.Base.Envelope

/-!
# Canonical order-book messages

Library `Market`. `services/market_ingestion/canonical_pipeline.py:17-47,86-107` with the
deltas of `services/market_ingestion/contracts.py:7-31`. The payload has an entry for everything
the agents read from a market message; a delta fills the exchange, the symbol and the two sides
of the book, and nothing else.
-/

namespace OpenTrader.Market
open Base

/-- `OrderBookLevel`. -/
structure OrderBookLevel where
  price : ℚ
  amount : ℚ
  deriving DecidableEq

/-- `OrderBookDelta`. -/
structure OrderBookDelta where
  exchange : String
  symbol : String
  sequenceStart : Option ℤ := none
  sequenceEnd : Option ℤ := none
  timestampMs : Option ℤ := none
  bids : List OrderBookLevel := []
  asks : List OrderBookLevel := []
  deriving DecidableEq

/-- A level of a market message; what is no object has no entries. -/
structure MarketLevel where
  price : NumField := .absent
  amount : NumField := .absent
  deriving DecidableEq

/-- Payload of a `market.canonical` message; a side that is no list is empty. The news entry is
left out. -/
structure MarketPayload where
  exchange : Option String := none
  symbol : Option String := none
  timestampMs : Option ℤ := none
  sequenceStart : Option ℤ := none
  sequenceEnd : Option ℤ := none
  bids : List MarketLevel := []
  asks : List MarketLevel := []
  midPrice : NumField := .absent
  currentPosition : NumField := .absent
  drawdownPct : NumField := .absent
  deriving DecidableEq

/-- A `market.canonical` message. -/
abbrev MarketEnvelope := Envelope MarketPayload

variable (stamp : MessageStamp) (delta : OrderBookDelta)

/-- `normalize_order_book_delta`; `canonical_pipeline.py:23-32`. -/
def normalizeOrderBookDelta : MarketPayload :=
  { exchange := some delta.exchange
    symbol := some delta.symbol
    timestampMs := delta.timestampMs
    sequenceStart := delta.sequenceStart
    sequenceEnd := delta.sequenceEnd
    bids := delta.bids.map fun level => ⟨.num level.price, .num level.amount⟩
    asks := delta.asks.map fun level => ⟨.num level.price, .num level.amount⟩ }

/-- The identifiers and the time of a message: what `uuid.uuid4()` and the clock return. -/
structure MessageStamp where
  traceId : String
  decisionId : String
  emittedAt : UtcStamp
  validIds : isUuid traceId = true ∧ isUuid decisionId = true
  deriving DecidableEq

/-- `_build_envelope`; `canonical_pipeline.py:86-107`. -/
def buildEnvelope (eventType mode : String) (payload : MarketPayload) (idempotencyKey : String) :
    Except EnvelopeValidationError MarketEnvelope := do
  let envelope : MarketEnvelope :=
    { traceId := some stamp.traceId
      decisionId := some stamp.decisionId
      mode := some mode
      idempotencyKey := some idempotencyKey
      eventType := some eventType
      emittedAt := some stamp.emittedAt.text
      payload := some payload
      service := some "market_ingestion" }
  validateEnvelope envelope
  return envelope

/-- `publish_order_book_delta`; `canonical_pipeline.py:34-47`. -/
def publishOrderBookDelta (mode : String) : Except EnvelopeValidationError MarketEnvelope :=
  let sequenceMarker := (delta.sequenceEnd.map toString).getD "na"
  buildEnvelope stamp "market.canonical.orderbook_delta" mode (normalizeOrderBookDelta delta)
    ("market.canonical.orderbook_delta:" ++ delta.exchange ++ ":" ++ delta.symbol ++ ":" ++
      sequenceMarker)

/-- In a known mode the message of a delta is always published. -/
theorem publishOrderBookDelta_ok {mode : String} (hmode : mode = "MOCK" ∨ mode = "REAL") :
    ∃ envelope, publishOrderBookDelta stamp delta mode = .ok envelope ∧
      validateEnvelope envelope = .ok () ∧ envelope.traceId = some stamp.traceId ∧
      envelope.decisionId = some stamp.decisionId ∧ envelope.mode = some mode ∧
      envelope.eventType = some "market.canonical.orderbook_delta" ∧
      envelope.payload = some (normalizeOrderBookDelta delta) := by
  have hk (tail : String) : strip ("market.canonical.orderbook_delta:" ++ tail) ≠ "" :=
    strip_append_ne_empty tail (by decide +kernel)
  have htype : strip "market.canonical.orderbook_delta" ≠ "" := by decide +kernel
  set envelope : MarketEnvelope :=
    { traceId := some stamp.traceId
      decisionId := some stamp.decisionId
      mode := some mode
      idempotencyKey := some ("market.canonical.orderbook_delta:" ++ delta.exchange ++ ":" ++
        delta.symbol ++ ":" ++ (delta.sequenceEnd.map toString).getD "na")
      eventType := some "market.canonical.orderbook_delta"
      emittedAt := some stamp.emittedAt.text
      payload := some (normalizeOrderBookDelta delta)
      service := some "market_ingestion" } with henvelope
  have hv : validateEnvelope envelope = .ok () := by
    rw [validateEnvelope_ok_iff]
    refine ⟨stamp.validIds.1, stamp.validIds.2, ?_, ?_, ?_, stamp.emittedAt.valid, rfl⟩
    · simpa [henvelope] using hmode
    · simpa [henvelope, String.append_assoc] using hk _
    · simpa [henvelope] using htype
  refine ⟨envelope, ?_, hv, rfl, rfl, rfl, rfl, rfl⟩
  rw [publishOrderBookDelta, buildEnvelope, ← henvelope, hv]
  rfl

end OpenTrader.Market
