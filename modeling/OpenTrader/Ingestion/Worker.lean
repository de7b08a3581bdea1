import OpenTrader.Ingestion.OrderBook

/-!
# The market worker in websocket mode

Library `Ingestion`. `MarketIngestionRuntimeWorker.run_once`,
`services/workers/runtime_pipeline.py:116-224`, with the adapter of
`services/market_ingestion/exchange_adapter.py:30-102`, the gap detection of
`services/market_ingestion/gap_detection.py:18-61` and the connection state of
`services/market_ingestion/connection_resilience.py:17-54`. The answers of the exchange and the
clock are inputs. Metrics, notifications, the state store, the polling of candles and the activity
record are left out: nothing that is published depends on them.
-/

namespace OpenTrader.Ingestion
open Base Market Agent

/-! ### Adapter -/

/-- A sequence entry of an exchange payload: missing, a number, or what `int` refuses. -/
inductive IntField where
  | missing
  | int (value : ℤ)
  | refused
  deriving DecidableEq

/-- `first or second`; zero is falsy. -/
def IntField.orElse : IntField → IntField → IntField
  | .missing, fallback => fallback
  | .int value, fallback => if value = 0 then fallback else .int value
  | .refused, _ => .refused

/-- `_parse_optional_int`; `exchange_adapter.py:96-102`. -/
def parseOptionalInt : IntField → Option ℤ
  | .int value => some value
  | _ => none

/-- An order-book payload of an exchange; a side that is no list is `none`. -/
structure RawOrderBook where
  bids : Option (List (List NumField))
  asks : Option (List (List NumField))
  nonce : IntField := .missing
  sequence : IntField := .missing
  firstUpdate : IntField := .missing
  lastUpdate : IntField := .missing
  sequenceStart : IntField := .missing
  sequenceEnd : IntField := .missing
  timestamp : IntField := .missing

/-- What `run_once` raises. -/
inductive MarketWorkerError where
  | client (text : String)
  | snapshotPayload
  | deltaPayload
  | number (entry : NumField)
  | sync (error : OrderBookSyncError)
  | envelope (error : EnvelopeValidationError)
  deriving DecidableEq

/-- `_normalize_snapshot`; `exchange_adapter.py:55-70`. -/
def normalizeSnapshot (exchange symbol : String) (raw : RawOrderBook) :
    Except MarketWorkerError OrderBookSnapshot :=
  match raw.bids, raw.asks with
  | some bids, some asks => do
    let bids ← (parseLevels .bid false bids).mapError .number
    let asks ← (parseLevels .ask false asks).mapError .number
    return {
      exchange, symbol, bids, asks
      sequence := parseOptionalInt (raw.nonce.orElse raw.sequence)
      timestampMs := parseOptionalInt raw.timestamp }
  | _, _ => .error .snapshotPayload

/-- `_normalize_delta`; `exchange_adapter.py:72-93`. -/
def normalizeDelta (exchange symbol : String) (raw : RawOrderBook) :
    Except MarketWorkerError OrderBookDelta :=
  match raw.bids, raw.asks with
  | some bids, some asks => do
    let sequenceStart := parseOptionalInt (raw.firstUpdate.orElse raw.sequenceStart)
    let sequenceEnd := parseOptionalInt (raw.lastUpdate.orElse raw.sequenceEnd)
    let nonce := parseOptionalInt (raw.nonce.orElse raw.sequence)
    let unnumbered := sequenceStart.isNone && sequenceEnd.isNone
    let bids ← (parseLevels .bid true bids).mapError .number
    let asks ← (parseLevels .ask true asks).mapError .number
    return {
      exchange, symbol, bids, asks
      sequenceStart := if unnumbered then nonce else sequenceStart
      sequenceEnd := if unnumbered then nonce else sequenceEnd
      timestampMs := parseOptionalInt raw.timestamp }
  | _, _ => .error .deltaPayload

/-! ### Gap detection and connection state -/

/-- The actions of `GapDetectionModule`. -/
inductive GapAction where
  | accept
  | ignoreStale
  | resync
  deriving DecidableEq

/-- `GapDetectionResult`. -/
structure GapDetectionResult where
  hasGap : Bool
  expectedSequence : Option ℤ
  receivedSequenceStart : Option ℤ
  receivedSequenceEnd : Option ℤ
  gapSize : ℤ
  action : GapAction
  deriving DecidableEq

/-- `GapDetectionModule.evaluate`; `gap_detection.py:18-61`. -/
def evaluateGap (currentSequence incomingStart incomingEnd : Option ℤ) : GapDetectionResult :=
  match currentSequence, incomingStart, incomingEnd with
  | some current, some start, some last =>
    let expected := current + 1
    if last < expected then
      { hasGap := false, expectedSequence := some expected, receivedSequenceStart := incomingStart,
        receivedSequenceEnd := incomingEnd, gapSize := 0, action := .ignoreStale }
    else if start > expected then
      { hasGap := true, expectedSequence := some expected, receivedSequenceStart := incomingStart,
        receivedSequenceEnd := incomingEnd, gapSize := start - expected, action := .resync }
    else
      { hasGap := false, expectedSequence := some expected, receivedSequenceStart := incomingStart,
        receivedSequenceEnd := incomingEnd, gapSize := 0, action := .accept }
  | _, _, _ =>
    { hasGap := false, expectedSequence := none, receivedSequenceStart := incomingStart,
      receivedSequenceEnd := incomingEnd, gapSize := 0, action := .accept }

/-- The settings of a worker; `runtime_pipeline.py:60-114`. -/
structure MarketWorkerConfig where
  exchange : String
  symbol : String
  mode : String
  wsStaleAfterSeconds : ℚ := 15
  wsProbeIntervalSeconds : ℚ := 5

/-- `stale_after_seconds` of the connection. -/
def MarketWorkerConfig.staleAfter (config : MarketWorkerConfig) : ℚ :=
  max (1 / 10) (max 0 config.wsStaleAfterSeconds)

/-- `ws_probe_interval_seconds` as the worker keeps it. -/
def MarketWorkerConfig.probeInterval (config : MarketWorkerConfig) : ℚ :=
  max (1 / 10) config.wsProbeIntervalSeconds

/-- `next_backoff_seconds` with the default settings; `random` is what `random.random()` returns;
`connection_resilience.py:37-46`. From the 1025th disconnect in a row on, the source raises an
`OverflowError` at `2.0 ** 1024` instead; runs with so many are outside the model. -/
def nextBackoffSeconds (random : ℚ) (attempt : ℕ) : ℚ :=
  let raw : ℚ := if attempt ≤ 1 then 1 else 2 ^ (attempt - 1)
  let capped := min raw 30
  max 0 (min 30 (capped + (random * 2 - 1) * (capped * (1 / 5))))

/-- State of the worker. -/
structure MarketWorkerState where
  engine : OrderBookSyncEngine
  bootstrapped : Bool := false
  lastHeartbeat : Option ℚ := none
  disconnectAttempts : ℕ := 0
  nextWsProbe : ℚ := 0

/-- `is_stale`; `connection_resilience.py:32-35`. -/
def MarketWorkerState.isStale (s : MarketWorkerState) (config : MarketWorkerConfig) (now : ℚ) :
    Bool :=
  match s.lastHeartbeat with
  | none => true
  | some heartbeat => now - heartbeat > config.staleAfter

/-! ### One cycle -/

/-- What the exchange answers in a cycle, if it is asked, and what the clock shows. -/
structure MarketCycle where
  bootstrap : Except String RawOrderBook
  bootstrappedAt : ℚ
  polledAt : ℚ
  websocket : Except String RawOrderBook
  disconnectedAt : ℚ
  random : ℚ
  acceptedAt : ℚ
  rest : Except String RawOrderBook
  restAt : ℚ
  stamp : MessageStamp

/-- `_snapshot_to_delta`; `runtime_pipeline.py:383-392`. -/
def snapshotToDelta (snapshot : OrderBookSnapshot) : OrderBookDelta :=
  { exchange := snapshot.exchange
    symbol := snapshot.symbol
    sequenceStart := snapshot.sequence
    sequenceEnd := snapshot.sequence
    timestampMs := snapshot.timestampMs
    bids := snapshot.bids
    asks := snapshot.asks }

section

variable (config : MarketWorkerConfig) (s : MarketWorkerState) (c : MarketCycle)

/-- A REST answer as a snapshot, `bootstrap_snapshot`. -/
def readSnapshot (answer : Except String RawOrderBook) :
    Except MarketWorkerError OrderBookSnapshot := do
  let raw ← answer.mapError .client
  normalizeSnapshot config.exchange config.symbol raw

/-- A websocket answer as a delta, `poll_delta`. -/
def readDelta (answer : Except String RawOrderBook) : Except MarketWorkerError OrderBookDelta := do
  let raw ← answer.mapError .client
  normalizeDelta config.exchange config.symbol raw

/-- The bootstrap of the first cycle; `runtime_pipeline.py:118-124`. -/
def bootstrap : MarketWorkerState × Except MarketWorkerError Unit :=
  if s.bootstrapped then (s, .ok ())
  else
    match readSnapshot config c.bootstrap with
    | .error error => (s, .error error)
    | .ok snapshot =>
      match s.engine.loadSnapshot snapshot with
      | (engine, .error error) => ({ s with engine }, .error (.sync error))
      | (engine, .ok ()) =>
        ({ s with engine, lastHeartbeat := some c.bootstrappedAt, bootstrapped := true }, .ok ())

/-- `_fetch_rest_snapshot_delta`; `runtime_pipeline.py:215-224`. -/
def fetchRestSnapshotDelta : MarketWorkerState × Except MarketWorkerError OrderBookDelta :=
  match readSnapshot config c.rest with
  | .error error => (s, .error error)
  | .ok snapshot =>
    match s.engine.loadSnapshot snapshot with
    | (engine, .error error) => ({ s with engine }, .error (.sync error))
    | (engine, .ok ()) =>
      ({ s with engine, nextWsProbe := c.restAt + config.probeInterval },
        .ok (snapshotToDelta snapshot))

/-- `_apply_integrity_to_websocket_delta`; `runtime_pipeline.py:190-213`. -/
def applyIntegrityToWebsocketDelta (delta : OrderBookDelta) :
    MarketWorkerState × Except MarketWorkerError OrderBookDelta :=
  match (evaluateGap s.engine.sequence delta.sequenceStart delta.sequenceEnd).action with
  | .ignoreStale => fetchRestSnapshotDelta config s c
  | .resync => fetchRestSnapshotDelta config s c
  | .accept =>
    match s.engine.applyDelta delta with
    | (engine, .error (.sequenceGap _ _)) => fetchRestSnapshotDelta config { s with engine } c
    | (engine, .error error) => ({ s with engine }, .error (.sync error))
    | (engine, .ok false) => fetchRestSnapshotDelta config { s with engine } c
    | (engine, .ok true) =>
      ({ s with engine, disconnectAttempts := 0, lastHeartbeat := some c.acceptedAt }, .ok delta)

/-- The connection is stale and it is too early to probe it; it is read by REST then. -/
def cutOver : Bool := s.isStale config c.polledAt && decide (c.polledAt < s.nextWsProbe)

/-- `_poll_websocket_delta_with_integrity`; `runtime_pipeline.py:151-188`. -/
def pollWebsocketDelta : MarketWorkerState × Except MarketWorkerError OrderBookDelta :=
  if cutOver config s c then fetchRestSnapshotDelta config s c
  else
    match readDelta config c.websocket with
    | .error _ =>
      let attempts := s.disconnectAttempts + 1
      fetchRestSnapshotDelta config
        { s with
          disconnectAttempts := attempts
          nextWsProbe := c.disconnectedAt +
            max config.probeInterval (nextBackoffSeconds c.random attempts) } c
    | .ok delta => applyIntegrityToWebsocketDelta config s c delta

/-- `run_once` in websocket mode; `runtime_pipeline.py:116-138`. -/
def runOnce : MarketWorkerState × Except MarketWorkerError MarketEnvelope :=
  match bootstrap config s c with
  | (s, .error error) => (s, .error error)
  | (s, .ok ()) =>
    match pollWebsocketDelta config s c with
    | (s, .error error) => (s, .error error)
    | (s, .ok delta) =>
      (s, (publishOrderBookDelta c.stamp delta config.mode).mapError .envelope)

end

/-! ### A delta in the engine -/

/-- The delta is for the book of the engine. -/
def OrderBookSyncEngine.Covers (e : OrderBookSyncEngine) (delta : OrderBookDelta) : Prop :=
  delta.exchange = e.exchange ∧ delta.symbol = e.symbol

/-- The action of the gap detector for a delta that comes to an engine. -/
def gapAction (e : OrderBookSyncEngine) (delta : OrderBookDelta) : GapAction :=
  (evaluateGap e.sequence delta.sequenceStart delta.sequenceEnd).action

/-- The sequence number a delta leaves when it is applied. -/
def sequenceAfter (e : OrderBookSyncEngine) (delta : OrderBookDelta) : Option ℤ :=
  delta.sequenceEnd.or e.sequence

/-- What the engine does with a delta for each action of the gap detector. -/
def GapAction.Outcome (e : OrderBookSyncEngine) (delta : OrderBookDelta) :
    GapAction → OrderBookSyncEngine × Except OrderBookSyncError Bool → Prop
  | .accept, result => result = (e.update (sequenceAfter e delta) delta, .ok true)
  | .ignoreStale, result => result = (e, .ok false)
  | .resync, result => ∃ expected received, result = (e, .error (.sequenceGap expected received))

section
variable {e : OrderBookSyncEngine} {delta : OrderBookDelta}

/-- The engine of a book does with a delta what the gap detector says. -/
theorem outcome_applyDelta (hinitialized : e.initialized = true) (hcovers : e.Covers delta) :
    (gapAction e delta).Outcome e delta (e.applyDelta delta) := by
  have hscope : e.validateScope delta.exchange delta.symbol = .ok () := by
    rw [OrderBookSyncEngine.validateScope, hcovers.1, hcovers.2, if_neg (by simp)]
  unfold OrderBookSyncEngine.applyDelta gapAction evaluateGap
  rw [if_neg (by rw [hinitialized]; decide), hscope]
  cases hsequence : e.sequence with
  | none =>
    cases hlast : delta.sequenceEnd with
    | none => simp [GapAction.Outcome, sequenceAfter, hsequence, hlast]
    | some last => simp [GapAction.Outcome, sequenceAfter, hlast]
  | some current =>
    cases hlast : delta.sequenceEnd with
    | none => simp [GapAction.Outcome, sequenceAfter, hsequence, hlast]
    | some last =>
      cases hstart : delta.sequenceStart with
      | none => simp [GapAction.Outcome, sequenceAfter, hlast]
      | some start =>
        dsimp only
        by_cases hstale : last < current + 1
        · rw [if_pos hstale, if_pos hstale]
          exact rfl
        · rw [if_neg hstale, if_neg hstale]
          by_cases hgap : start > current + 1
          · rw [if_pos hgap, if_pos hgap]
            exact ⟨_, _, rfl⟩
          · rw [if_neg hgap, if_neg hgap]
            simp [GapAction.Outcome, sequenceAfter, hlast]

/-- An engine without a snapshot, or of another book, refuses a delta and stays as it is. -/
theorem applyDelta_of_not (h : ¬(e.initialized = true ∧ e.Covers delta)) :
    ∃ error, e.applyDelta delta = (e, .error error) ∧
      ∀ expected received, error ≠ .sequenceGap expected received := by
  unfold OrderBookSyncEngine.applyDelta
  split
  · exact ⟨.notInitialized, rfl, fun _ _ => by simp⟩
  · next hinit =>
    have hinit : e.initialized = true := by simpa using hinit
    have hout : delta.exchange ≠ e.exchange ∨ delta.symbol ≠ e.symbol := by
      by_contra hboth
      rw [not_or, not_not, not_not] at hboth
      exact h ⟨hinit, hboth⟩
    rw [OrderBookSyncEngine.validateScope, if_pos hout]
    exact ⟨.scope, rfl, fun _ _ => by simp⟩

/-- A delta is applied or leaves the engine as it is. -/
theorem applyDelta_cases :
    (e.applyDelta delta).1 = e ∨
      (e.applyDelta delta).1 = e.update (sequenceAfter e delta) delta := by
  by_cases hready : e.initialized = true ∧ e.Covers delta
  · have hout := outcome_applyDelta hready.1 hready.2
    cases hact : gapAction e delta with
    | accept =>
      rw [hact] at hout
      exact .inr (congrArg Prod.fst hout)
    | ignoreStale =>
      rw [hact] at hout
      exact .inl (congrArg Prod.fst hout)
    | resync =>
      rw [hact] at hout
      obtain ⟨expected, received, hrefused⟩ := hout
      exact .inl (congrArg Prod.fst hrefused)
  · obtain ⟨error, hrefused, -⟩ := applyDelta_of_not hready
    exact .inl (congrArg Prod.fst hrefused)

end

/-! ### What is published -/

/-- The websocket delta a cycle takes, if it takes one: the connection is not cut over, the delta
can be read and has no gap. -/
def takenDelta (config : MarketWorkerConfig) (s : MarketWorkerState) (c : MarketCycle) :
    Option OrderBookDelta :=
  if cutOver config s c then none
  else
    (readDelta config c.websocket).toOption.filter fun delta =>
      (evaluateGap s.engine.sequence delta.sequenceStart delta.sequenceEnd).action = .accept

section

variable {config : MarketWorkerConfig} {s s' : MarketWorkerState} {c : MarketCycle}
  {delta : OrderBookDelta}

private theorem fetchRestSnapshotDelta_eq_ok
    (h : fetchRestSnapshotDelta config s c = (s', .ok delta)) :
    ∃ snapshot, readSnapshot config c.rest = .ok snapshot ∧ delta = snapshotToDelta snapshot ∧
      s'.engine.bids = levelDict snapshot.bids ∧ s'.engine.asks = levelDict snapshot.asks := by
  unfold fetchRestSnapshotDelta OrderBookSyncEngine.loadSnapshot at h
  cases hsnapshot : readSnapshot config c.rest with
  | error error => rw [hsnapshot] at h; cases h
  | ok snapshot =>
    rw [hsnapshot] at h
    dsimp only at h
    cases hscope : s.engine.validateScope snapshot.exchange snapshot.symbol with
    | error error => rw [hscope] at h; cases h
    | ok =>
      rw [hscope] at h
      cases h
      exact ⟨snapshot, rfl, rfl, rfl, rfl⟩

private theorem applyDelta_of_accept
    (h : (evaluateGap s.engine.sequence delta.sequenceStart delta.sequenceEnd).action = .accept) :
    (∃ error, s.engine.applyDelta delta = (s.engine, .error error) ∧
        ∀ expected received, error ≠ .sequenceGap expected received) ∨
      ∃ sequence, s.engine.applyDelta delta = (s.engine.update sequence delta, .ok true) := by
  by_cases hready : s.engine.initialized = true ∧ s.engine.Covers delta
  · have hout := outcome_applyDelta hready.1 hready.2
    rw [gapAction, h] at hout
    exact .inr ⟨_, hout⟩
  · exact .inl (applyDelta_of_not hready)

private theorem applyIntegrityToWebsocketDelta_eq_ok {polled : OrderBookDelta}
    (h : applyIntegrityToWebsocketDelta config s c polled = (s', .ok delta)) :
    let action := (evaluateGap s.engine.sequence polled.sequenceStart polled.sequenceEnd).action
    (action = .accept ∧ polled = delta ∧
      s'.engine.bids = applySideUpdates s.engine.bids delta.bids ∧
      s'.engine.asks = applySideUpdates s.engine.asks delta.asks) ∨
    (action ≠ .accept ∧ ∃ snapshot, readSnapshot config c.rest = .ok snapshot ∧
      delta = snapshotToDelta snapshot ∧ s'.engine.bids = levelDict snapshot.bids ∧
      s'.engine.asks = levelDict snapshot.asks) := by
  dsimp only
  unfold applyIntegrityToWebsocketDelta at h
  cases hact : (evaluateGap s.engine.sequence polled.sequenceStart
      polled.sequenceEnd).action with
  | ignoreStale | resync =>
    rw [hact] at h
    exact .inr ⟨by simp, fetchRestSnapshotDelta_eq_ok h⟩
  | accept =>
    rw [hact] at h
    rcases applyDelta_of_accept hact with ⟨error, happly, hgap⟩ | ⟨sequence, happly⟩
    · rw [happly] at h
      dsimp only at h
      split at h
      · next expected received heq =>
        cases heq
        exact absurd rfl (hgap expected received)
      · cases h
      · next heq => cases heq
      · next heq => cases heq
    · rw [happly] at h
      cases h
      exact .inl ⟨rfl, rfl, rfl, rfl⟩

/-- What a cycle publishes and the book it leaves: the delta it takes, applied to the book before,
or the REST snapshot, which replaces the book. -/
theorem pollWebsocketDelta_eq_ok (h : pollWebsocketDelta config s c = (s', .ok delta)) :
    (takenDelta config s c = some delta ∧
      s'.engine.bids = applySideUpdates s.engine.bids delta.bids ∧
      s'.engine.asks = applySideUpdates s.engine.asks delta.asks) ∨
    (takenDelta config s c = none ∧ ∃ snapshot, readSnapshot config c.rest = .ok snapshot ∧
      delta = snapshotToDelta snapshot ∧ s'.engine.bids = levelDict snapshot.bids ∧
      s'.engine.asks = levelDict snapshot.asks) := by
  unfold pollWebsocketDelta at h
  unfold takenDelta
  cases hcut : cutOver config s c with
  | true =>
    rw [hcut] at h
    exact .inr ⟨rfl, fetchRestSnapshotDelta_eq_ok h⟩
  | false =>
    rw [hcut] at h
    simp only [Bool.false_eq_true, if_false] at h ⊢
    cases hr : readDelta config c.websocket with
    | error error =>
      rw [hr] at h
      exact .inr ⟨rfl, fetchRestSnapshotDelta_eq_ok h⟩
    | ok polled =>
      rw [hr] at h
      change (Option.filter _ (some polled) = some delta ∧ _) ∨
        (Option.filter _ (some polled) = none ∧ _)
      rcases applyIntegrityToWebsocketDelta_eq_ok h with
        ⟨hacc, rfl, hbook⟩ | ⟨hrefused, hrest⟩
      · exact .inl ⟨by simp [hacc], hbook⟩
      · exact .inr ⟨by simp [hrefused], hrest⟩

end

end OpenTrader.Ingestion
