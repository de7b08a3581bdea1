import OpenTrader.Ingestion.Recovery

/-!
# Sequence numbers of a book

Library `Ingestion`. `services/market_ingestion/order_book_sync.py:42-65` beside
`services/market_ingestion/gap_detection.py:18-63` and their caller,
`services/workers/runtime_pipeline.py:116-213`. Engine and gap detector compare the numbers of a
delta with the current one in the same way, and only when all three are known. A delta with an end
and no start is taken as it is, also when its end is behind the current number.
-/

namespace OpenTrader.Ingestion
open Base Market

/-! ### The current sequence -/

/-- The engine after a call of `apply_delta`, also when the call raises. -/
def deltaStep (e : OrderBookSyncEngine) (delta : OrderBookDelta) : OrderBookSyncEngine :=
  (e.applyDelta delta).1

/-- A call does not lower a known sequence number or lose it. -/
def KeepsSequence (e : OrderBookSyncEngine) (delta : OrderBookDelta) : Prop :=
  ∀ current, e.sequence = some current →
    ∃ next, (deltaStep e delta).sequence = some next ∧ current ≤ next

/-- The engine takes a delta without a start whose end is behind its sequence number. -/
def TakesBehind (e : OrderBookSyncEngine) (delta : OrderBookDelta) : Prop :=
  (e.initialized = true ∧ e.Covers delta) ∧ delta.sequenceStart = none ∧
    ∃ current last, e.sequence = some current ∧ delta.sequenceEnd = some last ∧ last < current

section
variable {e : OrderBookSyncEngine} {delta : OrderBookDelta}

-- With both numbers, an accepted delta ends past the current number.
private theorem lt_of_accept {current start last : ℤ} (hacc : gapAction e delta = .accept)
    (hcur : e.sequence = some current) (hstart : delta.sequenceStart = some start)
    (hlast : delta.sequenceEnd = some last) : current < last := by
  unfold gapAction evaluateGap at hacc
  rw [hcur, hstart, hlast] at hacc
  dsimp only at hacc
  by_contra hbehind
  rw [if_pos (by omega)] at hacc
  cases hacc

private theorem keepsSequence_of_accept {current : ℤ} (h : ¬ TakesBehind e delta)
    (hready : e.initialized = true ∧ e.Covers delta) (hacc : gapAction e delta = .accept)
    (hcur : e.sequence = some current) :
    ∃ next, sequenceAfter e delta = some next ∧ current ≤ next := by
  cases hlast : delta.sequenceEnd with
  | none => exact ⟨current, by rw [sequenceAfter, hlast, Option.none_or, hcur], le_rfl⟩
  | some last =>
    refine ⟨last, by rw [sequenceAfter, hlast, Option.some_or], ?_⟩
    cases hstart : delta.sequenceStart with
    | none =>
      by_contra hbehind
      exact h ⟨hready, hstart, current, last, hcur, hlast, not_le.mp hbehind⟩
    | some start => exact (lt_of_accept hacc hcur hstart hlast).le

private theorem keepsSequence_of_not_takesBehind (h : ¬ TakesBehind e delta) :
    KeepsSequence e delta := by
  intro current hcur
  by_cases hready : e.initialized = true ∧ e.Covers delta
  · have hout := outcome_applyDelta hready.1 hready.2
    unfold deltaStep
    cases hact : gapAction e delta with
    | accept =>
      rw [hact] at hout
      rw [hout]
      exact keepsSequence_of_accept h hready hact hcur
    | ignoreStale =>
      rw [hact] at hout
      rw [hout]
      exact ⟨current, hcur, le_rfl⟩
    | resync =>
      rw [hact] at hout
      obtain ⟨expected, received, hrefused⟩ := hout
      rw [hrefused]
      exact ⟨current, hcur, le_rfl⟩
  · obtain ⟨error, hrefused, -⟩ := applyDelta_of_not hready
    rw [deltaStep, hrefused]
    exact ⟨current, hcur, le_rfl⟩

private theorem not_keepsSequence_of_takesBehind (h : TakesBehind e delta) :
    ¬ KeepsSequence e delta := by
  obtain ⟨⟨hinit, hcovers⟩, hstart, current, last, hcur, hlast, hbehind⟩ := h
  intro hkeeps
  obtain ⟨next, hnext, hle⟩ := hkeeps current hcur
  have hact : gapAction e delta = .accept := by
    rw [gapAction, hcur, hstart]
    rfl
  have hout := outcome_applyDelta hinit hcovers
  rw [hact] at hout
  have hafter : sequenceAfter e delta = some last := by rw [sequenceAfter, hlast, Option.some_or]
  rw [deltaStep, hout] at hnext
  have hsame : last = next := Option.some.inj (hafter.symm.trans hnext)
  omega

private theorem keepsSequence_iff : KeepsSequence e delta ↔ ¬ TakesBehind e delta :=
  ⟨fun hkeeps hbehind => not_keepsSequence_of_takesBehind hbehind hkeeps,
    keepsSequence_of_not_takesBehind⟩

end

/-- Between two snapshots the sequence number never falls and is never lost, exactly when no delta
without a start number is taken that ends behind it. -/
theorem sequence_monotone_iff (e : OrderBookSyncEngine) (deltas : List OrderBookDelta) :
    Along deltaStep KeepsSequence e deltas ↔
      Along deltaStep (fun e delta => ¬ TakesBehind e delta) e deltas :=
  ⟨Along.mono fun _ _ => keepsSequence_iff.mp, Along.mono fun _ _ => keepsSequence_iff.mpr⟩

private def numberedEngine : OrderBookSyncEngine :=
  { exchange := "binance", symbol := "BTC/USDT", sequence := some 10, initialized := true }

private def lateDelta : OrderBookDelta :=
  { exchange := "binance", symbol := "BTC/USDT", sequenceStart := none, sequenceEnd := some 5
    timestampMs := none, bids := [], asks := [] }

/-- An update of which the exchange gives the last number only takes the engine from ten back to
five. -/
theorem sequence_falls :
    normalizeDelta "binance" "BTC/USDT"
        { bids := some [], asks := some [], lastUpdate := .int 5 } = .ok lateDelta ∧
      ¬ Along deltaStep KeepsSequence numberedEngine [lateDelta] := by
  refine ⟨by decide +kernel, ?_⟩
  rintro ⟨hkeeps, -⟩
  obtain ⟨next, hnext, hle⟩ := hkeeps 10 rfl
  have hfive : (deltaStep numberedEngine lateDelta).sequence = some 5 := by decide +kernel
  cases hfive.symm.trans hnext
  exact absurd hle (by decide)

/-! ### The worker and its fallbacks -/

/-- Why the worker reads the book by REST: the texts of `reason`. -/
inductive FallbackReason where
  | streamStaleCutover
  | websocketErrorFallback
  | websocketStaleDelta
  | sequenceGapResync
  | sequenceGapException
  | deltaRejectedAsStale
  deriving DecidableEq

/-- Text of a reason. -/
def FallbackReason.name : FallbackReason → String
  | .streamStaleCutover => "stream_stale_cutover"
  | .websocketErrorFallback => "websocket_error_fallback"
  | .websocketStaleDelta => "websocket_stale_delta"
  | .sequenceGapResync => "sequence_gap_resync"
  | .sequenceGapException => "sequence_gap_exception"
  | .deltaRejectedAsStale => "delta_rejected_as_stale"

/-- The reason of a fallback for a polled delta; `runtime_pipeline.py:193-209`. -/
def deltaFallback (e : OrderBookSyncEngine) (delta : OrderBookDelta) : Option FallbackReason :=
  match gapAction e delta with
  | .ignoreStale => some .websocketStaleDelta
  | .resync => some .sequenceGapResync
  | .accept =>
    match (e.applyDelta delta).2 with
    | .error (.sequenceGap _ _) => some .sequenceGapException
    | .ok false => some .deltaRejectedAsStale
    | _ => none

/-- The reason of a fallback of a poll; `runtime_pipeline.py:151-188`. -/
def pollFallback (config : MarketWorkerConfig) (s : MarketWorkerState) (c : MarketCycle) :
    Option FallbackReason :=
  if cutOver config s c then some .streamStaleCutover
  else
    match readDelta config c.websocket with
    | .error _ => some .websocketErrorFallback
    | .ok delta => deltaFallback s.engine delta

/-- The reason for which a call of `run_once` falls back to REST, if it does. -/
def fallbackReason (config : MarketWorkerConfig) (s : MarketWorkerState) (c : MarketCycle) :
    Option FallbackReason :=
  match bootstrap config s c with
  | (_, .error _) => none
  | (s, .ok ()) => pollFallback config s c

section
variable {config : MarketWorkerConfig} {s : MarketWorkerState} {c : MarketCycle}

private theorem applyIntegrity_of_deltaFallback {delta : OrderBookDelta} {reason : FallbackReason}
    (h : deltaFallback s.engine delta = some reason) :
    ∃ s', applyIntegrityToWebsocketDelta config s c delta = fetchRestSnapshotDelta config s' c := by
  unfold deltaFallback gapAction at h
  unfold applyIntegrityToWebsocketDelta
  split
  · exact ⟨s, rfl⟩
  · exact ⟨s, rfl⟩
  · next hact =>
    rw [hact] at h
    dsimp only at h
    split
    · exact ⟨_, rfl⟩
    · next engine error hgap happly =>
      rw [happly] at h
      dsimp only at h
      split at h
      · next expected received heq =>
        cases heq
        exact absurd rfl (hgap expected received)
      · next heq => cases heq
      · cases h
    · exact ⟨_, rfl⟩
    · next happly =>
      rw [happly] at h
      cases h

private theorem applyIntegrity_of_no_deltaFallback {delta : OrderBookDelta}
    (h : deltaFallback s.engine delta = none) :
    (applyIntegrityToWebsocketDelta config s c delta).2 = .ok delta ∨
      ∃ error, (applyIntegrityToWebsocketDelta config s c delta).2 = .error (.sync error) := by
  unfold applyIntegrityToWebsocketDelta
  unfold deltaFallback gapAction at h
  cases hact : (evaluateGap s.engine.sequence delta.sequenceStart delta.sequenceEnd).action with
  | ignoreStale | resync => rw [hact] at h; cases h
  | accept =>
    rw [hact] at h
    dsimp only at h ⊢
    split
    · next happly => rw [happly] at h; cases h
    · exact .inr ⟨_, rfl⟩
    · next happly => rw [happly] at h; cases h
    · exact .inl rfl

/-- A poll with a reason to fall back is answered by REST. -/
theorem pollWebsocketDelta_of_pollFallback {reason : FallbackReason}
    (h : pollFallback config s c = some reason) :
    ∃ s', pollWebsocketDelta config s c = fetchRestSnapshotDelta config s' c := by
  unfold pollFallback at h
  unfold pollWebsocketDelta
  split
  · exact ⟨s, rfl⟩
  · next hcut =>
    rw [if_neg hcut] at h
    split
    · exact ⟨_, rfl⟩
    · next hr =>
      rw [hr] at h
      exact applyIntegrity_of_deltaFallback h

/-- A poll with no such reason is answered by the websocket's delta, or raises what the engine
raises about it. -/
theorem pollWebsocketDelta_of_no_fallback (h : pollFallback config s c = none) :
    ∃ delta, readDelta config c.websocket = .ok delta ∧
      ((pollWebsocketDelta config s c).2 = .ok delta ∨
        ∃ error, (pollWebsocketDelta config s c).2 = .error (.sync error)) := by
  unfold pollFallback at h
  unfold pollWebsocketDelta
  split at h
  · cases h
  · next hcut =>
    rw [if_neg hcut]
    cases hr : readDelta config c.websocket with
    | error error => rw [hr] at h; cases h
    | ok delta =>
      rw [hr] at h
      exact ⟨delta, rfl, applyIntegrity_of_no_deltaFallback h⟩

end

/-! ### Reachable workers -/

/-- Once the worker is bootstrapped, its engine has a snapshot. -/
def HasSnapshot (s : MarketWorkerState) : Prop :=
  s.bootstrapped = true → s.engine.initialized = true

section
variable {config : MarketWorkerConfig} {s ready : MarketWorkerState} {c : MarketCycle}

private theorem engineInvariant_initialized :
    EngineInvariant fun e => e.initialized = true where
  load e snapshot h := by
    unfold OrderBookSyncEngine.loadSnapshot
    split
    · exact h
    · rfl
  delta e delta h := by
    rcases applyDelta_cases with hafter | hafter
    · rw [hafter]
      exact h
    · rw [hafter]
      exact h

private theorem initialized_of_bootstrap (hs : HasSnapshot s)
    (h : bootstrap config s c = (ready, .ok ())) : ready.engine.initialized = true := by
  unfold bootstrap at h
  split at h
  · next hboot =>
    cases h
    exact hs hboot
  · split at h
    · cases h
    · next snapshot _ =>
      split at h
      · cases h
      · next hload =>
        cases h
        unfold OrderBookSyncEngine.loadSnapshot at hload
        split at hload
        · cases hload
        · cases hload
          rfl

-- A bootstrap that raises leaves a worker that is not bootstrapped.
private theorem hasSnapshot_of_bootstrap_error {failed : MarketWorkerState}
    {error : MarketWorkerError} (h : bootstrap config s c = (failed, .error error)) :
    HasSnapshot failed := by
  unfold bootstrap at h
  split at h
  · cases h
  · next hnew =>
    split at h
    · cases h
      exact fun hboot => absurd hboot hnew
    · split at h
      · cases h
        exact fun hboot => absurd hboot hnew
      · cases h

private theorem HasSnapshot.nextState (hs : HasSnapshot s) :
    HasSnapshot (nextState config s c) := by
  cases hboot : bootstrap config s c with
  | mk ready result =>
    cases result with
    | error error =>
      rw [nextState_of_bootstrap_error hboot]
      exact hasSnapshot_of_bootstrap_error hboot
    | ok =>
      rw [nextState_of_bootstrap hboot]
      exact fun _ => engineInvariant_initialized.pollWebsocketDelta
        (initialized_of_bootstrap hs hboot)

private theorem hasSnapshot_run (cs : List MarketCycle) :
    HasSnapshot (run (nextState config) config.start cs) := by
  have hstart : HasSnapshot config.start := by
    intro hboot
    cases hboot
  have hstep : ∀ s c, HasSnapshot s → HasSnapshot (nextState config s c) :=
    fun _ _ => HasSnapshot.nextState
  exact (throughout_of_step hstep cs hstart).last

private theorem scope_of_readDelta {answer : Except String RawOrderBook} {delta : OrderBookDelta}
    (h : readDelta config answer = .ok delta) :
    delta.exchange = config.exchange ∧ delta.symbol = config.symbol := by
  obtain ⟨raw, -, h⟩ := bind_eq_ok_iff.mp h
  unfold normalizeDelta at h
  split at h
  · obtain ⟨bids, -, h⟩ := bind_eq_ok_iff.mp h
    obtain ⟨asks, -, h⟩ := bind_eq_ok_iff.mp h
    cases h
    exact ⟨rfl, rfl⟩
  · cases h

private theorem engine_of_ready {cs : List MarketCycle} {delta : OrderBookDelta}
    (h : bootstrap config (run (nextState config) config.start cs) c = (ready, .ok ()))
    (hscope : delta.exchange = config.exchange ∧ delta.symbol = config.symbol) :
    ready.engine.initialized = true ∧ ready.engine.Covers delta := by
  have hready : InScope config (bootstrap config _ c).1 := (inScope_run cs).bootstrap
  rw [h] at hready
  exact ⟨initialized_of_bootstrap (hasSnapshot_run cs) h, hscope.1.trans hready.1.symm,
    hscope.2.trans hready.2.symm⟩

end

/-! ### Agreement -/

/-- The gap detector says of a delta what the engine does with it. -/
structure GapAgrees (e : OrderBookSyncEngine) (delta : OrderBookDelta) : Prop where
  accept : gapAction e delta = .accept ↔ (e.applyDelta delta).2 = .ok true
  ignoreStale : gapAction e delta = .ignoreStale ↔ (e.applyDelta delta).2 = .ok false
  resync : gapAction e delta = .resync ↔
    ∃ expected received, (e.applyDelta delta).2 = .error (.sequenceGap expected received)

private theorem gapAgrees_of_ready {e : OrderBookSyncEngine} {delta : OrderBookDelta}
    (hinit : e.initialized = true) (hcovers : e.Covers delta) : GapAgrees e delta := by
  have hout := outcome_applyDelta hinit hcovers
  cases hact : gapAction e delta with
  | accept | ignoreStale =>
    rw [hact] at hout
    constructor <;> simp [hact, congrArg Prod.snd hout]
  | resync =>
    rw [hact] at hout
    obtain ⟨expected, received, hout⟩ := hout
    constructor <;> simp [hact, congrArg Prod.snd hout]

-- The two reasons are for an accepted delta that the engine refuses.
private theorem deltaFallback_of_agrees {e : OrderBookSyncEngine} {delta : OrderBookDelta}
    (h : GapAgrees e delta) :
    deltaFallback e delta ≠ some .sequenceGapException ∧
      deltaFallback e delta ≠ some .deltaRejectedAsStale := by
  unfold deltaFallback
  cases hact : gapAction e delta with
  | accept => simp [h.accept.mp hact]
  | ignoreStale | resync => simp

/-- Whatever the worker has been through, for a delta of its book that comes in after the
bootstrap, gap detector and engine agree; no call falls back because the engine refused a delta
that the gap detector had accepted. -/
theorem gap_detector_agrees (config : MarketWorkerConfig) (cs : List MarketCycle)
    (c : MarketCycle) :
    let s := run (nextState config) config.start cs
    (∀ ready delta, bootstrap config s c = (ready, .ok ()) →
        delta.exchange = config.exchange → delta.symbol = config.symbol →
        GapAgrees ready.engine delta) ∧
      fallbackReason config s c ≠ some .sequenceGapException ∧
      fallbackReason config s c ≠ some .deltaRejectedAsStale := by
  intro s
  have hagrees : ∀ ready delta, bootstrap config s c = (ready, .ok ()) →
      delta.exchange = config.exchange → delta.symbol = config.symbol →
      GapAgrees ready.engine delta := by
    intro ready delta hready hexchange hsymbol
    obtain ⟨hinitialized, hcovers⟩ := engine_of_ready hready ⟨hexchange, hsymbol⟩
    exact gapAgrees_of_ready hinitialized hcovers
  refine ⟨hagrees, ?_⟩
  unfold fallbackReason
  cases hboot : bootstrap config s c with
  | mk ready result =>
    cases result with
    | error error => simp
    | ok =>
      dsimp only
      unfold pollFallback
      split
      · simp
      · split
        · simp
        · next delta hread =>
          obtain ⟨hexchange, hsymbol⟩ := scope_of_readDelta hread
          exact deltaFallback_of_agrees (hagrees ready delta hboot hexchange hsymbol)

/-- The first call of a new worker, with an update that it takes. -/
theorem gap_detector_agrees_first :
    let c := firstCycle ⟨42000, 4⟩ ⟨42001, 2⟩
    let ready := (bootstrap coinWorker coinWorker.start c).1
    ∃ delta, readDelta coinWorker c.websocket = .ok delta ∧ GapAgrees ready.engine delta ∧
      gapAction ready.engine delta = .accept := by
  intro c ready
  have hready : bootstrap coinWorker coinWorker.start c = (ready, .ok ()) :=
    Prod.ext rfl (by decide +kernel)
  refine ⟨{ exchange := coinWorker.exchange, symbol := coinWorker.symbol, sequenceStart := some 101
            sequenceEnd := some 101, timestampMs := none, bids := [⟨42000, 4⟩]
            asks := [⟨42001, 2⟩] }, by decide +kernel, ?_, by decide +kernel⟩
  exact (gap_detector_agrees coinWorker [] c).1 ready _ hready rfl rfl

end OpenTrader.Ingestion
