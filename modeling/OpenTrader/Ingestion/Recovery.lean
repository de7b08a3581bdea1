import OpenTrader.Base.Trace
import OpenTrader.Ingestion.PublishedBook

/-!
# When the websocket is tried again

Library `Ingestion`. `services/workers/runtime_pipeline.py:151-224` with
`services/market_ingestion/connection_resilience.py:29-54`. A disconnect sets the time of the next
probe, and every REST answer sets it again, the one that follows the disconnect included. The time
is looked at only while the connection is stale.
-/

namespace OpenTrader.Ingestion
open Base Market Agent

/-! ### Attempts and disconnects -/

/-- The worker as it is constructed; `runtime_pipeline.py:60-114`. -/
def MarketWorkerConfig.start (config : MarketWorkerConfig) : MarketWorkerState where
  engine := { exchange := config.exchange, symbol := config.symbol }

section

variable (config : MarketWorkerConfig) (s : MarketWorkerState) (c : MarketCycle)

/-- The worker after a call of `run_once`, also when the call raises. -/
def nextState : MarketWorkerState := (runOnce config s c).1

/-- The call of `run_once` polls the websocket: the bootstrap is done and the connection is not cut
over. -/
def attemptsWebsocket : Bool :=
  match bootstrap config s c with
  | (_, .error _) => false
  | (s, .ok ()) => !cutOver config s c

/-- The poll of the websocket raises. -/
def disconnects : Bool :=
  attemptsWebsocket config s c && (readDelta config c.websocket).toOption.isNone

/-- The time of a disconnect plus `max(ws_probe_interval, backoff)`. -/
def retryTime : ℚ :=
  c.disconnectedAt +
    max config.probeInterval (nextBackoffSeconds c.random (s.disconnectAttempts + 1))

end

/-- After every disconnect, no call before the retry time polls the websocket, and the first one at
or after it does. -/
def RecoversOnTime (config : MarketWorkerConfig) (cs : List MarketCycle) : Prop :=
  ∀ before c between c' after, cs = before ++ c :: (between ++ c' :: after) →
    let s := run (nextState config) config.start before
    let s' := run (nextState config) (nextState config s c) between
    disconnects config s c →
      (c'.polledAt < retryTime config s c → attemptsWebsocket config s' c' = false) ∧
      (retryTime config s c ≤ c'.polledAt → (∀ m ∈ between, m.polledAt < retryTime config s c) →
        attemptsWebsocket config s' c' = true)

/-- The next probe after a REST answer; without one the probe stays. -/
def restProbe (config : MarketWorkerConfig) (probe : ℚ) (c : MarketCycle) : ℚ :=
  match readSnapshot config c.rest with
  | .ok _ => c.restAt + config.probeInterval
  | .error _ => probe

/-- The next probe after calls that are answered by REST. -/
def probeTime (config : MarketWorkerConfig) (probe : ℚ) (cs : List MarketCycle) : ℚ :=
  cs.foldl (restProbe config) probe

/-- The wait agrees with the retry time: after every disconnect and the calls before the retry time,
the next call comes before it exactly when the connection is stale by then and the last REST answer
is less than a probe interval old, or no answer came and the disconnect holds. -/
def WaitsForRetry (config : MarketWorkerConfig) (cs : List MarketCycle) : Prop :=
  ∀ before c between c' after, cs = before ++ c :: (between ++ c' :: after) →
    let s := run (nextState config) config.start before
    disconnects config s c → (∀ m ∈ between, m.polledAt < retryTime config s c) →
      (c'.polledAt < retryTime config s c ↔
        (nextState config s c).isStale config c'.polledAt ∧
          c'.polledAt < probeTime config (retryTime config s c) (c :: between))

/-! ### What no call changes about the engine -/

/-- A property of the engine that neither a snapshot nor a delta takes away. -/
structure EngineInvariant (inv : OrderBookSyncEngine → Prop) : Prop where
  load : ∀ e snapshot, inv e → inv (e.loadSnapshot snapshot).1
  delta : ∀ e delta, inv e → inv (e.applyDelta delta).1

namespace EngineInvariant

variable {inv : OrderBookSyncEngine → Prop} {config : MarketWorkerConfig} {s : MarketWorkerState}
  {c : MarketCycle}

/-- A REST fallback keeps it. -/
theorem fetchRestSnapshotDelta (hinv : EngineInvariant inv) (h : inv s.engine) :
    inv (fetchRestSnapshotDelta config s c).1.engine := by
  unfold Ingestion.fetchRestSnapshotDelta
  split
  · exact h
  · next snapshot _ =>
    have hloaded := hinv.load s.engine snapshot h
    split
    all_goals
      next hload =>
        rw [hload] at hloaded
        exact hloaded

/-- A polled delta keeps it. -/
theorem applyIntegrityToWebsocketDelta (hinv : EngineInvariant inv) (h : inv s.engine)
    (delta : OrderBookDelta) : inv (applyIntegrityToWebsocketDelta config s c delta).1.engine := by
  have happlied := hinv.delta s.engine delta h
  unfold Ingestion.applyIntegrityToWebsocketDelta
  split
  · exact hinv.fetchRestSnapshotDelta h
  · exact hinv.fetchRestSnapshotDelta h
  · split
    all_goals
      next happly =>
        rw [happly] at happlied
        first
          | exact hinv.fetchRestSnapshotDelta happlied
          | exact happlied

/-- A poll keeps it. -/
theorem pollWebsocketDelta (hinv : EngineInvariant inv) (h : inv s.engine) :
    inv (pollWebsocketDelta config s c).1.engine := by
  unfold Ingestion.pollWebsocketDelta
  split
  · exact hinv.fetchRestSnapshotDelta h
  · split
    · exact hinv.fetchRestSnapshotDelta h
    · exact hinv.applyIntegrityToWebsocketDelta h _

/-- The bootstrap keeps it. -/
theorem bootstrap (hinv : EngineInvariant inv) (h : inv s.engine) :
    inv (bootstrap config s c).1.engine := by
  unfold Ingestion.bootstrap
  split
  · exact h
  · split
    · exact h
    · next snapshot _ =>
      have hloaded := hinv.load s.engine snapshot h
      split
      all_goals
        next hload =>
          rw [hload] at hloaded
          exact hloaded

end EngineInvariant

section

variable {config : MarketWorkerConfig} {s : MarketWorkerState} {c : MarketCycle}

/-- The worker after a call that bootstraps is the one after its poll. -/
theorem nextState_of_bootstrap {ready : MarketWorkerState}
    (h : bootstrap config s c = (ready, .ok ())) :
    nextState config s c = (pollWebsocketDelta config ready c).1 := by
  unfold nextState runOnce
  rw [h]
  dsimp only
  split
  · next hpoll => rw [hpoll]
  · next hpoll => rw [hpoll]

/-- The worker after a call whose bootstrap raises is the one the bootstrap leaves. -/
theorem nextState_of_bootstrap_error {failed : MarketWorkerState} {error : MarketWorkerError}
    (h : bootstrap config s c = (failed, .error error)) : nextState config s c = failed := by
  unfold nextState runOnce
  rw [h]

/-- A call keeps an invariant of the engine. -/
theorem EngineInvariant.nextState {inv : OrderBookSyncEngine → Prop} (hinv : EngineInvariant inv)
    (h : inv s.engine) : inv (nextState config s c).engine := by
  have hready : inv (Ingestion.bootstrap config s c).1.engine := hinv.bootstrap h
  cases hboot : Ingestion.bootstrap config s c with
  | mk ready result =>
    rw [hboot] at hready
    cases result with
    | error error =>
      rw [nextState_of_bootstrap_error hboot]
      exact hready
    | ok =>
      rw [nextState_of_bootstrap hboot]
      exact hinv.pollWebsocketDelta hready

end

/-! ### The scope of the engine -/

/-- The engine keeps the book of the configured symbol. -/
def InScope (config : MarketWorkerConfig) (s : MarketWorkerState) : Prop :=
  s.engine.exchange = config.exchange ∧ s.engine.symbol = config.symbol

private theorem engineInvariant_scope (config : MarketWorkerConfig) :
    EngineInvariant fun e => e.exchange = config.exchange ∧ e.symbol = config.symbol where
  load e snapshot h := by
    unfold OrderBookSyncEngine.loadSnapshot
    split
    · exact h
    · exact h
  delta e delta h := by
    rcases applyDelta_cases with hafter | hafter
    · rw [hafter]
      exact h
    · rw [hafter]
      exact h

section

variable {config : MarketWorkerConfig} {s : MarketWorkerState} {c : MarketCycle}
  {answer : Except String RawOrderBook} {snapshot : OrderBookSnapshot}

private theorem scope_of_readSnapshot (h : readSnapshot config answer = .ok snapshot) :
    snapshot.exchange = config.exchange ∧ snapshot.symbol = config.symbol := by
  obtain ⟨raw, -, h⟩ := bind_eq_ok_iff.mp h
  unfold normalizeSnapshot at h
  split at h
  · obtain ⟨bids, -, h⟩ := bind_eq_ok_iff.mp h
    obtain ⟨asks, -, h⟩ := bind_eq_ok_iff.mp h
    cases h
    exact ⟨rfl, rfl⟩
  · cases h

private theorem loadSnapshot_of_readSnapshot (hs : InScope config s)
    (h : readSnapshot config answer = .ok snapshot) :
    ∃ engine, s.engine.loadSnapshot snapshot = (engine, .ok ()) ∧
      InScope config { s with engine } := by
  obtain ⟨hexchange, hsym⟩ := scope_of_readSnapshot h
  have hscope : s.engine.validateScope snapshot.exchange snapshot.symbol = .ok () := by
    rw [OrderBookSyncEngine.validateScope, hexchange, hsym, hs.1, hs.2, if_neg (by simp)]
  unfold OrderBookSyncEngine.loadSnapshot
  rw [hscope]
  exact ⟨_, rfl, hs⟩

private theorem fetchRestSnapshotDelta_fst (hs : InScope config s) :
    ∃ engine, InScope config { s with engine } ∧
      (fetchRestSnapshotDelta config s c).1 =
        { s with engine, nextWsProbe := restProbe config s.nextWsProbe c } := by
  unfold fetchRestSnapshotDelta restProbe
  cases hr : readSnapshot config c.rest with
  | error error => exact ⟨s.engine, hs, rfl⟩
  | ok snapshot =>
    obtain ⟨engine, hload, hscope⟩ := loadSnapshot_of_readSnapshot hs hr
    dsimp only
    rw [hload]
    exact ⟨engine, hscope, rfl⟩

/-- The bootstrap stays in scope. -/
theorem InScope.bootstrap (hs : InScope config s) : InScope config (bootstrap config s c).1 :=
  (engineInvariant_scope config).bootstrap hs

/-- A run from the constructed worker stays in scope. -/
theorem inScope_run (cs : List MarketCycle) :
    InScope config (run (Ingestion.nextState config) config.start cs) := by
  have hstep : ∀ s c, InScope config s → InScope config (Ingestion.nextState config s c) :=
    fun _ _ => (engineInvariant_scope config).nextState
  exact (throughout_of_step hstep cs ⟨rfl, rfl⟩).last

end

/-! ### Calls after a disconnect -/

section

variable {config : MarketWorkerConfig} {s s' : MarketWorkerState} {c : MarketCycle}

/-- The worker waits: it is bootstrapped, was last heard of as `s` was, and probes next at `probe`.
-/
private structure Waits (config : MarketWorkerConfig) (s : MarketWorkerState) (probe : ℚ)
    (s' : MarketWorkerState) : Prop where
  scope : InScope config s'
  bootstrapped : s'.bootstrapped = true
  heartbeat : s'.lastHeartbeat = s.lastHeartbeat
  probe : s'.nextWsProbe = probe

private theorem bootstrapped_of_bootstrap {ready : MarketWorkerState}
    (h : bootstrap config s c = (ready, .ok ())) :
    ready.bootstrapped = true ∧ ready.disconnectAttempts = s.disconnectAttempts := by
  unfold bootstrap at h
  split at h
  · next hboot => cases h; exact ⟨hboot, rfl⟩
  · split at h
    · cases h
    · split at h
      · cases h
      · cases h; exact ⟨rfl, rfl⟩

private theorem waits_fetchRestSnapshotDelta (hs : InScope config s) (h : s.bootstrapped = true) :
    Waits config s (restProbe config s.nextWsProbe c) (fetchRestSnapshotDelta config s c).1 := by
  obtain ⟨engine, hengine, hrest⟩ := fetchRestSnapshotDelta_fst (c := c) hs
  rw [hrest]
  exact ⟨hengine, h, rfl, rfl⟩

private theorem waits_of_disconnects (hs : InScope config s) (h : disconnects config s c) :
    Waits config (nextState config s c) (restProbe config (retryTime config s c) c)
      (nextState config s c) := by
  unfold disconnects attemptsWebsocket at h
  have hscope := hs.bootstrap (c := c)
  cases hboot : bootstrap config s c with
  | mk ready result =>
    rw [hboot] at h hscope
    cases result with
    | error error => simp at h
    | ok =>
      simp only [Bool.and_eq_true, Bool.not_eq_true'] at h
      obtain ⟨hcut, hr⟩ := h
      obtain ⟨hbootstrapped, hattempts⟩ := bootstrapped_of_bootstrap hboot
      cases hdelta : readDelta config c.websocket with
      | ok delta =>
        rw [hdelta] at hr
        cases hr
      | error error =>
        have hnext : nextState config s c = (fetchRestSnapshotDelta config
            { ready with
              disconnectAttempts := ready.disconnectAttempts + 1
              nextWsProbe := retryTime config s c } c).1 := by
          rw [nextState_of_bootstrap hboot, retryTime, ← hattempts]
          unfold pollWebsocketDelta
          rw [hcut, hdelta]
          rfl
        have hwaits := waits_fetchRestSnapshotDelta (c := c)
          (s := { ready with
            disconnectAttempts := ready.disconnectAttempts + 1
            nextWsProbe := retryTime config s c }) hscope hbootstrapped
        rw [← hnext] at hwaits
        exact ⟨hwaits.scope, hwaits.bootstrapped, rfl, hwaits.probe⟩

private theorem attemptsWebsocket_of_bootstrapped (h : s.bootstrapped = true) :
    attemptsWebsocket config s c = !cutOver config s c := by
  unfold attemptsWebsocket bootstrap
  rw [if_pos h]

private theorem Waits.attemptsWebsocket_eq_false {probe : ℚ} (h : Waits config s probe s') :
    attemptsWebsocket config s' c = false ↔
      s.isStale config c.polledAt ∧ c.polledAt < probe := by
  rw [attemptsWebsocket_of_bootstrapped h.bootstrapped, Bool.not_eq_false', cutOver,
    Bool.and_eq_true, decide_eq_true_iff, h.probe, MarketWorkerState.isStale, h.heartbeat]
  rfl

private theorem Waits.nextState {probe : ℚ} (h : Waits config s probe s')
    (hskip : attemptsWebsocket config s' c = false) :
    Waits config s (restProbe config probe c) (nextState config s' c) := by
  have hboot : bootstrap config s' c = (s', .ok ()) := by
    unfold bootstrap
    rw [if_pos h.bootstrapped]
  rw [attemptsWebsocket_of_bootstrapped h.bootstrapped, Bool.not_eq_false'] at hskip
  have hnext : Ingestion.nextState config s' c = (fetchRestSnapshotDelta config s' c).1 := by
    rw [nextState_of_bootstrap hboot]
    unfold pollWebsocketDelta
    rw [if_pos hskip]
  have hwaits := waits_fetchRestSnapshotDelta (c := c) h.scope h.bootstrapped
  rw [← hnext, h.probe] at hwaits
  exact ⟨hwaits.scope, hwaits.bootstrapped, hwaits.heartbeat.trans h.heartbeat, hwaits.probe⟩

private theorem Waits.run {probe : ℚ} (h : Waits config s probe s') {between : List MarketCycle}
    (hskip : ∀ waited m rest, between = waited ++ m :: rest →
      Waits config s (probeTime config probe waited) (run (Ingestion.nextState config) s' waited) →
      attemptsWebsocket config (run (Ingestion.nextState config) s' waited) m = false) :
    Waits config s (probeTime config probe between)
      (run (Ingestion.nextState config) s' between) := by
  induction between generalizing s' probe with
  | nil => exact h
  | cons m between ih =>
    refine ih (h.nextState (hskip [] m between rfl h)) ?_
    intro waited m' rest hsplit
    exact hskip (m :: waited) m' rest (by rw [hsplit]; rfl)

end

/-! ### Recovery -/

variable {config : MarketWorkerConfig} {cs : List MarketCycle}

private theorem waits_between {before between after} {c c' : MarketCycle}
    (hsplit : cs = before ++ c :: (between ++ c' :: after))
    (hdisc : disconnects config (run (nextState config) config.start before) c)
    (hskip : let s := run (nextState config) config.start before
      ∀ waited m rest, cs = before ++ c :: (waited ++ m :: rest) → m :: waited ⊆ between →
        Waits config (nextState config s c) (probeTime config (retryTime config s c) (c :: waited))
          (run (nextState config) (nextState config s c) waited) →
        attemptsWebsocket config (run (nextState config) (nextState config s c) waited) m =
          false) :
    let s := run (nextState config) config.start before
    Waits config (nextState config s c) (probeTime config (retryTime config s c) (c :: between))
      (run (nextState config) (nextState config s c) between) := by
  refine (waits_of_disconnects (inScope_run before) hdisc).run ?_
  rintro waited m rest rfl
  refine hskip waited m (rest ++ c' :: after) ?_ (by simp)
  rw [hsplit, List.append_assoc, List.cons_append]

/-- **Recovery.** For calls at nondecreasing times the websocket is tried again at the retry time,
neither earlier nor later, exactly when every wait agrees with it. -/
theorem recovers_on_time_iff (hordered : cs.Pairwise (·.polledAt ≤ ·.polledAt)) :
    RecoversOnTime config cs ↔ WaitsForRetry config cs := by
  constructor
  · intro h before c between c' after hsplit s hdisc hearly
    have hwaits := waits_between hsplit hdisc fun waited m rest hsplit' hsub _ =>
      (h before c waited m rest hsplit' hdisc).1 (hearly m (hsub List.mem_cons_self))
    obtain ⟨hrushed, hstarved⟩ := h before c between c' after hsplit hdisc
    rw [← hwaits.attemptsWebsocket_eq_false]
    refine ⟨hrushed, fun hskip => ?_⟩
    by_contra hlate
    rw [hstarved (not_lt.mp hlate) hearly] at hskip
    cases hskip
  · intro h before c between c' after hsplit s s' hdisc
    have hbetween : c'.polledAt < retryTime config s c →
        ∀ m ∈ between, m.polledAt < retryTime config s c := by
      intro hearly m hm
      rw [hsplit] at hordered
      have hrest := (List.pairwise_cons.mp (List.pairwise_append.mp hordered).2.1).2
      exact lt_of_le_of_lt ((List.pairwise_append.mp hrest).2.2 m hm c' (by simp)) hearly
    have hwait : (∀ m ∈ between, m.polledAt < retryTime config s c) →
        (attemptsWebsocket config s' c' = false ↔ c'.polledAt < retryTime config s c) := by
      intro hearly
      have hwaits := waits_between hsplit hdisc fun waited m rest hsplit' hsub hwaits =>
        hwaits.attemptsWebsocket_eq_false.mpr ((h before c waited m rest hsplit' hdisc
          fun other hother => hearly other (hsub (List.mem_cons_of_mem m hother))).mp
            (hearly m (hsub List.mem_cons_self)))
      rw [hwaits.attemptsWebsocket_eq_false]
      exact (h before c between c' after hsplit hdisc hearly).symm
    constructor
    · intro hearly
      exact (hwait (hbetween hearly)).mpr hearly
    · intro hlate hearly
      by_contra hskip
      exact absurd ((hwait hearly).mp (Bool.eq_false_iff.mpr hskip)) (not_lt.mpr hlate)

/-- A call in which the websocket fails and REST answers, all at one time. -/
def failingCall (time : ℚ) : MarketCycle :=
  { firstCycle ⟨42000, 4⟩ ⟨42001, 2⟩ with
    polledAt := time
    websocket := .error "connection closed"
    disconnectedAt := time
    random := 1 / 2
    rest := .ok { bids := some [[.num 42000, .num 5]], asks := some [[.num 42001, .num 3]] }
    restAt := time }

/-- The first call takes an update at second 1; the calls after it fail. -/
def callsAt (times : List ℚ) : List MarketCycle :=
  firstCycle ⟨42000, 4⟩ ⟨42001, 2⟩ :: times.map failingCall

private theorem callsAt_split {first second : ℚ} {before between after : List MarketCycle}
    {c c' : MarketCycle} (h : callsAt [first, second] = before ++ c :: (between ++ c' :: after))
    (hdisc : disconnects coinWorker (run (nextState coinWorker) coinWorker.start before) c) :
    before = [firstCycle ⟨42000, 4⟩ ⟨42001, 2⟩] ∧ c = failingCall first ∧ between = [] ∧
      c' = failingCall second := by
  rcases before with _ | ⟨_, _ | ⟨_, before⟩⟩
  · obtain ⟨rfl, -⟩ := List.cons.inj h
    exact absurd hdisc (by decide +kernel)
  · rcases between with _ | ⟨_, between⟩
    · cases h
      exact ⟨rfl, rfl, rfl, rfl⟩
    · simp [callsAt] at h
  · have hlen := congrArg List.length h
    simp [callsAt] at hlen
    omega

/-- A disconnect of a stale connection at second 20 is followed by a call at second 25. -/
theorem recovers_on_time_at_retry : RecoversOnTime coinWorker (callsAt [20, 25]) := by
  refine (recovers_on_time_iff (by decide +kernel)).mpr ?_
  intro before c between c' after hsplit s hdisc hearly
  obtain ⟨rfl, rfl, rfl, rfl⟩ := callsAt_split hsplit hdisc
  decide +kernel

/-- Called at second 2, after a disconnect at second 1, the worker does not wait until second 6: the
connection is not stale yet. Called at second 24, after a disconnect at second 20, it waits until
second 29: the REST answer moves the probe, and the call at second 25 is skipped. -/
theorem recovery_rushed_and_starved :
    ¬ RecoversOnTime coinWorker (callsAt [1, 2]) ∧
      ¬ RecoversOnTime coinWorker (callsAt [20, 24, 25]) := by
  constructor
  · intro h
    have hrushed := (h [firstCycle ⟨42000, 4⟩ ⟨42001, 2⟩] (failingCall 1) [] (failingCall 2) [] rfl
      (by decide +kernel)).1 (by decide +kernel)
    exact absurd hrushed (by decide +kernel)
  · intro h
    have hstarved := (h [firstCycle ⟨42000, 4⟩ ⟨42001, 2⟩] (failingCall 20) [failingCall 24]
      (failingCall 25) [] rfl (by decide +kernel)).2 (by decide +kernel) (by
        simp only [List.mem_singleton, forall_eq]
        decide +kernel)
    exact absurd hstarved (by decide +kernel)

end OpenTrader.Ingestion
