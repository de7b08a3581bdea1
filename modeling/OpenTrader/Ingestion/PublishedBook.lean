import OpenTrader.Ingestion.Worker

/-!
# What the agents see of the synchronized book

Library `Ingestion`. `services/workers/runtime_pipeline.py:116-224` with the reading side,
`services/agent_orchestrator/market_context_agent.py:89-113`. The worker keeps the whole book and
publishes the levels of the last message. The agent takes the best of these levels for the top of
the book, removed levels included, so it sees the top only when the message happens to hold it.
-/

namespace OpenTrader.Ingestion
open Base Market Agent

/-- The best level of a side of the book, the first one of `materialize_snapshot()`. -/
def OrderBookSyncEngine.top (e : OrderBookSyncEngine) (side : BookSide) : Option OrderBookLevel :=
  (e.materializeSide side 20).head?

/-- The levels show the top of a side that was `before`: the first one has an amount, which the last
one of its price repeats, and no price of the book is better. -/
def ShowsTop (side : BookSide) (before : Dict ℚ ℚ) (levels : List OrderBookLevel) : Prop :=
  ∃ first ∈ levels.head?, 0 < first.amount ∧
    (levels.filter (·.price = first.price)).getLast?.map (·.amount) = some first.amount ∧
    ∀ item ∈ before.entries, side.better item.1 first.price = false

instance (side : BookSide) (before : Dict ℚ ℚ) (levels : List OrderBookLevel) :
    Decidable (ShowsTop side before levels) :=
  inferInstanceAs (Decidable (∃ first ∈ levels.head?, _ ∧ _ ∧ _))

/-- The delta a cycle takes shows the top of both sides, or it takes none and the REST snapshot that
replaces the book does. -/
def PublishesTop (config : MarketWorkerConfig) (s : MarketWorkerState) (c : MarketCycle) : Prop :=
  match takenDelta config s c with
  | some delta => ShowsTop .bid s.engine.bids delta.bids ∧ ShowsTop .ask s.engine.asks delta.asks
  | none => ∀ snapshot, readSnapshot config c.rest = .ok snapshot →
    ShowsTop .bid Dict.empty snapshot.bids ∧ ShowsTop .ask Dict.empty snapshot.asks

/-- The best levels an agent takes from a message are the top of a book. -/
def SeesTop (context : MarketContext) (bid ask : OrderBookLevel) : Prop :=
  (context.bestBid = some bid.price ∧ context.bestBidSize = bid.amount) ∧
    context.bestAsk = some ask.price ∧ context.bestAskSize = ask.amount

/-! ### One side -/

section

variable {side : BookSide} {before after : Dict ℚ ℚ} {levels : List OrderBookLevel}

private theorem foldl_better_of_not_better {first : ℚ × ℚ} {rest : List (ℚ × ℚ)}
    (h : ∀ level ∈ rest, side.better level.1 first.1 = false) :
    rest.foldl (fun best level =>
      match best with
      | none => some level
      | some b => if side.better level.1 b.1 then some level else best) (some first) =
        some first := by
  induction rest with
  | nil => rfl
  | cons second rest ih =>
    rw [List.foldl_cons]
    simp only [h second List.mem_cons_self, Bool.false_eq_true, if_false]
    exact ih fun level hlevel => h level (List.mem_cons_of_mem second hlevel)

private theorem bestLevel_of_sorted {pairs : List (ℚ × ℚ)}
    (h : pairs.Pairwise fun a b => side.better b.1 a.1 = false) :
    bestLevel side pairs = pairs.head? := by
  cases pairs with
  | nil => rfl
  | cons first rest => exact foldl_better_of_not_better (List.pairwise_cons.mp h).1

private theorem extractLevel_of_sorted (h : levels.Pairwise (levelOrder side)) :
    extractLevel side (levels.map fun level => ⟨.num level.price, .num level.amount⟩) =
      match levels.head? with
      | none => (none, 0)
      | some first => (some first.price, max 0 first.amount) := by
  have hparsed : (levels.map fun level =>
      (⟨.num level.price, .num level.amount⟩ : MarketLevel)).filterMap parseLevel =
        levels.map fun level => (level.price, max 0 level.amount) := by
    rw [List.filterMap_map, ← List.filterMap_eq_map]
    rfl
  have hsorted : (levels.map fun level => (level.price, max 0 level.amount)).Pairwise
      fun a b => side.better b.1 a.1 = false := List.pairwise_map.mpr h
  rw [extractLevel, hparsed, bestLevel_of_sorted hsorted, List.head?_map]
  cases levels.head? <;> rfl

variable {rest : List OrderBookLevel} {first : OrderBookLevel}

private theorem not_better_of_sorted (h : (first :: rest).Pairwise (levelOrder side)) {price : ℚ}
    (hprice : price ∈ ((first :: rest).map levelWrite).map Prod.fst) :
    side.better price first.price = false := by
  rw [List.map_map] at hprice
  obtain ⟨level, hlevel, rfl⟩ := List.mem_map.mp hprice
  rcases List.mem_cons.mp hlevel with rfl | hrest
  · cases side <;> simp [levelWrite, BookSide.better]
  · exact List.rel_of_pairwise_cons h hrest

private theorem get?_first
    (hafter : after.get? = writeAll before.get? ((first :: rest).map levelWrite)) (amount : ℚ) :
    after.get? first.price = some amount ↔
      0 < amount ∧ (((first :: rest).filter (·.price = first.price)).getLast?).map (·.amount) =
        some amount := by
  have hfilter : ((first :: rest).map levelWrite).filter (·.1 = first.price) =
      ((first :: rest).filter (·.price = first.price)).map levelWrite := List.filter_map
  rw [hafter, writeAll_eq_getLast?, hfilter, List.getLast?_map]
  cases hlast : ((first :: rest).filter (·.price = first.price)).getLast? with
  | none => simp at hlast
  | some last =>
    simp only [Option.map_some, Option.getD_some, levelWrite, Option.some.injEq]
    split
    · next hremoved =>
      refine iff_of_false (by simp) ?_
      rintro ⟨hpos, rfl⟩
      exact absurd hpos (not_lt.mpr hremoved)
    · next hset =>
      rw [Option.some.injEq]
      constructor
      · rintro rfl
        exact ⟨not_le.mp hset, rfl⟩
      · exact And.right

private theorem extractLevel_eq_top_iff {top : OrderBookLevel}
    (hsorted : levels.Pairwise (levelOrder side))
    (hafter : after.get? = writeAll before.get? (levels.map levelWrite))
    (htop : after.get? top.price = some top.amount)
    (hbest : ∀ price amount, after.get? price = some amount →
      side.better price top.price = false) :
    extractLevel side (levels.map fun level => ⟨.num level.price, .num level.amount⟩) =
        (some top.price, top.amount) ↔ ShowsTop side before levels := by
  rw [extractLevel_of_sorted hsorted]
  cases levels with
  | nil => simp [ShowsTop]
  | cons first rest =>
    simp only [List.head?_cons, Prod.mk.injEq, Option.some.injEq, ShowsTop, Option.mem_some_iff,
      exists_eq_left']
    constructor
    · rintro ⟨hprice, hamount⟩
      rw [← hprice] at htop hbest
      obtain ⟨hpos, hlast⟩ := (get?_first hafter top.amount).mp htop
      have hfst : first.amount = top.amount := by
        rw [← hamount] at hpos ⊢
        exact (max_eq_right (lt_max_iff.mp hpos |>.resolve_left (lt_irrefl 0)).le).symm
      refine ⟨hfst ▸ hpos, hfst ▸ hlast, ?_⟩
      intro item hitem
      by_cases hwritten : item.1 ∈ ((first :: rest).map levelWrite).map Prod.fst
      · exact not_better_of_sorted hsorted hwritten
      · apply hbest item.1 item.2
        rw [hafter, writeAll_of_notMem hwritten]
        exact (before.get?_eq_some_iff _ _).mpr hitem
    · rintro ⟨hpos, hlast, hbefore⟩
      have hg := (get?_first hafter first.amount).mpr ⟨hpos, hlast⟩
      have htopBest : side.better top.price first.price = false := by
        by_cases hwritten : top.price ∈ ((first :: rest).map levelWrite).map Prod.fst
        · exact not_better_of_sorted hsorted hwritten
        · rw [hafter, writeAll_of_notMem hwritten] at htop
          exact hbefore _ ((before.get?_eq_some_iff _ _).mp htop)
      have hprice := eq_of_not_better (hbest _ _ hg) htopBest
      rw [hprice, htop] at hg
      exact ⟨hprice, (max_eq_right hpos.le).trans (Option.some.inj hg).symm⟩

end

/-! ### One cycle -/

section

variable {config : MarketWorkerConfig} {s s' : MarketWorkerState} {c : MarketCycle}

private theorem payload_of_publish {stamp : MessageStamp} {delta : OrderBookDelta} {mode : String}
    {envelope : MarketEnvelope} (h : publishOrderBookDelta stamp delta mode = .ok envelope) :
    envelope.payload = some (normalizeOrderBookDelta delta) := by
  obtain ⟨-, -, hreturn⟩ := bind_eq_ok_iff.mp h
  rw [← pure_eq_ok_iff.mp hreturn]

private theorem sorted_of_takenDelta {delta : OrderBookDelta}
    (h : takenDelta config s c = some delta) :
    delta.bids.Pairwise (levelOrder .bid) ∧ delta.asks.Pairwise (levelOrder .ask) := by
  have hr : readDelta config c.websocket = .ok delta := by
    unfold takenDelta at h
    split at h
    · cases h
    · exact toOption_eq_some_iff.mp (Option.filter_eq_some_iff.mp h).1
  obtain ⟨raw, -, hnormal⟩ := bind_eq_ok_iff.mp hr
  unfold normalizeDelta at hnormal
  split at hnormal
  · simp only [bind_eq_ok_iff, pure_eq_ok_iff, mapError_eq_ok_iff] at hnormal
    obtain ⟨bids, hbids, asks, hasks, rfl⟩ := hnormal
    exact ⟨sorted_of_parseLevels hbids, sorted_of_parseLevels hasks⟩
  · cases hnormal

private theorem levels_of_readSnapshot {answer : Except String RawOrderBook}
    {snapshot : OrderBookSnapshot} (h : readSnapshot config answer = .ok snapshot) :
    (snapshot.bids.Pairwise (levelOrder .bid) ∧ (levelDict snapshot.bids).get? =
        writeAll (Dict.empty : Dict ℚ ℚ).get? (snapshot.bids.map levelWrite)) ∧
      snapshot.asks.Pairwise (levelOrder .ask) ∧ (levelDict snapshot.asks).get? =
        writeAll (Dict.empty : Dict ℚ ℚ).get? (snapshot.asks.map levelWrite) := by
  have hside {side : BookSide} {rows : List (List NumField)} {levels : List OrderBookLevel}
      (hlevels : parseLevels side false rows = .ok levels) :
      levels.Pairwise (levelOrder side) ∧ (levelDict levels).get? =
        writeAll (Dict.empty : Dict ℚ ℚ).get? (levels.map levelWrite) := by
    have hall : levels.filter (0 < ·.amount) = levels := List.filter_eq_self.mpr fun level hlevel =>
      decide_eq_true (pos_of_parseLevels hlevels level hlevel)
    refine ⟨sorted_of_parseLevels hlevels, ?_⟩
    rw [get?_levelDict, hall]
    rfl
  obtain ⟨raw, -, hnormal⟩ := bind_eq_ok_iff.mp h
  unfold normalizeSnapshot at hnormal
  split at hnormal
  · simp only [bind_eq_ok_iff, pure_eq_ok_iff, mapError_eq_ok_iff] at hnormal
    obtain ⟨bids, hbids, asks, hasks, rfl⟩ := hnormal
    exact ⟨hside hbids, hside hasks⟩
  · cases hnormal

private theorem seesTop_iff (delta : OrderBookDelta) (strategy : StrategyConfig)
    (bid ask : OrderBookLevel) :
    SeesTop (enrich (normalizeOrderBookDelta delta) strategy) bid ask ↔
      extractLevel .bid (delta.bids.map fun level => ⟨.num level.price, .num level.amount⟩) =
          (some bid.price, bid.amount) ∧
        extractLevel .ask (delta.asks.map fun level => ⟨.num level.price, .num level.amount⟩) =
          (some ask.price, ask.amount) := by
  unfold SeesTop
  rw [Prod.ext_iff, Prod.ext_iff]
  exact Iff.rfl

end

/-- In every state of the worker, so after every history: when a cycle publishes a message and the
book then has both sides, the agents see its top in the message exactly when the levels of the last
message show it. -/
theorem published_top_iff {config : MarketWorkerConfig} {s s' : MarketWorkerState} {c : MarketCycle}
    {envelope : MarketEnvelope} {payload : MarketPayload} {bid ask : OrderBookLevel}
    (strategy : StrategyConfig) (hrun : runOnce config s c = (s', .ok envelope))
    (hpayload : envelope.payload = some payload) (hbid : s'.engine.top .bid = some bid)
    (hask : s'.engine.top .ask = some ask) :
    SeesTop (enrich payload strategy) bid ask ↔
      PublishesTop config (bootstrap config s c).1 c := by
  unfold runOnce at hrun
  split at hrun
  · cases hrun
  · next ready hboot =>
    rw [hboot]
    split at hrun
    · cases hrun
    · next final delta hpoll =>
      obtain ⟨rfl, hpublish⟩ := Prod.mk.inj hrun
      have hsent := payload_of_publish (mapError_eq_ok_iff.mp hpublish)
      obtain rfl : normalizeOrderBookDelta delta = payload :=
        Option.some.inj (hsent.symm.trans hpayload)
      obtain ⟨hbidTop, hbidBest⟩ :=
        (OrderBookSyncEngine.materializeSide_head?_iff (by decide) bid).mp hbid
      obtain ⟨haskTop, haskBest⟩ :=
        (OrderBookSyncEngine.materializeSide_head?_iff (by decide) ask).mp hask
      rw [seesTop_iff]
      unfold PublishesTop
      rcases pollWebsocketDelta_eq_ok hpoll with ⟨htaken, hbids, hasks⟩ |
        ⟨htaken, snapshot, hrest, rfl, hbids, hasks⟩
      · obtain ⟨hsortedBids, hsortedAsks⟩ := sorted_of_takenDelta htaken
        rw [htaken, extractLevel_eq_top_iff hsortedBids
            (hbids ▸ get?_applySideUpdates _ _) hbidTop hbidBest,
          extractLevel_eq_top_iff hsortedAsks
            (hasks ▸ get?_applySideUpdates _ _) haskTop haskBest]
      · obtain ⟨⟨hsortedBids, hbidBook⟩, hsortedAsks, haskBook⟩ := levels_of_readSnapshot hrest
        rw [htaken, hrest]
        refine (and_congr
          (extractLevel_eq_top_iff hsortedBids (hbids ▸ hbidBook) hbidTop hbidBest)
          (extractLevel_eq_top_iff hsortedAsks (hasks ▸ haskBook) haskTop haskBest)).trans ?_
        refine ⟨fun hshows other hother => ?_, fun hshows => hshows snapshot rfl⟩
        cases hother
        exact hshows

/-! ### A first cycle -/

private theorem firstStamp_ids : isUuid "5d0c7b1e-0000-4000-8000-000000000001" = true ∧
    isUuid "5d0c7b1e-0000-4000-8000-000000000002" = true := by
  decide +kernel

private theorem firstStamp_time : isIsoDatetime "2026-03-01T09:00:00Z" = true := by
  decide +kernel

/-- The ids and the time of a message. -/
def firstStamp : MessageStamp where
  traceId := "5d0c7b1e-0000-4000-8000-000000000001"
  decisionId := "5d0c7b1e-0000-4000-8000-000000000002"
  emittedAt := ⟨"2026-03-01T09:00:00Z", firstStamp_time⟩
  validIds := firstStamp_ids

/-- A worker for one symbol. -/
def coinWorker : MarketWorkerConfig where
  exchange := "binance"
  symbol := "BTC/USDT"
  mode := "MOCK"

/-- The worker has not bootstrapped yet. -/
def newWorker : MarketWorkerState where
  engine := { exchange := "binance", symbol := "BTC/USDT" }

/-- A strategy for the symbol. -/
def coinStrategy : StrategyConfig :=
  { sampleStrategy with
    plannerSellThreshold := -(1 / 5), riskMaxPositionSize := 10, riskMaxDrawdownPct := 20 }

/-- A first cycle: a snapshot with two levels on each side, and one update of each side. -/
def firstCycle (bid ask : OrderBookLevel) : MarketCycle where
  bootstrap := .ok {
    bids := some [[.num 42000, .num 5], [.num 41999, .num 2]]
    asks := some [[.num 42001, .num 3], [.num 42002, .num 1]]
    nonce := .int 100 }
  bootstrappedAt := 0
  polledAt := 1
  websocket := .ok {
    bids := some [levelRow bid]
    asks := some [levelRow ask]
    firstUpdate := .int 101
    lastUpdate := .int 101 }
  disconnectedAt := 1
  random := 0
  acceptedAt := 1
  rest := .error "unavailable"
  restAt := 1
  stamp := firstStamp

/-- The context an agent makes of the message a cycle publishes. -/
def seenContext (c : MarketCycle) : Option MarketContext := do
  let envelope ← (runOnce coinWorker newWorker c).2.toOption
  let payload ← envelope.payload
  return enrich payload coinStrategy

/-- An update of the top of both sides is seen as the top. -/
theorem published_top_of_top_update : ∃ envelope payload,
    (runOnce coinWorker newWorker (firstCycle ⟨42000, 4⟩ ⟨42001, 2⟩)).2 = .ok envelope ∧
      envelope.payload = some payload ∧
      SeesTop (enrich payload coinStrategy) ⟨42000, 4⟩ ⟨42001, 2⟩ := by
  have hsent : ((runOnce coinWorker newWorker
      (firstCycle ⟨42000, 4⟩ ⟨42001, 2⟩)).2.toOption.bind (·.payload)).isSome := by
    decide +kernel
  obtain ⟨payload, hpayload⟩ := Option.isSome_iff_exists.mp hsent
  obtain ⟨envelope, henvelope, hpayload⟩ := Option.bind_eq_some_iff.mp hpayload
  have hrun := toOption_eq_some_iff.mp henvelope
  have htaken : takenDelta coinWorker
      (bootstrap coinWorker newWorker (firstCycle ⟨42000, 4⟩ ⟨42001, 2⟩)).1
      (firstCycle ⟨42000, 4⟩ ⟨42001, 2⟩) =
        some { exchange := "binance", symbol := "BTC/USDT", sequenceStart := some 101,
               sequenceEnd := some 101, bids := [⟨42000, 4⟩], asks := [⟨42001, 2⟩] } := by
    decide +kernel
  refine ⟨envelope, payload, hrun, hpayload, ?_⟩
  rw [published_top_iff coinStrategy (Prod.ext rfl hrun) hpayload (by decide +kernel)
    (by decide +kernel), PublishesTop, htaken]
  decide +kernel

/-- An update below the top is seen as the top: the book still has the levels of the snapshot. -/
theorem level_below_top_published :
    let c := firstCycle ⟨41999, 4⟩ ⟨42002, 2⟩
    let engine := (runOnce coinWorker newWorker c).1.engine
    (engine.top .bid = some ⟨42000, 5⟩ ∧ engine.top .ask = some ⟨42001, 3⟩) ∧
      (seenContext c).map (fun context => (context.bestBid, context.bestBidSize)) =
        some (some 41999, 4) ∧
      (seenContext c).map (fun context => (context.bestAsk, context.bestAskSize)) =
        some (some 42002, 2) := by
  decide +kernel

end OpenTrader.Ingestion
