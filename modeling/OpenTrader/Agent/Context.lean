import OpenTrader.Market.Canonical

/-!
# Market context

Library `Agent`. `services/agent_orchestrator/market_context_agent.py:8-151`: the top of the book,
its mid price and imbalance, and the position and drawdown the message carries, zero when it
carries none. The news part and the quality notes are left out.
-/

namespace OpenTrader.Agent
open Base Market

/-- `DecisionAction`. -/
inductive DecisionAction where
  | buy
  | sell
  | hold
  | close
  deriving DecidableEq

/-- Text of an action. -/
def DecisionAction.name : DecisionAction → String
  | .buy => "BUY"
  | .sell => "SELL"
  | .hold => "HOLD"
  | .close => "CLOSE"

/-- `action in {"BUY", "SELL", "CLOSE"}`. -/
def DecisionAction.isExecutable : DecisionAction → Bool
  | .hold => false
  | _ => true

/-- `StrategyConfig`; of the allowed actions only the known ones matter. -/
structure StrategyConfig where
  strategyId : String
  symbol : String
  mode : String
  orderSize : ℚ
  plannerBuyThreshold : ℚ
  plannerSellThreshold : ℚ
  riskMaxNotionalUsd : ℚ
  riskMaxPositionSize : ℚ
  riskMaxDrawdownPct : ℚ
  riskMinConfidence : ℚ
  maxLeverage : ℚ := 3
  allowedActions : List DecisionAction := [.buy, .sell, .hold, .close]
  deriving DecidableEq

/-- `_microstructure_regime`. -/
inductive MicrostructureRegime where
  | unknown
  | bidDominant
  | askDominant
  | balanced
  deriving DecidableEq

/-- The context the agents decide on. -/
structure MarketContext where
  exchange : String
  symbol : String
  timestampMs : Option ℤ
  bestBid : Option ℚ
  bestAsk : Option ℚ
  bestBidSize : ℚ
  bestAskSize : ℚ
  midPrice : ℚ
  spreadBps : ℚ
  orderbookImbalance : ℚ
  microstructureRegime : MicrostructureRegime
  currentPosition : ℚ
  drawdownPct : ℚ
  deriving DecidableEq

/-- Side of the book. -/
inductive BookSide where
  | bid
  | ask
  deriving DecidableEq

/-- `price` is better than `other` on a side. -/
def BookSide.better (side : BookSide) (price other : ℚ) : Bool :=
  match side with
  | .bid => other < price
  | .ask => price < other

/-- A level with a readable price and amount; a negative amount counts as none. -/
def parseLevel (level : MarketLevel) : Option (ℚ × ℚ) :=
  match level.price, level.amount with
  | .num price, .num amount => some (price, max 0 amount)
  | _, _ => none

/-- The first best level of a side. -/
def bestLevel (side : BookSide) (levels : List (ℚ × ℚ)) : Option (ℚ × ℚ) :=
  levels.foldl (fun best level =>
    match best with
    | none => some level
    | some b => if side.better level.1 b.1 then some level else best) none

/-- `_extract_level`; `market_context_agent.py:89-113`. -/
def extractLevel (side : BookSide) (levels : List MarketLevel) : Option ℚ × ℚ :=
  match bestLevel side (levels.filterMap parseLevel) with
  | none => (none, 0)
  | some (price, size) => (some price, size)

/-- `(bid_size - ask_size) / total`, zero for an empty top of the book. -/
def imbalance (bidSize askSize : ℚ) : ℚ :=
  if bidSize + askSize > 0 then (bidSize - askSize) / (bidSize + askSize) else 0

/-- `_microstructure_regime`; `market_context_agent.py:115-123`. -/
def microstructureRegime (hasOrderbook : Bool) (orderbookImbalance : ℚ) : MicrostructureRegime :=
  if !hasOrderbook then .unknown
  else if orderbookImbalance ≥ 1 / 5 then .bidDominant
  else if orderbookImbalance ≤ -(1 / 5) then .askDominant
  else .balanced

/-- Mid price and spread in basis points: of the book when both sides are there, else the mid price
the message carries; `market_context_agent.py:18-23`. -/
def midAndSpread (bestBid bestAsk : Option ℚ) (midPrice : NumField) : ℚ × ℚ :=
  match bestBid, bestAsk with
  | some bid, some ask =>
    let mid := (bid + ask) / 2
    (mid, if mid > 0 then (ask - bid) / mid * 10000 else 0)
  | _, _ => (midPrice.toFloatD 0, 0)

/-- `MarketContextAgent.enrich`; `market_context_agent.py:9-88`. -/
def enrich (payload : MarketPayload) (strategy : StrategyConfig) : MarketContext :=
  let (bestBid, bestBidSize) := extractLevel .bid payload.bids
  let (bestAsk, bestAskSize) := extractLevel .ask payload.asks
  let (midPrice, spreadBps) := midAndSpread bestBid bestAsk payload.midPrice
  let orderbookImbalance := imbalance bestBidSize bestAskSize
  { exchange := payload.exchange.getD "unknown"
    symbol := payload.symbol.getD strategy.symbol
    timestampMs := payload.timestampMs
    bestBid
    bestAsk
    bestBidSize
    bestAskSize
    midPrice
    spreadBps
    orderbookImbalance
    microstructureRegime :=
      microstructureRegime (bestBid.isSome && bestAsk.isSome) orderbookImbalance
    currentPosition := payload.currentPosition.toFloatD 0
    drawdownPct := payload.drawdownPct.toFloatD 0 }

/-- A strategy that trades two coins at most. -/
def sampleStrategy : StrategyConfig :=
  { strategyId := "momentum"
    symbol := "BTC/USDT"
    mode := "MOCK"
    orderSize := 1
    plannerBuyThreshold := 1 / 5
    plannerSellThreshold := 1 / 5
    riskMaxNotionalUsd := 1000
    riskMaxPositionSize := 2
    riskMaxDrawdownPct := 1 / 5
    riskMinConfidence := 1 / 10 }

end OpenTrader.Agent
