import OpenTrader.Base.Fallible
import OpenTrader.Oms.Position

/-!
# Core risk rules

Library `Oms`. `services/oms/risk_rules.py:9-226`. A proposed order is measured by the position,
the notional and the leverage it would lead to if it were filled whole. The loss and drawdown rules
read amounts that the caller passes, zero when it does not, and are off at a limit of zero.
`Decimal` and `float` amounts are exact; an infinite leverage is `⊤`.
-/

namespace OpenTrader.Oms
open Base

/-- `CoreRiskCheck`, and `DrawdownDailyLossCheck` of the guards, which has the same fields. -/
structure RiskCheck where
  name : String
  passed : Bool
  value : WithTop ℚ
  limit : ℚ
  message : String
  severity : String := "CRITICAL"
  deriving DecidableEq

/-- The names of the checks that did not pass. -/
def blockedBy (checks : List RiskCheck) : List String :=
  (checks.filter fun check => !check.passed).map (·.name)

/-- Nothing is blocked exactly when every check passed. -/
theorem blockedBy_eq_nil_iff (checks : List RiskCheck) :
    blockedBy checks = [] ↔ ∀ check ∈ checks, check.passed = true := by
  simp [blockedBy]

/-- `ProposedOrder`. -/
structure ProposedOrder where
  mode : String
  symbol : String
  side : String
  quantity : ℚ
  price : ℚ
  deriving DecidableEq

namespace RiskRules

/-- `CoreRiskConfig`; a loss or drawdown limit of zero is off. -/
structure CoreRiskConfig where
  maxPositionAbs : ℚ
  maxSymbolNotionalUsd : ℚ
  maxLeverage : ℚ
  maxDailyLossUsd : ℚ := 0
  maxDrawdownPct : ℚ := 0
  deriving DecidableEq

/-- `CoreRiskEvaluation`. -/
structure CoreRiskEvaluation where
  allowed : Bool
  blockedBy : List String
  projectedPositionQty : ℚ
  projectedSymbolNotionalUsd : ℚ
  projectedTotalExposureUsd : ℚ
  projectedLeverage : WithTop ℚ
  checks : List RiskCheck
  deriving DecidableEq

/-- Reasons of `CoreRiskRuleError`. -/
inductive CoreRiskRuleError where
  | maxPositionAbsNotPositive
  | maxSymbolNotionalUsdNotPositive
  | maxLeverageNotPositive
  | maxDailyLossUsdNegative
  | maxDrawdownPctNegative
  | modeNotSet
  | symbolNotSet
  | unsupportedSide (side : String)
  | quantityNotPositive
  | priceNotPositive
  | modeMismatch (position order : String)
  | symbolMismatch (position order : String)
  deriving DecidableEq

/-- Message text of a rule error. -/
def CoreRiskRuleError.message : CoreRiskRuleError → String
  | maxPositionAbsNotPositive => "max_position_abs must be positive"
  | maxSymbolNotionalUsdNotPositive => "max_symbol_notional_usd must be positive"
  | maxLeverageNotPositive => "max_leverage must be positive"
  | maxDailyLossUsdNegative => "max_daily_loss_usd must be positive"
  | maxDrawdownPctNegative => "max_drawdown_pct must be positive"
  | modeNotSet => "order.mode must be set"
  | symbolNotSet => "order.symbol must be set"
  | unsupportedSide side => "unsupported order side: " ++ side
  | quantityNotPositive => "order.quantity must be positive"
  | priceNotPositive => "order.price must be positive"
  | modeMismatch position order =>
    "position mode mismatch: position=" ++ position ++ ", order=" ++ order
  | symbolMismatch position order =>
    "position symbol mismatch: position=" ++ position ++ ", order=" ++ order

variable (config : CoreRiskConfig)

/-- `_validate_config`; `risk_rules.py:172-183`. -/
def validateConfig : Except CoreRiskRuleError CoreRiskConfig :=
  if config.maxPositionAbs ≤ 0 then .error .maxPositionAbsNotPositive
  else if config.maxSymbolNotionalUsd ≤ 0 then .error .maxSymbolNotionalUsdNotPositive
  else if config.maxLeverage ≤ 0 then .error .maxLeverageNotPositive
  else if config.maxDailyLossUsd < 0 then .error .maxDailyLossUsdNegative
  else if config.maxDrawdownPct < 0 then .error .maxDrawdownPctNegative
  else .ok config

/-- `_validate_order`; `risk_rules.py:186-206`. The quantity loses its sign. -/
def validateOrder (order : ProposedOrder) : Except CoreRiskRuleError ProposedOrder :=
  let mode := upper (strip order.mode)
  let symbol := upper (strip order.symbol)
  let side := upper (strip order.side)
  let quantity := |order.quantity|
  if mode = "" then .error .modeNotSet
  else if symbol = "" then .error .symbolNotSet
  else if side ∉ ["BUY", "SELL"] then .error (.unsupportedSide order.side)
  else if quantity ≤ epsilon then .error .quantityNotPositive
  else if order.price ≤ epsilon then .error .priceNotPositive
  else .ok { mode, symbol, side, quantity, price := order.price }

/-- `_validate_position`; `risk_rules.py:209-221`. -/
def validatePosition (order : ProposedOrder) (position : Option PositionState) :
    Except CoreRiskRuleError Unit :=
  match position with
  | none => .ok ()
  | some p =>
    if upper (strip p.mode) ≠ order.mode then .error (.modeMismatch p.mode order.mode)
    else if upper (strip p.symbol) ≠ order.symbol then
      .error (.symbolMismatch p.symbol order.symbol)
    else .ok ()

/-- `_signed_quantity`; `risk_rules.py:224-226`. -/
def signedQuantity (side : String) (quantity : ℚ) : ℚ :=
  if side = "BUY" then quantity else -quantity

/-- What the caller passes about the account; the last two are optional. -/
structure Account where
  equityUsd : ℚ
  totalExposureUsd : ℚ
  realizedPnlToday : ℚ := 0
  peakEquityUsd : ℚ := 0
  deriving DecidableEq

/-- What an order would lead to if it were filled whole; `risk_rules.py:77-102`. -/
structure Projection where
  quantity : ℚ
  symbolNotional : ℚ
  totalExposure : ℚ
  leverage : WithTop ℚ
  deriving DecidableEq

/-- The projection of a validated order. -/
def project (order : ProposedOrder) (position : Option PositionState) (account : Account) :
    Projection :=
  let currentQuantity := (position.map (·.quantity)).getD 0
  let quantity := currentQuantity + signedQuantity order.side order.quantity
  let currentSymbolNotional := |currentQuantity| * order.price
  let symbolNotional := |quantity| * order.price
  let baseTotalExposure := max 0 account.totalExposureUsd
  let totalExposure := max 0 (baseTotalExposure - currentSymbolNotional + symbolNotional)
  let leverage : WithTop ℚ :=
    if account.equityUsd ≤ epsilon then if totalExposure > epsilon then ⊤ else (0 : ℚ)
    else (totalExposure / account.equityUsd : ℚ)
  { quantity, symbolNotional, totalExposure, leverage }

/-- Drawdown from the peak, zero below a dust peak; `risk_rules.py:143-148`. -/
def drawdownPct (account : Account) : ℚ :=
  if account.peakEquityUsd > epsilon then
    (account.peakEquityUsd - account.equityUsd) / account.peakEquityUsd
  else 0

/-- The checks of an order; `risk_rules.py:104-157`. -/
def checks (p : Projection) (account : Account) : List RiskCheck :=
  let dailyLoss := min 0 account.realizedPnlToday
  [{ name := "position_limit"
     passed := |p.quantity| ≤ config.maxPositionAbs
     value := (|p.quantity| : ℚ)
     limit := config.maxPositionAbs
     message := "Projected absolute position must stay within limit" },
    { name := "symbol_notional_limit"
      passed := p.symbolNotional ≤ config.maxSymbolNotionalUsd
      value := p.symbolNotional
      limit := config.maxSymbolNotionalUsd
      message := "Projected per-symbol notional must stay within limit" },
    { name := "leverage_limit"
      passed := p.leverage ≤ config.maxLeverage
      value := p.leverage
      limit := config.maxLeverage
      message := "Projected account leverage must stay within limit" }] ++
  (if config.maxDailyLossUsd > 0 then
    [{ name := "daily_loss_limit"
       passed := dailyLoss ≥ -config.maxDailyLossUsd
       value := (|dailyLoss| : ℚ)
       limit := config.maxDailyLossUsd
       message := "Daily realized loss exceeds limit" }]
  else []) ++
  if config.maxDrawdownPct > 0 ∧ account.peakEquityUsd > 0 then
    [{ name := "max_drawdown"
       passed := drawdownPct account ≤ config.maxDrawdownPct
       value := drawdownPct account
       limit := config.maxDrawdownPct
       message := "Portfolio drawdown exceeds maximum allowed" }]
  else []

/-- `CoreRiskRuleEngine`; its constructor refuses a config that does not validate. -/
structure CoreRiskRuleEngine where
  config : CoreRiskConfig
  validated : validateConfig config = .ok config

/-- What a validated order is answered; `risk_rules.py:77-169`. -/
def evaluation (order : ProposedOrder) (currentPosition : Option PositionState)
    (account : Account) : CoreRiskEvaluation :=
  let projection := project order currentPosition account
  let checks := checks config projection account
  let blocked := blockedBy checks
  { allowed := blocked.isEmpty
    blockedBy := blocked
    projectedPositionQty := projection.quantity
    projectedSymbolNotionalUsd := projection.symbolNotional
    projectedTotalExposureUsd := projection.totalExposure
    projectedLeverage := projection.leverage
    checks }

/-- `CoreRiskRuleEngine.evaluate`; `risk_rules.py:64-169`. -/
def CoreRiskRuleEngine.evaluate (engine : CoreRiskRuleEngine) (order : ProposedOrder)
    (currentPosition : Option PositionState) (account : Account) :
    Except CoreRiskRuleError CoreRiskEvaluation := do
  let normalizedOrder ← validateOrder order
  validatePosition normalizedOrder currentPosition
  return evaluation engine.config normalizedOrder currentPosition account

/-- An order validates when its mode and symbol are set, its side is known and neither its quantity
nor its price is dust. -/
theorem validateOrder_eq_ok_iff (order normalized : ProposedOrder) :
    validateOrder order = .ok normalized ↔
      (upper (strip order.mode) ≠ "" ∧ upper (strip order.symbol) ≠ "" ∧
        upper (strip order.side) ∈ ["BUY", "SELL"] ∧ epsilon < |order.quantity| ∧
        epsilon < order.price) ∧
      normalized =
        { mode := upper (strip order.mode), symbol := upper (strip order.symbol)
          side := upper (strip order.side), quantity := |order.quantity|
          price := order.price } := by
  unfold validateOrder
  dsimp only
  simp only [guard_eq_ok_iff, Except.ok.injEq, not_not, not_le, ne_eq, and_assoc]
  rw [eq_comm (a := normalized)]

/-- The signed quantity of a validated side is that of the position engine. -/
theorem signedQuantity_eq {side : String} (h : upper (strip side) ∈ ["BUY", "SELL"])
    (quantity : ℚ) :
    ∃ parsed, parseSide side = some parsed ∧
      signedQuantity (upper (strip side)) quantity = parsed.sign * quantity := by
  rcases List.mem_cons.mp h with hbuy | hrest
  · exact ⟨.buy, if_pos hbuy, by simp [signedQuantity, hbuy, Side.sign]⟩
  · have hsell := List.mem_singleton.mp hrest
    refine ⟨.sell, ?_, ?_⟩
    · rw [parseSide, hsell]
      decide
    · rw [signedQuantity, hsell, if_neg (by decide), Side.sign, neg_one_mul]

/-- An order is answered exactly when it and the position validate. -/
theorem CoreRiskRuleEngine.evaluate_eq_ok_iff {engine : CoreRiskRuleEngine}
    {order : ProposedOrder} {position : Option PositionState} {account : Account}
    {e : CoreRiskEvaluation} :
    engine.evaluate order position account = .ok e ↔
      ∃ normalized, validateOrder order = .ok normalized ∧
        validatePosition normalized position = .ok () ∧
        evaluation engine.config normalized position account = e := by
  unfold evaluate
  simp only [bind_eq_ok_iff, pure_eq_ok_iff]
  refine exists_congr fun normalized => and_congr_right fun _ => ?_
  constructor
  · rintro ⟨⟨⟩, h⟩
    exact h
  · intro h
    exact ⟨(), h⟩

/-- An answer allows the order exactly when every check passed. -/
theorem allowed_evaluation (order : ProposedOrder) (position : Option PositionState)
    (account : Account) :
    (evaluation config order position account).allowed = true ↔
      ∀ check ∈ checks config (project order position account) account, check.passed = true := by
  rw [← blockedBy_eq_nil_iff]
  exact List.isEmpty_iff

section
variable {order order' : ProposedOrder} {position : Option PositionState} {account : Account}

private theorem symbolNotional_project_le (hprice : order'.price = order.price)
    (hpos : 0 ≤ order.price)
    (hle : |(project order' position account).quantity| ≤
      |(project order position account).quantity|) :
    (project order' position account).symbolNotional ≤
      (project order position account).symbolNotional := by
  change |(project order' position account).quantity| * order'.price ≤
    |(project order position account).quantity| * order.price
  rw [hprice]
  exact mul_le_mul_of_nonneg_right hle hpos

-- The notional of the current position is taken off at the same price on both sides.
private theorem totalExposure_project_le (hprice : order'.price = order.price)
    (hnotional : (project order' position account).symbolNotional ≤
      (project order position account).symbolNotional) :
    (project order' position account).totalExposure ≤
      (project order position account).totalExposure := by
  apply max_le_max_left
  change _ - _ * order'.price + (project order' position account).symbolNotional ≤
    _ - _ * order.price + (project order position account).symbolNotional
  rw [hprice]
  exact add_le_add_right hnotional _

private theorem leverage_project_le
    (hexposure : (project order' position account).totalExposure ≤
      (project order position account).totalExposure) :
    (project order' position account).leverage ≤ (project order position account).leverage := by
  change (if account.equityUsd ≤ epsilon then
      if (project order' position account).totalExposure > epsilon then (⊤ : WithTop ℚ)
      else (0 : ℚ)
    else ((project order' position account).totalExposure / account.equityUsd : ℚ)) ≤
    if account.equityUsd ≤ epsilon then
      if (project order position account).totalExposure > epsilon then (⊤ : WithTop ℚ)
      else (0 : ℚ)
    else ((project order position account).totalExposure / account.equityUsd : ℚ)
  by_cases hequity : account.equityUsd ≤ epsilon
  · rw [if_pos hequity, if_pos hequity]
    by_cases hlarge : (project order position account).totalExposure > epsilon
    · rw [if_pos hlarge]
      exact le_top
    · have hsmall : ¬(project order' position account).totalExposure > epsilon :=
        fun h => hlarge (lt_of_lt_of_le h hexposure)
      rw [if_neg hlarge, if_neg hsmall]
  · have hpos : 0 < account.equityUsd := lt_trans epsilon_pos (not_le.mp hequity)
    rw [if_neg hequity, if_neg hequity]
    exact WithTop.coe_le_coe.mpr (div_le_div_of_nonneg_right hexposure hpos.le)

-- The loss and drawdown checks read the account alone.
private theorem passed_checks_of_le {config : CoreRiskConfig} {p p' : Projection}
    (hq : |p'.quantity| ≤ |p.quantity|) (hnotional : p'.symbolNotional ≤ p.symbolNotional)
    (hleverage : p'.leverage ≤ p.leverage)
    (hpassed : ∀ check ∈ checks config p account, check.passed = true) :
    ∀ check ∈ checks config p' account, check.passed = true := by
  simp only [checks, List.cons_append, List.nil_append, List.forall_mem_cons,
    decide_eq_true_eq] at hpassed ⊢
  obtain ⟨hpositionLimit, hnotionalLimit, hleverageLimit, hrest⟩ := hpassed
  exact ⟨hq.trans hpositionLimit, hnotional.trans hnotionalLimit,
    hleverage.trans hleverageLimit, hrest⟩

private theorem validatePosition_congr (hmode : order'.mode = order.mode)
    (hsym : order'.symbol = order.symbol) :
    validatePosition order' position = .ok () ↔ validatePosition order position = .ok () := by
  cases position with
  | none => exact Iff.rfl
  | some p => simp only [validatePosition, guard_eq_ok_iff, hmode, hsym]

private theorem allowed_evaluation_of_le {config : CoreRiskConfig}
    (hprice : order'.price = order.price) (hpos : 0 ≤ order.price)
    (hle : |(project order' position account).quantity| ≤
      |(project order position account).quantity|)
    (hallow : (evaluation config order position account).allowed = true) :
    (evaluation config order' position account).allowed = true := by
  rw [allowed_evaluation] at hallow ⊢
  have hnotional := symbolNotional_project_le hprice hpos hle
  have hexposure := totalExposure_project_le hprice hnotional
  exact passed_checks_of_le hle hnotional (leverage_project_le hexposure) hallow

private theorem normalized_of_validateOrder {normalized : ProposedOrder}
    (hv : validateOrder order = .ok normalized) :
    normalized.mode = upper (strip order.mode) ∧
      normalized.symbol = upper (strip order.symbol) ∧ normalized.price = order.price ∧
      epsilon < order.price := by
  obtain ⟨⟨-, -, -, -, hd⟩, rfl⟩ := (validateOrder_eq_ok_iff order normalized).mp hv
  exact ⟨rfl, rfl, rfl, hd⟩

/-- Admission is monotone in the projected position: beside an order that is allowed, an order that
validates for the same mode, symbol and price is answered, and allowed if it would leave a position
no larger. -/
theorem CoreRiskRuleEngine.allowed_of_projected_le (engine : CoreRiskRuleEngine)
    (position : Option PositionState) (account : Account) (order order' : ProposedOrder)
    (e : CoreRiskEvaluation) (hevaluate : engine.evaluate order position account = .ok e)
    (hallowed : e.allowed = true) (normalized' : ProposedOrder)
    (hvalid : validateOrder order' = .ok normalized')
    (hmode : upper (strip order'.mode) = upper (strip order.mode))
    (hsymbol : upper (strip order'.symbol) = upper (strip order.symbol))
    (hprice : order'.price = order.price) :
    ∃ e', engine.evaluate order' position account = .ok e' ∧
      (|e'.projectedPositionQty| ≤ |e.projectedPositionQty| → e'.allowed = true) := by
  obtain ⟨normalized, hnormalized, hposition, rfl⟩ := evaluate_eq_ok_iff.mp hevaluate
  obtain ⟨hmode₁, hsymbol₁, hprice₁, hdust⟩ := normalized_of_validateOrder hnormalized
  obtain ⟨hmode₂, hsymbol₂, hprice₂, -⟩ := normalized_of_validateOrder hvalid
  have hsamePrice : normalized'.price = normalized.price := by rw [hprice₁, hprice₂, hprice]
  have hvalidPosition := (validatePosition_congr (hmode₂.trans (hmode.trans hmode₁.symm))
    (hsymbol₂.trans (hsymbol.trans hsymbol₁.symm))).mpr hposition
  refine ⟨_, evaluate_eq_ok_iff.mpr ⟨normalized', hvalid, hvalidPosition, rfl⟩, ?_⟩
  intro hle
  have hpositive : 0 ≤ normalized.price := by
    rw [hprice₁]
    exact (epsilon_pos.trans hdust).le
  exact allowed_evaluation_of_le hsamePrice hpositive hle hallowed

end

private theorem validateConfig_sample :
    validateConfig { maxPositionAbs := 5, maxSymbolNotionalUsd := 500, maxLeverage := 3 } =
      .ok { maxPositionAbs := 5, maxSymbolNotionalUsd := 500, maxLeverage := 3 } := by
  decide +kernel

private def sampleEngine : CoreRiskRuleEngine := ⟨_, validateConfig_sample⟩

private def sampleBuy : ProposedOrder :=
  { mode := "MOCK", symbol := "BTC/USDT", side := "BUY", quantity := 2, price := 100 }

private def sampleSell : ProposedOrder :=
  { mode := "mock", symbol := "btc/usdt", side := "sell", quantity := 1, price := 100 }

private def sampleAccount : Account := { equityUsd := 100, totalExposureUsd := 0 }

/-- Two bought are allowed at an equity of a hundred, so one sold short is. -/
theorem CoreRiskRuleEngine.allowed_of_projected_le_sell :
    (evaluation sampleEngine.config sampleBuy none sampleAccount).allowed = true ∧
      ∃ e', sampleEngine.evaluate sampleSell none sampleAccount = .ok e' ∧
        (|e'.projectedPositionQty| ≤
            |(evaluation sampleEngine.config sampleBuy none sampleAccount).projectedPositionQty| →
          e'.allowed = true) :=
  ⟨by decide +kernel,
    sampleEngine.allowed_of_projected_le none sampleAccount sampleBuy sampleSell _
      (by decide +kernel) (by decide +kernel)
      { mode := "MOCK", symbol := "BTC/USDT", side := "SELL", quantity := 1, price := 100 }
      (by decide +kernel) (by decide +kernel) (by decide +kernel) rfl⟩

end RiskRules

end OpenTrader.Oms
