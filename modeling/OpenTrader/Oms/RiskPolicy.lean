import OpenTrader.Base.Distinct
import OpenTrader.Oms.Portfolio
import OpenTrader.Oms.RiskControls
import OpenTrader.Oms.RiskRules

/-!
# Portfolio guards and the composed risk policy

Library `Oms`. `services/oms/risk_guards.py:8-100`, `services/oms/risk_policy.py:23-130`. The policy
asks the core rules, the guards and the stop controls and blocks what any of them blocks. It passes
the core rules neither the realized profit nor the peak equity, so their loss limits are never
measured: what limits losses is the configuration of the guards.
-/

namespace OpenTrader.Oms
open Base RiskRules

namespace RiskGuards

/-- `DrawdownDailyLossConfig`. -/
structure DrawdownDailyLossConfig where
  maxDrawdownPct : ℚ
  maxDailyLossUsd : ℚ
  deriving DecidableEq

/-- `DrawdownDailyLossEvaluation`. -/
structure DrawdownDailyLossEvaluation where
  allowed : Bool
  blockedBy : List String
  drawdownPct : ℚ
  dailyLossUsd : ℚ
  checks : List RiskCheck
  deriving DecidableEq

/-- Reasons of `DrawdownDailyLossGuardError`. -/
inductive DrawdownDailyLossGuardError where
  | maxDrawdownPctOutOfRange
  | maxDailyLossUsdNegative
  deriving DecidableEq

/-- Message text of a guard error. -/
def DrawdownDailyLossGuardError.message : DrawdownDailyLossGuardError → String
  | maxDrawdownPctOutOfRange => "max_drawdown_pct must be between 0 and 1"
  | maxDailyLossUsdNegative => "max_daily_loss_usd must be non-negative"

/-- `_validate_config`; `risk_guards.py:95-100`. -/
def validateConfig (config : DrawdownDailyLossConfig) :
    Except DrawdownDailyLossGuardError DrawdownDailyLossConfig :=
  if ¬ (0 ≤ config.maxDrawdownPct ∧ config.maxDrawdownPct ≤ 1) then
    .error .maxDrawdownPctOutOfRange
  else if config.maxDailyLossUsd < 0 then .error .maxDailyLossUsdNegative
  else .ok config

/-- `DrawdownDailyLossGuardEngine`; its constructor refuses a config that does not validate. -/
structure DrawdownDailyLossGuardEngine where
  config : DrawdownDailyLossConfig
  validated : validateConfig config = .ok config

/-- `DrawdownDailyLossGuardEngine.evaluate`; `risk_guards.py:46-92`. -/
def DrawdownDailyLossGuardEngine.evaluate (engine : DrawdownDailyLossGuardEngine)
    (snapshot : PortfolioSnapshot) (peakEquityUsd : ℚ) (dailyPnlUsd : Option ℚ := none) :
    DrawdownDailyLossEvaluation :=
  let peakEquity := max 0 peakEquityUsd
  let currentEquity := snapshot.totalBalanceUsd
  let drawdownPct :=
    if peakEquity ≤ epsilon then 0 else max 0 ((peakEquity - currentEquity) / peakEquity)
  let dailyLossUsd := max 0 (-(dailyPnlUsd.getD snapshot.realizedPnlTotal))
  let checks : List RiskCheck :=
    [{ name := "drawdown_limit"
       passed := drawdownPct ≤ engine.config.maxDrawdownPct
       value := drawdownPct
       limit := engine.config.maxDrawdownPct
       message := "Current drawdown must stay within configured threshold" },
      { name := "daily_loss_limit"
        passed := dailyLossUsd ≤ engine.config.maxDailyLossUsd
        value := dailyLossUsd
        limit := engine.config.maxDailyLossUsd
        message := "Daily realized loss must stay within configured threshold" }]
  let blocked := blockedBy checks
  { allowed := blocked.isEmpty, blockedBy := blocked, drawdownPct, dailyLossUsd, checks }

end RiskGuards

open RiskGuards

/-- `RiskPolicyDecision`. -/
structure RiskPolicyDecision where
  allowed : Bool
  blockedBy : List String
  core : CoreRiskEvaluation
  guards : DrawdownDailyLossEvaluation
  controls : RiskControlGate
  deriving DecidableEq

/-- `RiskPolicyEngine`, built from a config both parts of which validate. Its stop controls are
state and passed to `evaluate`. -/
structure RiskPolicyEngine where
  core : CoreRiskRuleEngine
  guards : DrawdownDailyLossGuardEngine

/-- `_merge_blocked`; `risk_policy.py:119-130`. -/
def mergeBlocked (core : CoreRiskEvaluation) (guards : DrawdownDailyLossEvaluation)
    (controls : RiskControlGate) : List String :=
  distinctBy id (core.blockedBy ++ guards.blockedBy ++ controls.blockedBy.map (·.name))

variable (engine : RiskPolicyEngine) (controls : RiskControlPlane) (config : CoreRiskConfig)
  (order : ProposedOrder) (position : Option PositionState) (snapshot : PortfolioSnapshot)
  (peak exposure : ℚ) (now : Instant)

/-- The account as the policy describes it to the core rules; `risk_policy.py:85-90` passes neither
the realized profit nor the peak. -/
def policyAccount (currentTotalExposureUsd : ℚ) : Account :=
  { equityUsd := snapshot.totalBalanceUsd, totalExposureUsd := currentTotalExposureUsd }

/-- `RiskPolicyEngine.evaluate`; `risk_policy.py:72-110`, with the controls it leaves. The
observability sink only receives the decision. -/
def RiskPolicyEngine.evaluate (engine : RiskPolicyEngine) (controls : RiskControlPlane)
    (order : ProposedOrder) (currentPosition : Option PositionState)
    (snapshot : PortfolioSnapshot) (peakEquityUsd currentTotalExposureUsd : ℚ) (now : Instant) :
    Except CoreRiskRuleError (RiskPolicyDecision × RiskControlPlane) := do
  let core ← engine.core.evaluate order currentPosition
    (policyAccount snapshot currentTotalExposureUsd)
  let guards := engine.guards.evaluate snapshot peakEquityUsd
  let (gate, controls) := controls.evaluateOrderAllowed now
  let blocked := mergeBlocked core guards gate
  return ({ allowed := blocked.isEmpty, blockedBy := blocked, core, guards, controls := gate },
    controls)

/-! ### What the policy enforces -/

/-- The realized loss or the drawdown is beyond the limits of the core configuration. -/
def ExceedsCoreLoss : Prop :=
  snapshot.realizedPnlTotal < -config.maxDailyLossUsd ∨
    0 < peak ∧ config.maxDrawdownPct < (peak - snapshot.totalBalanceUsd) / peak

/-- The realized loss or the drawdown is beyond the limits of the guards, which measure no drawdown
from a dust peak. -/
def ExceedsGuards (config : DrawdownDailyLossConfig) (snapshot : PortfolioSnapshot) (peak : ℚ) :
    Prop :=
  snapshot.realizedPnlTotal < -config.maxDailyLossUsd ∨
    epsilon < peak ∧ config.maxDrawdownPct < (peak - snapshot.totalBalanceUsd) / peak

/-- The order validates and leads within the position, notional and leverage limits. -/
def WithinCoreLimits (account : Account) : Prop :=
  ∃ normalized, validateOrder order = .ok normalized ∧
    validatePosition normalized position = .ok () ∧
    |(project normalized position account).quantity| ≤ config.maxPositionAbs ∧
    (project normalized position account).symbolNotional ≤ config.maxSymbolNotionalUsd ∧
    (project normalized position account).leverage ≤ config.maxLeverage

private theorem checks_policyAccount (p : Projection) (snapshot : PortfolioSnapshot)
    (exposure : ℚ) :
    (∀ check ∈ checks config p (policyAccount snapshot exposure), check.passed = true) ↔
      |p.quantity| ≤ config.maxPositionAbs ∧ p.symbolNotional ≤ config.maxSymbolNotionalUsd ∧
        p.leverage ≤ config.maxLeverage := by
  have hloss : (min 0 (policyAccount snapshot exposure).realizedPnlToday : ℚ) = 0 := min_self 0
  have hpeak : ¬ (config.maxDrawdownPct > 0 ∧
      (policyAccount snapshot exposure).peakEquityUsd > 0) := fun h => lt_irrefl _ h.2
  unfold checks
  rw [if_neg hpeak, hloss, List.append_nil]
  by_cases hpos : config.maxDailyLossUsd > 0
  · simp [hpos, hpos.le]
  · simp [hpos]

private theorem core_allows_iff (engine : CoreRiskRuleEngine) (order : ProposedOrder)
    (position : Option PositionState) (snapshot : PortfolioSnapshot) (exposure : ℚ) :
    (∃ e, engine.evaluate order position (policyAccount snapshot exposure) = .ok e ∧
        e.allowed = true) ↔
      WithinCoreLimits engine.config order position (policyAccount snapshot exposure) := by
  constructor
  · rintro ⟨e, heval, hallow⟩
    obtain ⟨normalized, ho, hposition, rfl⟩ := CoreRiskRuleEngine.evaluate_eq_ok_iff.mp heval
    exact ⟨normalized, ho, hposition, (checks_policyAccount _ _ _ _).mp
      ((allowed_evaluation _ _ _ _).mp hallow)⟩
  · rintro ⟨normalized, ho, hposition, hlimits⟩
    exact ⟨_, CoreRiskRuleEngine.evaluate_eq_ok_iff.mpr ⟨normalized, ho, hposition, rfl⟩,
      (allowed_evaluation _ _ _ _).mpr ((checks_policyAccount _ _ _ _).mpr hlimits)⟩

private theorem guardDrawdown_le_iff {limit : ℚ} (hlimit : 0 ≤ limit) (peak balance : ℚ) :
    (if max 0 peak ≤ epsilon then 0 else max 0 ((max 0 peak - balance) / max 0 peak)) ≤ limit ↔
      ¬ (epsilon < peak ∧ limit < (peak - balance) / peak) := by
  by_cases hd : peak ≤ epsilon
  · rw [if_pos (max_le epsilon_pos.le hd)]
    exact iff_of_true hlimit fun h => absurd h.1 (not_lt.mpr hd)
  · have hpeak : epsilon < peak := not_le.mp hd
    have hmax : max 0 peak = peak := max_eq_right (epsilon_pos.trans hpeak).le
    rw [hmax, if_neg hd, max_le_iff, and_iff_right hlimit, and_iff_right hpeak, not_lt]

private theorem guards_allow_iff (engine : DrawdownDailyLossGuardEngine)
    (snapshot : PortfolioSnapshot) (peak : ℚ) :
    (engine.evaluate snapshot peak).allowed = true ↔
      ¬ ExceedsGuards engine.config snapshot peak := by
  obtain ⟨hdrawdown, hv⟩ := guard_eq_ok_iff.mp engine.validated
  have hpct : 0 ≤ engine.config.maxDrawdownPct := (not_not.mp hdrawdown).1
  have hloss : 0 ≤ engine.config.maxDailyLossUsd := not_lt.mp (guard_eq_ok_iff.mp hv).1
  have hlossIff : max 0 (-snapshot.realizedPnlTotal) ≤ engine.config.maxDailyLossUsd ↔
      ¬ snapshot.realizedPnlTotal < -engine.config.maxDailyLossUsd := by
    rw [max_le_iff, and_iff_right hloss, not_lt, neg_le]
  rw [ExceedsGuards, not_or, ← hlossIff, ← guardDrawdown_le_iff hpct]
  unfold DrawdownDailyLossGuardEngine.evaluate
  rw [List.isEmpty_iff, blockedBy_eq_nil_iff]
  simp [and_comm]

private theorem isEmpty_mergeBlocked {engine : CoreRiskRuleEngine} {order : ProposedOrder}
    {position : Option PositionState} {account : Account} {core : CoreRiskEvaluation}
    (hcore : engine.evaluate order position account = .ok core)
    (guards : DrawdownDailyLossGuardEngine) (snapshot : PortfolioSnapshot) (peak : ℚ)
    (controls : RiskControlPlane) (now : Instant) :
    (mergeBlocked core (guards.evaluate snapshot peak)
        (controls.evaluateOrderAllowed now).1).isEmpty = true ↔
      core.allowed = true ∧ (guards.evaluate snapshot peak).allowed = true ∧
        (controls.evaluateOrderAllowed now).1.allowed = true := by
  obtain ⟨normalized, -, -, rfl⟩ := CoreRiskRuleEngine.evaluate_eq_ok_iff.mp hcore
  rw [List.isEmpty_iff, mergeBlocked, distinctBy_eq_nil_iff, List.append_eq_nil_iff,
    List.append_eq_nil_iff, List.map_eq_nil_iff, ← List.isEmpty_iff, ← List.isEmpty_iff,
    ← List.isEmpty_iff, and_assoc]
  exact Iff.rfl

private theorem policy_allows_iff :
    (∃ result, engine.evaluate controls order position snapshot peak exposure now = .ok result ∧
        result.1.allowed = true) ↔
      WithinCoreLimits engine.core.config order position (policyAccount snapshot exposure) ∧
        ¬ ExceedsGuards engine.guards.config snapshot peak ∧ ¬ controls.stops.Blocks now := by
  rw [← core_allows_iff, ← guards_allow_iff, ← controls.allowed_evaluateOrderAllowed]
  unfold RiskPolicyEngine.evaluate
  simp only [bind_eq_ok_iff, pure_eq_ok_iff]
  constructor
  · rintro ⟨result, ⟨core, hcore, rfl⟩, hallow⟩
    obtain ⟨hc, hg, hk⟩ := (isEmpty_mergeBlocked hcore _ _ _ _ _).mp hallow
    exact ⟨⟨core, hcore, hc⟩, hg, hk⟩
  · rintro ⟨⟨core, hcore, hc⟩, hg, hk⟩
    exact ⟨_, ⟨core, hcore, rfl⟩, (isEmpty_mergeBlocked hcore _ _ _ _ _).mpr ⟨hc, hg, hk⟩⟩

/-- The policy does not allow an order while a core loss limit is exceeded. -/
def EnforcesCoreLoss : Prop :=
  ExceedsCoreLoss engine.core.config snapshot peak → ∀ result,
    engine.evaluate controls order position snapshot peak exposure now = .ok result →
      result.1.allowed = false

/-- An exceeded core loss limit is enforced exactly when something else blocks the order: the
limits of the guards, the other core limits or a stop. -/
theorem enforcesCoreLoss_iff (engine : RiskPolicyEngine) (controls : RiskControlPlane)
    (order : ProposedOrder) (position : Option PositionState) (snapshot : PortfolioSnapshot)
    (peak exposure : ℚ) (now : Instant) :
    EnforcesCoreLoss engine controls order position snapshot peak exposure now ↔
      (ExceedsCoreLoss engine.core.config snapshot peak →
        ExceedsGuards engine.guards.config snapshot peak ∨
        ¬ WithinCoreLimits engine.core.config order position (policyAccount snapshot exposure) ∨
        controls.stops.Blocks now) := by
  have hallows := policy_allows_iff engine controls order position snapshot peak exposure now
  refine forall_congr' fun _ => ?_
  constructor
  · intro hnever
    by_contra hpasses
    push Not at hpasses
    obtain ⟨result, hresult, hallowed⟩ := hallows.mpr ⟨hpasses.2.1, hpasses.1, hpasses.2.2⟩
    rw [hnever result hresult] at hallowed
    cases hallowed
  · intro hblocks result hresult
    by_contra hallowed
    obtain ⟨hlimits, hguards, hstops⟩ :=
      hallows.mp ⟨result, hresult, Bool.eq_true_of_not_eq_false hallowed⟩
    rcases hblocks with hexceeds | houtside | hblocked
    · exact hguards hexceeds
    · exact houtside hlimits
    · exact hstops hblocked

/-- A core loss limit of 100 and a core drawdown limit of a tenth, under wider guards. -/
def widerGuards : RiskPolicyEngine where
  core :=
    { config := { maxPositionAbs := 10, maxSymbolNotionalUsd := 100000, maxLeverage := 5,
                  maxDailyLossUsd := 100, maxDrawdownPct := 1 / 10 }
      validated := by decide +kernel }
  guards :=
    { config := { maxDrawdownPct := 1 / 2, maxDailyLossUsd := 1000 }
      validated := by decide +kernel }

/-- A portfolio with a realized loss of 500. -/
def losingSnapshot : PortfolioSnapshot where
  snapshotTime := "t"
  mode := "MOCK"
  totalBalanceUsd := 9500
  availableBalanceUsd := 9500
  lockedBalanceUsd := 0
  unrealizedPnl := 0
  realizedPnlTotal := -500

/-- An order to buy one. -/
def smallOrder : ProposedOrder := ⟨"MOCK", "BTC/USDT", "BUY", 1, 100⟩

/-- The order is allowed after a loss of five times the core limit. -/
theorem core_loss_limit_not_enforced :
    (widerGuards.evaluate {} smallOrder none losingSnapshot 10000 0 0).toOption.any
        (·.1.allowed) = true ∧
      losingSnapshot.realizedPnlTotal < -widerGuards.core.config.maxDailyLossUsd ∧
      ¬ EnforcesCoreLoss widerGuards {} smallOrder none losingSnapshot 10000 0 0 := by
  have hallowed : (widerGuards.evaluate {} smallOrder none losingSnapshot 10000 0 0).toOption.any
      (·.1.allowed) = true := by decide +kernel
  have hloss : losingSnapshot.realizedPnlTotal < -widerGuards.core.config.maxDailyLossUsd := by
    decide +kernel
  refine ⟨hallowed, hloss, fun henforced => ?_⟩
  cases hresult : widerGuards.evaluate {} smallOrder none losingSnapshot 10000 0 0 with
  | error e =>
    rw [hresult] at hallowed
    cases hallowed
  | ok result =>
    have hrefused := henforced (.inl hloss) result hresult
    rw [hresult] at hallowed
    exact absurd (hrefused.symm.trans hallowed) (by decide)

end OpenTrader.Oms
