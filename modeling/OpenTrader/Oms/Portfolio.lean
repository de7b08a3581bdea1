import OpenTrader.Base.Dict
import OpenTrader.Base.Fallible
import OpenTrader.Oms.Position

/-!
# Portfolio snapshots

Library `Oms`. `services/oms/portfolio_snapshot.py:11-86`. A snapshot adds the marked
profit of the open positions to the balances it is given.
-/

namespace OpenTrader.Oms
open Base

/-- `PortfolioSnapshot`. -/
structure PortfolioSnapshot where
  snapshotTime : String
  mode : String
  totalBalanceUsd : ℚ
  availableBalanceUsd : ℚ
  lockedBalanceUsd : ℚ
  unrealizedPnl : ℚ
  realizedPnlTotal : ℚ
  deriving DecidableEq

/-- Reasons of `PortfolioSnapshotEngineError`. -/
inductive PortfolioSnapshotEngineError where
  | modeMismatch (expected got : String)
  | missingMarkPrice (symbol : String)
  deriving DecidableEq

/-- Message text of a snapshot error. -/
def PortfolioSnapshotEngineError.message : PortfolioSnapshotEngineError → String
  | .modeMismatch expected got =>
    "position mode mismatch: expected " ++ expected ++ ", got " ++ got
  | .missingMarkPrice symbol => "missing mark price for open position symbol: " ++ symbol

variable (normalizedMode : String) (markPrices : Dict String ℚ) (position : PositionState)

/-- Marked profit of one position; `portfolio_snapshot.py:52-69`. -/
def markPosition : Except PortfolioSnapshotEngineError ℚ :=
  if upper (strip position.mode) ≠ normalizedMode then
    .error (.modeMismatch normalizedMode position.mode)
  else if |position.quantity| ≤ epsilon then .ok 0
  else
    match markPrices.get? position.symbol with
    | none => .error (.missingMarkPrice position.symbol)
    | some markPrice => .ok ((markPrice - position.averageEntryPrice) * position.quantity)

/-- The loop over the positions; `portfolio_snapshot.py:51-69`. -/
def unrealizedPnl (normalizedMode : String) (markPrices : Dict String ℚ) :
    List PositionState → Except PortfolioSnapshotEngineError ℚ
  | [] => .ok 0
  | position :: positions => do
    let pnl ← markPosition normalizedMode markPrices position
    return pnl + (← unrealizedPnl normalizedMode markPrices positions)

/-- `PortfolioSnapshotEngine.build_snapshot`; `portfolio_snapshot.py:29-86`. -/
def buildSnapshot (now mode : String) (availableBalanceUsd lockedBalanceUsd : ℚ)
    (positions : List PositionState) (markPrices : Dict String ℚ)
    (realizedPnlTotal : Option ℚ := none) (snapshotTime : Option String := none) :
    Except PortfolioSnapshotEngineError PortfolioSnapshot := do
  let normalizedMode := upper (strip mode)
  let unrealized ← unrealizedPnl normalizedMode markPrices positions
  return {
    snapshotTime := if truthy snapshotTime then snapshotTime.getD now else now
    mode := normalizedMode
    totalBalanceUsd := availableBalanceUsd + lockedBalanceUsd + unrealized
    availableBalanceUsd
    lockedBalanceUsd
    unrealizedPnl := unrealized
    realizedPnlTotal := realizedPnlTotal.getD (positions.map (·.realizedPnl)).sum }

/-- Marked profit of a position at the recorded price of its symbol, zero for dust. -/
def markedPnl : ℚ :=
  if |position.quantity| ≤ epsilon then 0
  else ((markPrices.get? position.symbol).getD 0 - position.averageEntryPrice) * position.quantity

variable {mode : String} {marks : Dict String ℚ} {snapshot : PortfolioSnapshot} {p : PositionState}
  {time : Option String} {realized : Option ℚ} {now : String} {x available locked : ℚ}

private theorem markPosition_ok (h : markPosition mode marks p = .ok x) :
    x = markedPnl marks p := by
  unfold markPosition at h
  unfold markedPnl
  split at h
  · cases h
  · split at h
    · next hq => rw [if_pos hq]; cases h; rfl
    · next hq =>
      rw [if_neg hq]
      cases hmark : marks.get? p.symbol with
      | none => rw [hmark] at h; cases h
      | some mark => rw [hmark] at h; cases h; rfl

variable {positions : List PositionState}

private theorem unrealizedPnl_ok (h : unrealizedPnl mode marks positions = .ok x) :
    x = (positions.map (markedPnl marks)).sum := by
  induction positions generalizing x with
  | nil => cases h; rfl
  | cons p ps ih =>
    rw [unrealizedPnl] at h
    cases hp : markPosition mode marks p with
    | error e => rw [hp] at h; cases h
    | ok y =>
      cases hps : unrealizedPnl mode marks ps with
      | error e => rw [hp, hps] at h; cases h
      | ok z =>
        rw [hp, hps] at h
        cases h
        simp [ih hps, markPosition_ok hp]

/-- The snapshot engine takes the position: it has the mode of the snapshot and, unless it is flat,
a recorded price. -/
def Markable : Prop :=
  upper (strip position.mode) = normalizedMode ∧
    (|position.quantity| ≤ epsilon ∨ (markPrices.get? position.symbol).isSome)

instance (normalizedMode : String) (markPrices : Dict String ℚ) (position : PositionState) :
    Decidable (Markable normalizedMode markPrices position) :=
  inferInstanceAs (Decidable (_ ∧ _))

private theorem markPosition_isOk_iff :
    (∃ x, markPosition mode marks p = .ok x) ↔ Markable mode marks p := by
  unfold markPosition Markable
  by_cases hmode : upper (strip p.mode) = mode
  · rw [if_neg (not_not.mpr hmode), and_iff_right hmode]
    by_cases hflat : |p.quantity| ≤ epsilon
    · simp [hflat]
    · cases marks.get? p.symbol <;> simp [hflat]
  · rw [if_pos hmode]
    simp [hmode]

private theorem unrealizedPnl_isOk_iff :
    (∃ x, unrealizedPnl mode marks positions = .ok x) ↔
      ∀ p ∈ positions, Markable mode marks p := by
  induction positions with
  | nil => simp [unrealizedPnl]
  | cons p ps ih =>
    rw [List.forall_mem_cons, ← markPosition_isOk_iff, ← ih]
    simp only [unrealizedPnl, bind_eq_ok_iff, pure_eq_ok_iff]
    constructor
    · rintro ⟨_, pnl, hp, rest, hps, -⟩
      exact ⟨⟨pnl, hp⟩, rest, hps⟩
    · rintro ⟨⟨pnl, hp⟩, rest, hps⟩
      exact ⟨_, pnl, hp, rest, hps, rfl⟩

/-- A snapshot is built exactly when the engine takes every position. -/
theorem buildSnapshot_isOk_iff {now mode : String} {available locked : ℚ}
    {positions : List PositionState} {marks : Dict String ℚ} {realized : Option ℚ}
    {time : Option String} :
    (∃ snapshot, buildSnapshot now mode available locked positions marks realized time =
        .ok snapshot) ↔
      ∀ p ∈ positions, Markable (upper (strip mode)) marks p := by
  rw [← unrealizedPnl_isOk_iff]
  simp only [buildSnapshot, bind_eq_ok_iff, pure_eq_ok_iff]
  constructor
  · rintro ⟨_, x, hx, -⟩
    exact ⟨x, hx⟩
  · rintro ⟨x, hx⟩
    exact ⟨_, x, hx, rfl⟩

/-- The profits of a snapshot are the marked ones and the realized ones it is given. -/
theorem buildSnapshot_pnl
    (h : buildSnapshot now mode available locked positions marks realized time = .ok snapshot) :
    snapshot.totalBalanceUsd = available + locked + snapshot.unrealizedPnl ∧
      snapshot.unrealizedPnl = (positions.map (markedPnl marks)).sum ∧
      snapshot.realizedPnlTotal = realized.getD (positions.map (·.realizedPnl)).sum := by
  simp only [buildSnapshot, bind_eq_ok_iff, pure_eq_ok_iff] at h
  obtain ⟨unrealized, hu, rfl⟩ := h
  exact ⟨rfl, unrealizedPnl_ok hu, rfl⟩

end OpenTrader.Oms
