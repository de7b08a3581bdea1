import Mathlib.Tactic.FieldSimp
import Mathlib.Tactic.Linarith
import Mathlib.Tactic.Ring
import OpenTrader.Base.Text

/-!
# Netted position ledger

Library `Oms`. `services/oms/position_engine.py:8-145`. A fill opens, adds to, reduces,
closes or flips one net position. Quantities of absolute value at most `1e-9` are dust:
a dust fill is refused and a dust remainder is dropped. `Decimal` amounts are exact.
-/

namespace OpenTrader.Oms
open Base

/-- `_EPSILON`, the dust threshold. -/
def epsilon : ℚ := 1 / 1000000000

/-- The dust threshold is positive. -/
theorem epsilon_pos : 0 < epsilon := by
  unfold epsilon
  norm_num

/-- Side of a fill. -/
inductive Side where
  | buy
  | sell
  deriving DecidableEq

/-- Direction in which a side moves the position. -/
def Side.sign : Side → ℚ
  | .buy => 1
  | .sell => -1

/-- A side keeps the size of what it moves. -/
theorem Side.abs_sign_mul (side : Side) (x : ℚ) : |side.sign * x| = |x| := by
  cases side <;> simp [Side.sign]

/-- `side.strip().upper()` compared with `BUY` and `SELL`. -/
def parseSide (side : String) : Option Side :=
  if upper (strip side) = "BUY" then some .buy
  else if upper (strip side) = "SELL" then some .sell
  else none

/-- Position status texts `OPEN` and `CLOSED`. -/
inductive PositionStatus where
  | opened
  | closed
  deriving DecidableEq

/-- `PositionState`. -/
structure PositionState where
  mode : String
  symbol : String
  quantity : ℚ
  averageEntryPrice : ℚ
  realizedPnl : ℚ
  status : PositionStatus
  updatedAt : String
  deriving DecidableEq

/-- `PositionFill`. -/
structure PositionFill where
  orderId : String
  mode : String
  symbol : String
  side : String
  quantity : ℚ
  price : ℚ
  fee : ℚ := 0
  filledAt : Option String := none
  deriving DecidableEq

/-- `PositionUpdate`. -/
structure PositionUpdate where
  previous : PositionState
  current : PositionState
  realizedPnlDelta : ℚ
  deriving DecidableEq

/-- Reasons of `PositionEngineError`. -/
inductive PositionEngineError where
  | quantityNotPositive
  | unsupportedSide (side : String)
  | modeMismatch (position fill : String)
  | symbolMismatch (position fill : String)
  deriving DecidableEq

/-- Message text of a position error. -/
def PositionEngineError.message : PositionEngineError → String
  | .quantityNotPositive => "fill.quantity must be positive"
  | .unsupportedSide side => "unsupported fill side: " ++ side
  | .modeMismatch position fill =>
    "position mode mismatch: position=" ++ position ++ ", fill=" ++ fill
  | .symbolMismatch position fill =>
    "position symbol mismatch: position=" ++ position ++ ", fill=" ++ fill

/-- `_signed_quantity`; `position_engine.py:109-118`. -/
def signedQuantity (fill : PositionFill) : Except PositionEngineError ℚ :=
  if |fill.quantity| ≤ epsilon then .error .quantityNotPositive
  else
    match parseSide fill.side with
    | some .buy => .ok |fill.quantity|
    | some .sell => .ok (-|fill.quantity|)
    | none => .error (.unsupportedSide fill.side)

/-- `_same_direction`; `position_engine.py:121-122`. -/
def sameDirection (left right : ℚ) : Prop := (left > 0 ∧ right > 0) ∨ (left < 0 ∧ right < 0)

instance (left right : ℚ) : Decidable (sameDirection left right) :=
  inferInstanceAs (Decidable (_ ∨ _))

variable (q : ℚ) (now : String) (a x : ℚ)

/-- `_empty_position`; `position_engine.py:125-134`. -/
def emptyPosition (mode symbol : String) : PositionState :=
  { mode, symbol, quantity := 0, averageEntryPrice := 0, realizedPnl := 0, status := .closed,
    updatedAt := now }

/-- `_validate_position_compatibility`; `position_engine.py:137-145`. -/
def validatePositionCompatibility (position : PositionState) (fill : PositionFill) :
    Except PositionEngineError Unit :=
  if position.mode ≠ fill.mode then .error (.modeMismatch position.mode fill.mode)
  else if position.symbol ≠ fill.symbol then .error (.symbolMismatch position.symbol fill.symbol)
  else .ok ()

/-- New quantity, new average entry price and profit of the closed part of a fill. -/
structure Netting where
  quantity : ℚ
  average : ℚ
  realized : ℚ
  deriving DecidableEq

/-- The netting arithmetic of `apply_fill`; `position_engine.py:61-89`. -/
def net (previousQuantity previousAverage signedFillQuantity price : ℚ) : Netting :=
  if |previousQuantity| ≤ epsilon then
    { quantity := signedFillQuantity
      average := if |signedFillQuantity| > epsilon then price else 0
      realized := 0 }
  else if sameDirection previousQuantity signedFillQuantity then
    { quantity := previousQuantity + signedFillQuantity
      average := (|previousQuantity| * previousAverage + |signedFillQuantity| * price) /
        |previousQuantity + signedFillQuantity|
      realized := 0 }
  else
    let closingQuantity := min |previousQuantity| |signedFillQuantity|
    let realized :=
      if previousQuantity > 0 then (price - previousAverage) * closingQuantity
      else (previousAverage - price) * closingQuantity
    let remaining := |signedFillQuantity| - closingQuantity
    let direction : ℚ := if signedFillQuantity > 0 then 1 else -1
    if remaining > epsilon then
      { quantity := remaining * direction, average := price, realized }
    else if |previousQuantity + signedFillQuantity| ≤ epsilon then
      { quantity := 0, average := 0, realized }
    else
      { quantity := previousQuantity + signedFillQuantity, average := previousAverage, realized }

/-- What `apply_fill` returns once the fill has been admitted; `position_engine.py:61-106`. -/
def fillUpdate (previous : PositionState) (fill : PositionFill) (signedFillQuantity : ℚ) :
    PositionUpdate :=
  let netting := net previous.quantity previous.averageEntryPrice signedFillQuantity fill.price
  let realizedDelta := netting.realized - |fill.fee|
  { previous
    current :=
      { mode := fill.mode
        symbol := fill.symbol
        quantity := netting.quantity
        averageEntryPrice := netting.average
        realizedPnl := previous.realizedPnl + realizedDelta
        status := if |netting.quantity| > epsilon then .opened else .closed
        updatedAt := if truthy fill.filledAt then fill.filledAt.getD now else now }
    realizedPnlDelta := realizedDelta }

/-- `PositionEngine.apply_fill`; `position_engine.py:48-106`. The clock text `now` stands in when
the fill carries no time. -/
def applyFill (position : Option PositionState) (fill : PositionFill) :
    Except PositionEngineError PositionUpdate := do
  let signedFillQuantity ← signedQuantity fill
  let previous := position.getD (emptyPosition now fill.mode fill.symbol)
  validatePositionCompatibility previous fill
  return fillUpdate now previous fill signedFillQuantity

/-- A fill has a signed quantity exactly when it is no dust and its side is known. -/
theorem signedQuantity_eq_ok_iff (fill : PositionFill) (s : ℚ) :
    signedQuantity fill = .ok s ↔
      epsilon < |fill.quantity| ∧
        ∃ side, parseSide fill.side = some side ∧ s = side.sign * |fill.quantity| := by
  unfold signedQuantity
  split
  · next h => simp [not_lt.mpr h]
  · next h =>
    rw [and_iff_right (not_le.mp h)]
    split
    · next hside => simp [hside, Side.sign, eq_comm]
    · next hside => simp [hside, Side.sign, eq_comm]
    · next hside => simp [hside]

private theorem validatePositionCompatibility_eq_ok_iff (p : PositionState) (fill : PositionFill) :
    validatePositionCompatibility p fill = .ok () ↔
      p.mode = fill.mode ∧ p.symbol = fill.symbol := by
  unfold validatePositionCompatibility
  split_ifs <;> simp_all

/-- A fill is admitted exactly when it is no dust, its side is known and the position it
meets, if any, has its mode and symbol. -/
theorem applyFill_eq_ok_iff (position : Option PositionState) (fill : PositionFill)
    (update : PositionUpdate) :
    applyFill now position fill = .ok update ↔
      ∃ side, parseSide fill.side = some side ∧ epsilon < |fill.quantity| ∧
        (∀ p ∈ position, p.mode = fill.mode ∧ p.symbol = fill.symbol) ∧
        update = fillUpdate now (position.getD (emptyPosition now fill.mode fill.symbol)) fill
          (side.sign * |fill.quantity|) := by
  have hcompat : (∀ p ∈ position, p.mode = fill.mode ∧ p.symbol = fill.symbol) ↔
      validatePositionCompatibility (position.getD (emptyPosition now fill.mode fill.symbol))
        fill = .ok () := by
    rw [validatePositionCompatibility_eq_ok_iff]
    cases position <;> simp [emptyPosition]
  rw [hcompat]
  unfold applyFill
  cases hs : signedQuantity fill with
  | error e =>
    refine iff_of_false (fun h => nomatch h) ?_
    rintro ⟨side, hside, hq, -, -⟩
    rw [(signedQuantity_eq_ok_iff fill _).mpr ⟨hq, side, hside, rfl⟩] at hs
    exact nomatch hs
  | ok s =>
    obtain ⟨hq, side, hside, rfl⟩ := (signedQuantity_eq_ok_iff fill s).mp hs
    simp only [bind, Except.bind, pure, Except.pure]
    cases validatePositionCompatibility
        (position.getD (emptyPosition now fill.mode fill.symbol)) fill with
    | error e => exact iff_of_false (fun h => nomatch h) (by simp)
    | ok =>
      simp only [Except.ok.injEq, hside, Option.some.injEq, hq, true_and, exists_eq_left']
      exact eq_comm

/-! ### Netting laws -/

/-- Drop a dust quantity. -/
def snap (quantity : ℚ) : ℚ := if |quantity| ≤ epsilon then 0 else quantity

/-- A quantity survives `snap` exactly when it is flat or above the dust threshold. -/
theorem snap_eq_self_iff : snap q = q ↔ q = 0 ∨ epsilon < |q| := by
  unfold snap
  split
  · next h =>
    constructor
    · exact fun hq => .inl hq.symm
    · rintro (hq | hq)
      · exact hq.symm
      · exact absurd h (not_le.mpr hq)
  · next h => exact ⟨fun _ => .inr (not_le.mp h), fun _ => rfl⟩

/-- Dropping dust twice is dropping it once. -/
@[simp] theorem snap_snap : snap (snap q) = snap q := by
  unfold snap
  split_ifs with h h'
  · rfl
  · simp
  · rfl

/-- Dropping dust moves a quantity by at most the dust threshold, and only to flat. -/
theorem abs_snap_sub_le : |snap q - q| ≤ if snap q = 0 then epsilon else 0 := by
  by_cases h : |q| ≤ epsilon
  · have hflat : snap q = 0 := if_pos h
    rw [if_pos hflat, hflat, zero_sub, abs_neg]
    exact h
  · have hkept : snap q = q := if_neg h
    rw [hkept, sub_self, abs_zero]
    split
    · exact epsilon_pos.le
    · exact le_refl 0

/-- Profit of the part of a position that an opposite fill closes. -/
def closedProfit (p a s x : ℚ) : ℚ :=
  if 0 < p ∧ s < 0 then (x - a) * min p (-s)
  else if p < 0 ∧ 0 < s then (a - x) * min (-p) s
  else 0

/-- Where a fill above the dust threshold takes a settled position: it opens, adds to,
crosses, flattens or reduces it. -/
inductive NetCase (p a s x : ℚ) : Netting → Prop where
  | opens : p = 0 → NetCase p a s x ⟨s, x, 0⟩
  | adds : sameDirection p s → epsilon < |p + s| →
      NetCase p a s x ⟨p + s, (p * a + s * x) / (p + s), 0⟩
  | crosses : epsilon < |p + s| → closedProfit p a s x = (x - a) * p →
      NetCase p a s x ⟨p + s, x, (x - a) * p⟩
  | flattens : |p + s| ≤ epsilon → NetCase p a s x ⟨0, 0, closedProfit p a s x⟩
  | reduces : epsilon < |p + s| → closedProfit p a s x = (x - a) * -s →
      NetCase p a s x ⟨p + s, a, (x - a) * -s⟩

variable {p s : ℚ}

private theorem opposite_of_not_sameDirection (hp : epsilon < |p|) (hs : epsilon < |s|)
    (h : ¬ sameDirection p s) : (0 < p ∧ s < 0) ∨ (p < 0 ∧ 0 < s) := by
  have hp0 : p ≠ 0 := abs_pos.mp (epsilon_pos.trans hp)
  have hs0 : s ≠ 0 := abs_pos.mp (epsilon_pos.trans hs)
  unfold sameDirection at h
  rcases lt_or_gt_of_ne hp0 with hp | hp
  · exact .inr ⟨hp, lt_of_le_of_ne (not_lt.mp fun hs' => h (.inr ⟨hp, hs'⟩)) hs0.symm⟩
  · exact .inl ⟨hp, lt_of_le_of_ne (not_lt.mp fun hs' => h (.inl ⟨hp, hs'⟩)) hs0⟩

private theorem net_adds (hp : epsilon < |p|) (h : sameDirection p s) :
    NetCase p a s x (net p a s x) := by
  have hpos := epsilon_pos
  rw [net, if_neg (not_le.mpr hp), if_pos h]
  rcases h with ⟨hp', hs'⟩ | ⟨hp', hs'⟩
  · rw [abs_of_pos hp', abs_of_pos hs', abs_of_pos (add_pos hp' hs')]
    rw [abs_of_pos hp'] at hp
    exact .adds (.inl ⟨hp', hs'⟩) (by rw [abs_of_pos (add_pos hp' hs')]; linarith)
  · rw [abs_of_neg hp', abs_of_neg hs', abs_of_neg (add_neg hp' hs')]
    rw [abs_of_neg hp'] at hp
    have havg : (-p * a + -s * x) / -(p + s) = (p * a + s * x) / (p + s) := by
      rw [← neg_div_neg_eq]
      ring_nf
    rw [havg]
    exact .adds (.inr ⟨hp', hs'⟩) (by rw [abs_of_neg (add_neg hp' hs')]; linarith)

private theorem closedProfit_of_opposite (h : 0 < p ∧ s < 0 ∨ p < 0 ∧ 0 < s) :
    (if p > 0 then (x - a) * min |p| |s| else (a - x) * min |p| |s|) = closedProfit p a s x ∧
      (|p| ≤ |s| → closedProfit p a s x = (x - a) * p ∧ |p + s| = |s| - |p| ∧
        (|s| - |p|) * (if s > 0 then 1 else -1) = p + s) ∧
      (|s| ≤ |p| → closedProfit p a s x = (x - a) * -s ∧ |p + s| = |p| - |s|) := by
  unfold closedProfit
  rcases h with ⟨hp, hs⟩ | ⟨hp, hs⟩
  · rw [abs_of_pos hp, abs_of_neg hs, if_pos hp, if_pos ⟨hp, hs⟩, if_neg hs.not_gt]
    refine ⟨rfl, fun hle => ⟨by rw [min_eq_left hle], ?_, by ring⟩,
      fun hle => ⟨by rw [min_eq_right hle], ?_⟩⟩
    · rw [abs_of_nonpos (by linarith)]; ring
    · rw [abs_of_nonneg (by linarith)]; ring
  · rw [abs_of_neg hp, abs_of_pos hs, if_neg hp.not_gt, if_neg (fun h => lt_asymm h.1 hp),
      if_pos ⟨hp, hs⟩, if_pos hs]
    refine ⟨rfl, fun hle => ⟨by rw [min_eq_left hle]; ring, ?_, by ring⟩,
      fun hle => ⟨by rw [min_eq_right hle]; ring, ?_⟩⟩
    · rw [abs_of_nonneg (by linarith)]; ring
    · rw [abs_of_nonpos (by linarith)]; ring

private theorem net_closes (hp : epsilon < |p|) (hdir : ¬ sameDirection p s)
    (h : 0 < p ∧ s < 0 ∨ p < 0 ∧ 0 < s) : NetCase p a s x (net p a s x) := by
  have hpos := epsilon_pos
  obtain ⟨hprofit, hcloses, hleaves⟩ := closedProfit_of_opposite a x h
  rw [net, if_neg (not_le.mpr hp), if_neg hdir]
  dsimp only
  rw [hprofit]
  rcases le_total |p| |s| with hle | hle
  · obtain ⟨hclosed, hsize, hrest⟩ := hcloses hle
    rw [min_eq_left hle, hrest, ← hsize]
    split_ifs with hremaining hflat
    · rw [hclosed]
      exact .crosses hremaining hclosed
    · exact .flattens hflat
    · exact absurd (not_lt.mp hremaining) hflat
  · obtain ⟨hclosed, hsize⟩ := hleaves hle
    rw [min_eq_right hle, sub_self, if_neg hpos.not_gt]
    split_ifs with hflat
    · exact .flattens hflat
    · rw [hclosed]
      exact .reduces (not_le.mp hflat) hclosed

private theorem net_cases (hp : snap p = p) (hs : epsilon < |s|) :
    NetCase p a s x (net p a s x) := by
  rcases (snap_eq_self_iff p).mp hp with rfl | hp
  · rw [net, if_pos (by simpa using epsilon_pos.le), if_pos hs]
    exact .opens rfl
  · by_cases h : sameDirection p s
    · exact net_adds a x hp h
    · exact net_closes a x hp h (opposite_of_not_sameDirection hp hs h)

/-- A fill above the dust threshold moves a settled position by its signed quantity; only a
dust remainder is dropped. -/
theorem net_quantity (hp : snap p = p) (hs : epsilon < |s|) :
    (net p a s x).quantity = snap (p + s) := by
  generalize hn : net p a s x = n
  cases hn ▸ net_cases a x hp hs with
  | opens h => rw [h, zero_add, (snap_eq_self_iff s).mpr (.inr hs)]
  | adds _ hq | crosses hq _ => exact ((snap_eq_self_iff _).mpr (.inr hq)).symm
  | flattens hq => exact (if_pos hq).symm
  | reduces hq _ => exact ((snap_eq_self_iff _).mpr (.inr hq)).symm

/-- The profit `apply_fill` books is that of the closed part. -/
theorem net_realized (hp : snap p = p) (hs : epsilon < |s|) :
    (net p a s x).realized = closedProfit p a s x := by
  generalize hn : net p a s x = n
  cases hn ▸ net_cases a x hp hs with
  | opens h => simp [closedProfit, h]
  | adds h _ =>
    rw [closedProfit, if_neg, if_neg]
    · rintro ⟨h₁, h₂⟩
      rcases h with h | h <;> linarith [h.1, h.2]
    · rintro ⟨h₁, h₂⟩
      rcases h with h | h <;> linarith [h.1, h.2]
  | crosses _ h => exact h.symm
  | flattens _ => rfl
  | reduces _ h => exact h.symm

/-- Marked value is carried through a fill that leaves no dust: the profit of the closed
part and the value of the new position are the value before plus the marked fill. -/
theorem net_value (m : ℚ) (hp : snap p = p) (hs : epsilon < |s|) (hq : snap (p + s) = p + s) :
    (net p a s x).realized + (net p a s x).quantity * (m - (net p a s x).average) =
      p * (m - a) + s * (m - x) := by
  generalize hn : net p a s x = n
  cases hn ▸ net_cases a x hp hs with
  | opens h => simp [h]
  | adds _ h =>
    have h0 : p + s ≠ 0 := abs_pos.mp (epsilon_pos.trans h)
    field_simp
    ring
  | crosses => ring
  | flattens h =>
    -- no dust is left, so the position is closed exactly
    have h0 : p + s = 0 := by rw [← hq, snap, if_pos h]
    obtain rfl : s = -p := by linarith
    have hprofit : closedProfit p a (-p) x = (x - a) * p := by
      unfold closedProfit
      split_ifs with h₁ h₂
      · simp
      · simp only [min_self]
        ring
      · have : p = 0 := by
          by_contra hne
          rcases lt_or_gt_of_ne hne with hlt | hgt
          · exact h₂ ⟨hlt, by linarith⟩
          · exact h₁ ⟨hgt, by linarith⟩
        simp [this]
    rw [hprofit]
    ring
  | reduces => ring

end OpenTrader.Oms
