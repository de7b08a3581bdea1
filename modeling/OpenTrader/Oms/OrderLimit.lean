import Mathlib.Algebra.Order.BigOperators.Group.List
import OpenTrader.Base.Trace
import OpenTrader.Oms.PositionHistory
import OpenTrader.Oms.RiskRules

/-!
# The position limit through partial fills

Library `Oms`. `services/oms/risk_rules.py:64-169` before `services/oms/position_engine.py:48-106`.
The rules look at the position after a whole fill only. Between partial fills the position lies
between the one before the order and the projected one, except that the engine drops a dust
position on its way through zero: the rest of the order then leads past the projection, by no more
than the dust threshold.
-/

namespace OpenTrader.Oms
open Base RiskRules

/-- An order, what the account is when it is proposed, and the partial fills it gets once it is
allowed: each is no dust and on the order's side, and together they fill no more than the order. -/
structure OrderRound where
  order : ProposedOrder
  account : Account
  fills : List TimedFill
  not_dust : ∀ f ∈ fills, epsilon < |f.fill.quantity|
  same_side : ∀ f ∈ fills, parseSide f.fill.side = parseSide order.side
  total_le : (fills.map fun f => |f.fill.quantity|).sum ≤ |order.quantity|

/-- A fill handed to the position engine; a refused one leaves the position. -/
def fillStep (position : Option PositionState) (f : TimedFill) : Option PositionState :=
  match applyFill f.now position f.fill with
  | .ok update => some update.current
  | .error _ => position

namespace OrderRound

/-- The rules allow the order against the current position. -/
def allowed (engine : CoreRiskRuleEngine) (position : Option PositionState) (r : OrderRound) :
    Bool :=
  match engine.evaluate r.order position r.account with
  | .ok evaluation => evaluation.allowed
  | .error _ => false

variable (engine : CoreRiskRuleEngine) (position : Option PositionState) (r : OrderRound)

/-- The fills the position engine gets: none when the order is not allowed. -/
def taken : List TimedFill :=
  if r.allowed engine position then r.fills else []

/-- The position after an order and its fills. -/
def step : Option PositionState :=
  run fillStep position (r.taken engine position)

end OrderRound

/-- The position is within the configured limit, up to the dust threshold. -/
def WithinLimit (engine : CoreRiskRuleEngine) (position : Option PositionState) : Prop :=
  |heldQuantity position| ≤ engine.config.maxPositionAbs + epsilon

/-! ### One fill -/

private def Headroom (m sign quantity rest : ℚ) : Prop :=
  |quantity + sign * rest| ≤ m ∨
    0 ≤ sign * quantity ∧ |quantity + sign * rest| ≤ m + epsilon

section

variable {m sign quantity rest x : ℚ}

private theorem abs_add_le_of_between (hq : |quantity| ≤ m + epsilon)
    (hend : |quantity + sign * rest| ≤ m + epsilon) (hsign : sign = 1 ∨ sign = -1)
    (hx : 0 ≤ x) (hrest : x ≤ rest) : |quantity + sign * x| ≤ m + epsilon := by
  rw [abs_le] at *
  rcases hsign with rfl | rfl <;> constructor <;> linarith [hq.1, hq.2, hend.1, hend.2]

private theorem Headroom.fill (h : Headroom m sign quantity rest) (hq : |quantity| ≤ m + epsilon)
    (hm : 0 < m) (hsign : sign = 1 ∨ sign = -1) (hx : epsilon < x) (hrest : x ≤ rest) :
    |snap (quantity + sign * x)| ≤ m + epsilon ∧
      Headroom m sign (snap (quantity + sign * x)) (rest - x) := by
  have hpos := epsilon_pos
  have hend : |quantity + sign * rest| ≤ m + epsilon := by
    rcases h with h | h
    · linarith
    · exact h.2
  have hafter := abs_add_le_of_between hq hend hsign (hpos.trans hx).le hrest
  have hsum : quantity + sign * x + sign * (rest - x) = quantity + sign * rest := by ring
  by_cases hd : |quantity + sign * x| ≤ epsilon
  · -- dropped as dust: only an order against the position gets here
    have hflat : snap (quantity + sign * x) = 0 := if_pos hd
    rw [hflat]
    refine ⟨by rw [abs_zero]; linarith, .inr ⟨by simp, ?_⟩⟩
    have hagainst : |quantity + sign * rest| ≤ m := by
      rcases h with h | ⟨hdirection, -⟩
      · exact h
      · rw [abs_le] at hd
        rcases hsign with rfl | rfl <;> linarith [hd.1, hd.2]
    calc |0 + sign * (rest - x)|
        = |(quantity + sign * rest) - (quantity + sign * x)| := by rw [← hsum]; ring_nf
      _ ≤ |quantity + sign * rest| + |quantity + sign * x| := abs_sub _ _
      _ ≤ m + epsilon := add_le_add hagainst hd
  · have hkept : snap (quantity + sign * x) = quantity + sign * x := if_neg hd
    rw [hkept]
    refine ⟨hafter, ?_⟩
    rw [Headroom, hsum]
    rcases h with h | ⟨hdirection, hend⟩
    · exact .inl h
    · refine .inr ⟨?_, hend⟩
      rcases hsign with rfl | rfl <;> linarith

end

/-! ### The fills of an order -/

/-- A settled position within the limit. -/
private structure Held (engine : CoreRiskRuleEngine) (position : Option PositionState) : Prop where
  settled : snap (heldQuantity position) = heldQuantity position
  within : WithinLimit engine position

section

variable {engine : CoreRiskRuleEngine} {position : Option PositionState}

private theorem maxPositionAbs_pos (engine : CoreRiskRuleEngine) :
    0 < engine.config.maxPositionAbs := by
  have h := engine.validated
  unfold validateConfig at h
  exact not_le.mp (guard_eq_ok_iff.mp h).1

private theorem held_throughout_fills {side : Side} {rest : ℚ} (fills : List TimedFill)
    (hd : ∀ f ∈ fills, epsilon < |f.fill.quantity|)
    (hside : ∀ f ∈ fills, parseSide f.fill.side = some side)
    (htotal : (fills.map fun f => |f.fill.quantity|).sum ≤ rest) (hheld : Held engine position)
    (hroom : Headroom engine.config.maxPositionAbs side.sign (heldQuantity position) rest) :
    Throughout fillStep (Held engine) position fills := by
  induction fills generalizing position rest with
  | nil => exact hheld
  | cons f fills ih =>
    have hothers := fun g hg => hd g (List.mem_cons_of_mem f hg)
    have hsides := fun g hg => hside g (List.mem_cons_of_mem f hg)
    rw [List.map_cons, List.sum_cons] at htotal
    refine ⟨hheld, ?_⟩
    unfold fillStep
    cases hf : applyFill f.now position f.fill with
    | error e =>
      -- refused for its mode or symbol: nothing moves, and less than `rest` is still to come
      exact ih hothers hsides (by linarith [abs_nonneg f.fill.quantity]) hheld hroom
    | ok update =>
      have hq := quantity_of_applyFill hf (hside f List.mem_cons_self) hheld.settled
      have hnonneg : 0 ≤ (fills.map fun f => |f.fill.quantity|).sum :=
        List.sum_nonneg fun x hx => by
          obtain ⟨g, -, rfl⟩ := List.mem_map.mp hx
          exact abs_nonneg _
      obtain ⟨hwithin, hafter⟩ := hroom.fill hheld.within (maxPositionAbs_pos engine)
        (by cases side <;> simp [Side.sign]) (hd f List.mem_cons_self) (by linarith)
      rw [← hq] at hwithin hafter
      refine ih hothers hsides (by linarith) ⟨?_, hwithin⟩ hafter
      change snap update.current.quantity = update.current.quantity
      rw [hq, snap_snap]

private theorem projection_of_allowed {r : OrderRound} (h : r.allowed engine position = true) :
    ∃ side, parseSide r.order.side = some side ∧
      |heldQuantity position + side.sign * (|r.order.quantity|)| ≤
        engine.config.maxPositionAbs := by
  unfold OrderRound.allowed at h
  split at h
  · next evaluation heval =>
    obtain ⟨normalized, hnormalized, -, rfl⟩ := CoreRiskRuleEngine.evaluate_eq_ok_iff.mp heval
    obtain ⟨⟨-, -, hm, -, -⟩, rfl⟩ := (validateOrder_eq_ok_iff _ _).mp hnormalized
    obtain ⟨side, hside, hsigned⟩ := signedQuantity_eq hm |r.order.quantity|
    have hlimit := (allowed_evaluation _ _ _ _).mp h _ List.mem_cons_self
    refine ⟨side, hside, ?_⟩
    rw [← hsigned]
    exact of_decide_eq_true hlimit
  · cases h

private theorem held_throughout_round (r : OrderRound) (hheld : Held engine position) :
    Throughout fillStep (Held engine) position (r.taken engine position) := by
  unfold OrderRound.taken
  split
  · next hallow =>
    obtain ⟨side, hside, hlimit⟩ := projection_of_allowed hallow
    exact held_throughout_fills r.fills r.not_dust
      (fun f hf => (r.same_side f hf).trans hside) r.total_le hheld (.inl hlimit)
  · exact hheld

end

/-- From a flat position, whatever orders are proposed and however the allowed ones are filled,
the position is within the limit up to dust: between orders and between partial fills. -/
theorem withinLimit_between_fills {mode symbol : String} (engine : CoreRiskRuleEngine)
    (start : FlatPosition mode symbol) (rounds : List OrderRound) :
    Throughout (OrderRound.step engine) (WithinLimit engine) start.position rounds ∧
      Along (OrderRound.step engine)
        (fun position r =>
          Throughout fillStep (WithinLimit engine) position (r.taken engine position))
        start.position rounds := by
  have hstart : Held engine start.position :=
    { settled := by rw [start.flat]; exact (snap_eq_self_iff 0).mpr (.inl rfl)
      within := by
        rw [WithinLimit, start.flat, abs_zero]
        exact (add_pos (maxPositionAbs_pos engine) epsilon_pos).le }
  have hheld : Throughout (OrderRound.step engine) (Held engine) start.position rounds :=
    throughout_of_step (fun _ r h => (held_throughout_round r h).last) rounds hstart
  exact ⟨hheld.mono fun _ h => h.within,
    hheld.along fun _ r h => (held_throughout_round r h).mono fun _ h => h.within⟩

end OpenTrader.Oms
