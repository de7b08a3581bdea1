import OpenTrader.Base.Trace
import OpenTrader.Oms.Runner

/-!
# Positions under redelivery

Library `Oms`. The order ledger keeps one fill per fill id, the position ledger books every
delivery: `services/oms/fill_reconciliation.py:238-246` against
`services/workers/oms_lifecycle.py:146-168`. A run of deliveries is audited against the
signed sum of the distinct fills it reported.
-/

namespace OpenTrader.Oms
open Base

/-- A fill id with the signed quantity it stands for. -/
structure ReportedFill where
  fillId : String
  signed : ℚ
  deriving DecidableEq

/-- The fill a delivery reports to the ledgers. -/
def reportedFill (d : Delivery) : Option ReportedFill :=
  match readUpdate d.now d.envelope with
  | .ok (some u) =>
    match u.event.toLifecycleEvent.fill, parseSide u.side with
    | some fill, some side => some ⟨fill.fillId, side.sign * |fill.quantity|⟩
    | _, _ => none
  | _ => none

/-- A runner with the fills reported to it and the number of times its position was closed. -/
structure Audit where
  runner : RunnerState := {}
  fills : List ReportedFill := []
  closings : Nat := 0

/-- Deliver one envelope and keep the audit of a symbol. -/
def deliver (base : ℚ) (symbol : String) (a : Audit) (d : Delivery) : Audit :=
  let runner := (runOnce base d.now a.runner d.envelope).1
  { runner
    fills := a.fills ++ (reportedFill d).toList
    closings :=
      if a.runner.positions.quantity symbol ≠ 0 ∧ runner.positions.quantity symbol = 0 then
        a.closings + 1
      else a.closings }

/-- The envelope is for one symbol and mode and its action is `BUY` or `SELL`. -/
def ForMarket (symbol mode : String) (d : Delivery) : Prop :=
  ∃ payload ∈ d.envelope.payload, strip (payload.symbol.getD "") = symbol ∧
    payloadMode payload = mode ∧ (parseSide (upper (payload.action.getD "BUY"))).isSome

instance (symbol mode : String) (d : Delivery) : Decidable (ForMarket symbol mode d) :=
  inferInstanceAs (Decidable (∃ payload ∈ d.envelope.payload, _))

/-- The position is the signed sum of the distinct fills, up to the dust of each closing. -/
def Agrees (symbol : String) (a : Audit) : Prop :=
  |a.runner.positions.quantity symbol -
    ((distinctBy (·.fillId) a.fills).map (·.signed)).sum| ≤ a.closings * epsilon

instance (symbol : String) (a : Audit) : Decidable (Agrees symbol a) :=
  inferInstanceAs (Decidable (_ ≤ _))

/-- The fill of a delivery, if any, was not reported before and is no dust. -/
def Fresh (a : Audit) (d : Delivery) : Prop :=
  ∀ r ∈ reportedFill d, r.fillId ∉ a.fills.map (·.fillId) ∧ epsilon < |r.signed|

instance (a : Audit) (d : Delivery) : Decidable (Fresh a d) :=
  inferInstanceAs (Decidable (∀ r ∈ reportedFill d, _))

/-! ### One delivery -/

variable {d : Delivery} {symbol mode : String} {a : Audit} {base : ℚ}

private theorem forMarket_cases (h : ForMarket symbol mode d) :
    (ledgerFill d.now d.envelope = none ∧ reportedFill d = none) ∨
      ∃ fill side id, ledgerFill d.now d.envelope = some fill ∧ fill.symbol = symbol ∧
        fill.mode = mode ∧ parseSide fill.side = some side ∧
        reportedFill d = some ⟨id, side.sign * |fill.quantity|⟩ := by
  obtain ⟨payload, hp, hsymbol, hmode, hside⟩ := h
  unfold ledgerFill reportedFill
  cases hu : readUpdate d.now d.envelope with
  | error e => exact .inl ⟨rfl, rfl⟩
  | ok o =>
    cases o with
    | none => exact .inl ⟨rfl, rfl⟩
    | some u =>
      obtain ⟨payload', hp', -, hsym, hmod, -, -, hsid, -⟩ := readUpdate_eq_some hu
      obtain rfl : payload = payload' := Option.some.inj (hp.symm.trans hp')
      rw [← hsid] at hside
      obtain ⟨side, hside⟩ := Option.isSome_iff_exists.mp hside
      cases hf : u.event.toLifecycleEvent.fill with
      | none => exact .inl ⟨by simp only [OrderUpdate.positionFill, hf, Option.map_none],
          by simp only [hf]⟩
      | some fill =>
        simp only [OrderUpdate.positionFill, hf, hside, Option.map_some]
        exact .inr ⟨u.toPositionFill fill, side, fill.fillId, rfl, hsym.1.trans hsymbol,
          hmod.trans hmode, hside, rfl⟩

private structure Audited (symbol mode : String) (a : Audit) : Prop where
  nodup : (a.fills.map (·.fillId)).Nodup
  mode_eq : ∀ p ∈ a.runner.positions.get? symbol, p.mode = mode
  close : |a.runner.positions.quantity symbol - (a.fills.map (·.signed)).sum| ≤
    a.closings * epsilon

private theorem audited_skip (ha : Audited symbol mode a) (hl : ledgerFill d.now d.envelope = none)
    (hr : reportedFill d = none) : Audited symbol mode (deliver base symbol a d) := by
  have hpos : (runOnce base d.now a.runner d.envelope).1.positions = a.runner.positions :=
    (runOnce_ledgers_of_no_fill base hl).1
  have hfills : (deliver base symbol a d).fills = a.fills := by simp [deliver, hr]
  have hclosings : (deliver base symbol a d).closings = a.closings :=
    if_neg fun h => h.1 (hpos ▸ h.2)
  refine ⟨by rw [hfills]; exact ha.nodup, ?_, ?_⟩
  · exact (congrArg (PositionBook.get? · symbol) hpos) ▸ ha.mode_eq
  · rw [hfills, hclosings]
    exact (congrArg (PositionBook.quantity · symbol) hpos) ▸ ha.close

private theorem drift_step {q s sum : ℚ} {n : Nat} (hs : epsilon < |s|)
    (h : |q - sum| ≤ n * epsilon) :
    |snap (q + s) - (sum + s)| ≤
      ((if q ≠ 0 ∧ snap (q + s) = 0 then n + 1 else n : Nat) : ℚ) * epsilon := by
  by_cases hd : |q + s| ≤ epsilon
  · have hq : q ≠ 0 := by
      rintro rfl
      rw [zero_add] at hd
      exact absurd hs (not_lt.mpr hd)
    have h0 : snap (q + s) = 0 := if_pos hd
    rw [if_pos ⟨hq, h0⟩, h0]
    calc |0 - (sum + s)| = |(q - sum) - (q + s)| := by congr 1; ring
      _ ≤ |q - sum| + |q + s| := abs_sub _ _
      _ ≤ n * epsilon + epsilon := add_le_add h hd
      _ = ((n + 1 : Nat) : ℚ) * epsilon := by push_cast; ring
  · have h0 : snap (q + s) = q + s := if_neg hd
    have hne : q + s ≠ 0 := by
      intro h
      rw [h, abs_zero] at hd
      exact hd epsilon_pos.le
    rw [h0, if_neg fun h => hne h.2, add_sub_add_right_eq_sub]
    exact h

private theorem audited_book {fill : PositionFill} {side : Side} {id : String}
    (ha : Audited symbol mode a) (hl : ledgerFill d.now d.envelope = some fill)
    (hsym : fill.symbol = symbol) (hmode : fill.mode = mode)
    (hside : parseSide fill.side = some side)
    (hr : reportedFill d = some ⟨id, side.sign * |fill.quantity|⟩) (hf : Fresh a d) :
    Audited symbol mode (deliver base symbol a d) := by
  obtain ⟨hid, hs⟩ := hf _ hr
  have hq : epsilon < |fill.quantity| := by
    rwa [Side.abs_sign_mul, abs_abs] at hs
  have hsigned : signedQuantity fill = .ok (side.sign * |fill.quantity|) :=
    (signedQuantity_eq_ok_iff _ _).mpr ⟨hq, side, hside, rfl⟩
  subst hsym hmode
  have hbook := runOnce_positions_of_booked base hl hsigned ha.mode_eq
  have hfills : (deliver base fill.symbol a d).fills =
      a.fills ++ [⟨id, side.sign * |fill.quantity|⟩] := by simp [deliver, hr]
  have hquantity := PositionBook.quantity_of_apply hbook hsigned fill.symbol
  rw [if_pos rfl] at hquantity
  refine ⟨?_, ?_, ?_⟩
  · rw [hfills, List.map_append, List.map_singleton]
    exact List.nodup_append.mpr ⟨ha.nodup, List.nodup_singleton _,
      fun x hx y hy hxy => hid (by rw [← List.mem_singleton.mp hy, ← hxy]; exact hx)⟩
  · exact PositionBook.mode_of_apply hbook
  · rw [hfills, List.map_append, List.sum_append, List.map_singleton, List.sum_singleton]
    simp only [deliver, hquantity]
    exact drift_step hs ha.close

/-! ### Runs of deliveries -/

/-- Along every run of deliveries for one market in which no fill id comes twice and no fill
is dust, the position is the signed sum of the distinct fills reported so far. -/
theorem position_agrees_of_fresh (base : ℚ) (symbol mode : String) (ds : List Delivery)
    (hmarket : ∀ d ∈ ds, ForMarket symbol mode d)
    (hfresh : Along (deliver base symbol) Fresh {} ds) :
    Throughout (deliver base symbol) (Agrees symbol) {} ds := by
  have hstart : Audited symbol mode {} := ⟨List.nodup_nil, by rintro p ⟨⟩, by simp⟩
  have hstep : ∀ a d, Audited symbol mode a → Fresh a d ∧ ForMarket symbol mode d →
      Audited symbol mode (deliver base symbol a d) := by
    intro a d ha hd
    rcases forMarket_cases hd.2 with ⟨hl, hr⟩ | ⟨fill, side, id, hl, hsym, hmode, hside, hr⟩
    · exact audited_skip ha hl hr
    · exact audited_book ha hl hsym hmode hside hr hd.1
  refine (throughout_of_along hstep hstart (hfresh.and_forall hmarket)).mono fun a ha => ?_
  rw [Agrees, distinctBy_eq_self _ ha.nodup]
  exact ha.close

/-- A buy and a sell under different fill ids net to a flat position. -/
theorem position_agrees_buy_sell :
    Throughout (deliver 0 "BTC/USDT") (Agrees "BTC/USDT") {}
      [⟨"t1", filledEnvelope "a" "t1" "BUY" 1 100⟩,
        ⟨"t2", filledEnvelope "b" "t2" "SELL" 1 100⟩] := by
  apply position_agrees_of_fresh 0 "BTC/USDT" "MOCK"
  · decide +kernel
  · decide +kernel

/-- The same buy delivered twice is booked twice: the position is two units for one fill. -/
theorem redelivered_fill_booked_twice :
    let d : Delivery := ⟨"t1", filledEnvelope "a" "t1" "BUY" 1 100⟩
    let a := run (deliver 0 "BTC/USDT") {} [d, d]
    ForMarket "BTC/USDT" "MOCK" d ∧ a.runner.positions.quantity "BTC/USDT" = 2 ∧
      ((distinctBy (·.fillId) a.fills).map (·.signed)).sum = 1 ∧ ¬ Agrees "BTC/USDT" a := by
  decide +kernel

end OpenTrader.Oms
