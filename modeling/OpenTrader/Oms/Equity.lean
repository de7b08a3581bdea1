import OpenTrader.Base.Trace
import OpenTrader.Oms.Runner

/-!
# Equity of the portfolio snapshots

Library `Oms`. The runner gives the snapshot engine a constant base balance,
`services/workers/oms_lifecycle.py:180-187`, and the engine adds the marked profit of the open
positions, `services/oms/portfolio_snapshot.py:74-76`. A run is audited against the value of
all its fills, the closed ones included.
-/

namespace OpenTrader.Oms
open Base PositionBook

/-- A fill as the equity audit keeps it. -/
structure BookedFill where
  symbol : String
  signed : ℚ
  price : ℚ
  fee : ℚ
  deriving DecidableEq

/-- The fill a delivery brings to the position engine. -/
def bookedFill (d : Delivery) : Option BookedFill :=
  (ledgerFill d.now d.envelope).bind fun fill =>
    match signedQuantity fill with
    | .error _ => none
    | .ok s => some ⟨fill.symbol, s, fill.price, fill.fee⟩

/-- A runner with the fills it has applied. -/
structure EquityAudit where
  runner : RunnerState := {}
  fills : List BookedFill := []

variable (base : ℚ) (marks : Dict String ℚ) (fills : List BookedFill)

/-- Deliver one envelope and note its fill. -/
def settle (a : EquityAudit) (d : Delivery) : EquityAudit :=
  { runner := (runOnce base d.now a.runner d.envelope).1
    fills := a.fills ++ (bookedFill d).toList }

/-- What the fills are worth at the marks, fees paid. -/
def fillValue : ℚ :=
  (fills.map fun f => f.signed * (markOf marks f.symbol - f.price)).sum -
    (fills.map fun f => |f.fee|).sum

/-- The last snapshot's total balance is the base balance plus the value of all fills. -/
def EquityIdentity (a : EquityAudit) : Prop :=
  ∀ activity ∈ a.runner.lastActivity,
    activity.portfolioTotalBalanceUsd = base + fillValue a.runner.markPrices a.fills

instance (base : ℚ) (a : EquityAudit) : Decidable (EquityIdentity base a) :=
  inferInstanceAs (Decidable (∀ activity ∈ a.runner.lastActivity, _))

/-- The envelope is processed without raising, and its fill leaves no position that is nonzero
but within the dust threshold. -/
def Clean (a : EquityAudit) (d : Delivery) : Prop :=
  (runOnce base d.now a.runner d.envelope).2.isOk ∧
    ∀ f ∈ bookedFill d,
      a.runner.positions.quantity f.symbol + f.signed = 0 ∨
        epsilon < |a.runner.positions.quantity f.symbol + f.signed|

instance (base : ℚ) (a : EquityAudit) (d : Delivery) : Decidable (Clean base a d) :=
  inferInstanceAs (Decidable (_ ∧ ∀ f ∈ bookedFill d, _))

/-- The fill closes nothing at a net profit or loss: what it closes of the position before it
gains exactly its fee. -/
def RealizesNothing (a : EquityAudit) (d : Delivery) : Prop :=
  ∀ f ∈ bookedFill d,
    closedProfit (a.runner.positions.quantity f.symbol) (a.runner.positions.average f.symbol)
      f.signed f.price = |f.fee|

instance (a : EquityAudit) (d : Delivery) : Decidable (RealizesNothing a d) :=
  inferInstanceAs (Decidable (∀ f ∈ bookedFill d, _))

/-! ### One delivery -/

private def held (symbol : String) : ℚ :=
  ((fills.filter (·.symbol = symbol)).map (·.signed)).sum

private def gap (a : EquityAudit) : ℚ :=
  fillValue a.runner.markPrices a.fills - a.runner.positions.openPnl a.runner.markPrices

private structure Kept (base : ℚ) (a : EquityAudit) : Prop where
  quantity_eq : ∀ symbol, a.runner.positions.quantity symbol = held a.fills symbol
  total_eq : ∀ activity ∈ a.runner.lastActivity, activity.portfolioTotalBalanceUsd =
    base + a.runner.positions.openPnl a.runner.markPrices
  start : a.runner.lastActivity = none → gap a = 0

variable {a : EquityAudit}

private theorem equityIdentity_iff_gap {base : ℚ} (h : Kept base a) :
    EquityIdentity base a ↔ gap a = 0 := by
  unfold EquityIdentity
  cases hl : a.runner.lastActivity with
  | none => simpa using h.start hl
  | some activity =>
    have ht := h.total_eq activity hl
    simp only [Option.mem_some_iff, forall_eq', ht, add_right_inj]
    rw [gap, sub_eq_zero]
    exact eq_comm

private theorem values_markedPnl (b : PositionBook) (marks : Dict String ℚ) :
    (b.positions.values.map (markedPnl marks)).sum = b.openPnl marks := by
  unfold Dict.values openPnl
  rw [List.map_map]
  congr 1
  refine List.map_congr_left fun e he => ?_
  obtain ⟨hsym, hsnap⟩ := b.settled e.1 e.2 ((Dict.get?_eq_some_iff _ _ _).mpr he)
  simp only [Function.comp, markedPnl, markOf, hsym]
  split
  · next h => rw [← hsnap, snap, if_pos h, mul_zero]
  · rfl

private theorem kept_of_totals {base : ℚ}
    (hquantity : ∀ symbol, a.runner.positions.quantity symbol = held a.fills symbol)
    (htotals : a.runner.lastActivity.map (·.totals) = some (bookTotals base a.runner)) :
    Kept base a where
  quantity_eq := hquantity
  total_eq activity hact := by
    rw [Option.mem_def.mp hact, Option.map_some] at htotals
    rw [← values_markedPnl]
    exact congrArg Prod.fst (Option.some.inj htotals)
  start hn := by
    rw [hn] at htotals
    cases htotals

private theorem fillValue_set (symbol : String) (price : ℚ) :
    fillValue (marks.set symbol price) fills =
      fillValue marks fills + held fills symbol * (price - markOf marks symbol) := by
  induction fills with
  | nil => simp [fillValue, held]
  | cons f fills ih =>
    simp only [fillValue, held, List.map_cons, List.sum_cons, List.filter_cons] at ih ⊢
    by_cases hf : f.symbol = symbol
    · have hself : markOf (marks.set symbol price) symbol = price := by
        rw [markOf, Dict.get?_set_self, Option.getD_some]
      simp only [hf, hself, decide_true, if_true, List.map_cons, List.sum_cons]
      linarith
    · have hother : markOf (marks.set symbol price) f.symbol = markOf marks f.symbol := by
        rw [markOf, markOf, Dict.get?_set_of_ne _ _ (Ne.symm hf)]
      simp only [hother, hf, decide_false, Bool.false_eq_true, if_false]
      linarith

private theorem fillValue_concat (f : BookedFill) :
    fillValue marks (fills ++ [f]) =
      fillValue marks fills + f.signed * (markOf marks f.symbol - f.price) - |f.fee| := by
  simp only [fillValue, List.map_append, List.sum_append, List.map_singleton, List.sum_singleton]
  ring

private theorem held_concat (f : BookedFill) (symbol : String) :
    held (fills ++ [f]) symbol = held fills symbol + if f.symbol = symbol then f.signed else 0 := by
  unfold held
  by_cases hf : f.symbol = symbol <;> simp [List.filter_append, hf]

private def realizedBy (a : EquityAudit) (d : Delivery) : ℚ :=
  ((bookedFill d).map fun f =>
    closedProfit (a.runner.positions.quantity f.symbol) (a.runner.positions.average f.symbol)
      f.signed f.price - |f.fee|).getD 0

private theorem realizesNothing_iff (a : EquityAudit) (d : Delivery) :
    RealizesNothing a d ↔ realizedBy a d = 0 := by
  unfold RealizesNothing realizedBy
  cases bookedFill d with
  | none => simp
  | some f => simp [sub_eq_zero]

variable {d : Delivery}

private theorem bookedFill_none (h : ledgerFill d.now d.envelope = none) : bookedFill d = none := by
  rw [bookedFill, h, Option.bind_none]

private theorem kept_of_no_fill {base : ℚ} (h : Kept base a)
    (hl : ledgerFill d.now d.envelope = none)
    (htotals : (settle base a d).runner.lastActivity.map (·.totals) =
      some (bookTotals base (settle base a d).runner)) :
    Kept base (settle base a d) ∧ gap (settle base a d) = gap a + realizedBy a d := by
  obtain ⟨hpos, hmarks⟩ : (settle base a d).runner.positions = a.runner.positions ∧
      (settle base a d).runner.markPrices = a.runner.markPrices :=
    runOnce_ledgers_of_no_fill base hl
  have hfills : (settle base a d).fills = a.fills := by simp [settle, bookedFill_none hl]
  refine ⟨kept_of_totals (fun symbol => ?_) htotals, ?_⟩
  · rw [hpos, hfills, h.quantity_eq]
  · simp [gap, hpos, hmarks, hfills, realizedBy, bookedFill_none hl]

private theorem kept_of_fill {base : ℚ} {fill : PositionFill} {b' : PositionBook}
    (h : Kept base a) (hl : ledgerFill d.now d.envelope = some fill)
    (hb : a.runner.positions.apply d.now fill = .ok b') (hd : Clean base a d)
    (htotals : (settle base a d).runner.lastActivity.map (·.totals) =
      some (bookTotals base (settle base a d).runner)) :
    Kept base (settle base a d) ∧ gap (settle base a d) = gap a + realizedBy a d := by
  obtain ⟨⟨s, hs⟩, -⟩ := (apply_isOk_iff _ _ _).mp ⟨b', hb⟩
  have hbooked : bookedFill d = some ⟨fill.symbol, s, fill.price, fill.fee⟩ := by
    simp only [bookedFill, hl, Option.bind_some, hs]
  have hsnap : snap (a.runner.positions.quantity fill.symbol + s) =
      a.runner.positions.quantity fill.symbol + s :=
    (snap_eq_self_iff _).mpr (hd.2 _ hbooked)
  obtain ⟨hpos, hmarks⟩ : (settle base a d).runner.positions = b' ∧
      (settle base a d).runner.markPrices = a.runner.markPrices.set fill.symbol fill.price :=
    runOnce_ledgers_of_apply base hl hb
  have hfills : (settle base a d).fills = a.fills ++ [⟨fill.symbol, s, fill.price, fill.fee⟩] := by
    simp [settle, hbooked]
  have hself :
      markOf (a.runner.markPrices.set fill.symbol fill.price) fill.symbol = fill.price := by
    rw [markOf, Dict.get?_set_self, Option.getD_some]
  refine ⟨kept_of_totals (fun symbol => ?_) htotals, ?_⟩
  · rw [hpos, hfills, quantity_of_apply hb hs, held_concat, ← h.quantity_eq]
    split
    · next hk => rw [← hk, hsnap]
    · rw [add_zero]
  · simp only [gap, hpos, hmarks, hfills, realizedBy, hbooked, Option.map_some, Option.getD_some]
    rw [fillValue_concat, fillValue_set, openPnl_of_apply _ hb hs hsnap, hself, ← h.quantity_eq]
    ring

private theorem kept_settle {base : ℚ} (h : Kept base a) (hd : Clean base a d) :
    Kept base (settle base a d) ∧ gap (settle base a d) = gap a + realizedBy a d := by
  cases hres : (runOnce base d.now a.runner d.envelope).2 with
  | error e =>
    have hok := hd.1
    rw [hres] at hok
    cases hok
  | ok processed =>
    rcases runOnce_ok hres with ⟨hsame, hl⟩ | ⟨htake, htotals⟩
    · have hsettle : settle base a d = a := by
        simp [settle, hsame, bookedFill_none hl]
      rw [hsettle, realizedBy, bookedFill_none hl]
      exact ⟨h, by simp⟩
    · cases hl : ledgerFill d.now d.envelope with
      | none => exact kept_of_no_fill h hl htotals
      | some fill =>
        obtain ⟨b', hb⟩ := htake fill hl
        exact kept_of_fill h hl hb hd htotals

/-! ### Runs of deliveries -/

/-- Along every clean run the equity identity holds in every state exactly when no fill
realizes a profit or loss: the snapshots leave realized profits out. -/
theorem equityIdentity_iff_realizesNothing (base : ℚ) (ds : List Delivery)
    (hclean : Along (settle base) (Clean base) {} ds) :
    Throughout (settle base) (EquityIdentity base) {} ds ↔
      Along (settle base) RealizesNothing {} ds := by
  have hstart : Kept base {} := ⟨fun _ => rfl, by rintro activity ⟨⟩, fun _ => by
    simp [gap, fillValue, openPnl, PositionBook.empty, Dict.empty]⟩
  refine throughout_iff_along (fun _ _ (h : Kept base _) hd _ => (kept_settle h hd).1) ?_ hclean
    hstart (by rintro activity ⟨⟩)
  intro a d h hd hprop
  obtain ⟨h', hgap⟩ := kept_settle h hd
  rw [equityIdentity_iff_gap h', hgap, (equityIdentity_iff_gap h).mp hprop, zero_add,
    realizesNothing_iff]

/-- Two buys realize nothing, so the identity holds after each. -/
theorem equityIdentity_two_buys :
    Throughout (settle 1000) (EquityIdentity 1000) {}
      [⟨"t1", filledEnvelope "a" "t1" "BUY" 1 100⟩, ⟨"t2", filledEnvelope "b" "t2" "BUY" 1 120⟩] :=
  (equityIdentity_iff_realizesNothing 1000 _ (by decide +kernel)).mpr (by decide +kernel)

/-- A unit bought at 100 and sold at 110 earns 10, and the total balance stays at its base. -/
theorem round_trip_profit_not_in_equity :
    let ds : List Delivery :=
      [⟨"t1", filledEnvelope "a" "t1" "BUY" 1 100⟩, ⟨"t2", filledEnvelope "b" "t2" "SELL" 1 110⟩]
    let a := run (settle 1000) {} ds
    Along (settle 1000) (Clean 1000) {} ds ∧
      a.runner.lastActivity.map (·.portfolioTotalBalanceUsd) = some 1000 ∧
      1000 + fillValue a.runner.markPrices a.fills = 1010 ∧ ¬ EquityIdentity 1000 a := by
  decide +kernel

end OpenTrader.Oms
