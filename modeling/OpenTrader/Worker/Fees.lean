import OpenTrader.Worker.Completion

/-!
# Fees of an order in the OMS

Library `Worker`. `services/workers/execution_lifecycle.py:434-494`,
`services/workers/oms_lifecycle.py:20-46,146-171`, `services/oms/position_engine.py:92-93`. The
growth of the fee total goes out with whatever event comes next, and counts as reported from then
on. The OMS takes a fee off the realized profit only with a fill that it books.
-/

namespace OpenTrader.Worker
open Base Oms

/-- Profit, before fees, of what a message closes in the position ledger. -/
def messageProfit (now : String) (oms : RunnerState) (envelope : OrderEnvelope) : ℚ :=
  ((ledgerFill now envelope).map (oms.positions.grossProfit now)).getD 0

/-- A worker and the OMS in tandem, with the profit before fees of what the order has closed. -/
structure FeeTandem extends Tandem where
  gross : ℚ := 0

/-- One report is applied, and the OMS consumes the event it leads to. -/
def relayFees (base : ℚ) (uuid5 : Uuid5) (s : FeeTandem) (x : Relayed) : FeeTandem :=
  { toTandem := relay base uuid5 s.toTandem x
    gross := s.gross + ((applyToOrder uuid5 x.clock x.source s.order x.snapshot).2.map fun event =>
      messageProfit x.now s.oms event.envelope).getD 0 }

/-- What the order has cost the realized profit of its position since the OMS was in the state
`before`, beside the profit of what it closed: the fees deducted for it. -/
def FeeTandem.deducted (s : FeeTandem) (before : RunnerState) : ℚ :=
  before.positions.realizedPnl s.order.symbol + s.gross -
    s.oms.positions.realizedPnl s.order.symbol

/-- An event of a status and a quantity that the OMS books: a fill above dust under a readable order
id, in a symbol without a position of another mode. -/
def Books (uuid5 : Uuid5) (s : FeeTandem) (x : Relayed) (status : LifecycleStatus)
    (quantity : ℚ) : Prop :=
  status.isFill ∧ epsilon < quantity ∧ strip (s.nextId uuid5 x) ≠ "" ∧
    ∀ p ∈ s.oms.positions.get? s.order.symbol, p.mode = "REAL"

/-- If the event of a report brings a fee, the OMS books the event. -/
def ChargesFee (uuid5 : Uuid5) (s : FeeTandem) (x : Relayed) : Prop :=
  ∀ e ∈ emission s.order x.snapshot,
    s.order.reportedFeeTotal < x.snapshot.feeTotal.getD 0 → Books uuid5 s x e.1 e.2

instance (uuid5 : Uuid5) (s : FeeTandem) (x : Relayed) (status : LifecycleStatus) (quantity : ℚ) :
    Decidable (Books uuid5 s x status quantity) := inferInstanceAs (Decidable (_ ∧ _ ∧ _ ∧ _))

instance (uuid5 : Uuid5) (s : FeeTandem) (x : Relayed) : Decidable (ChargesFee uuid5 s x) :=
  inferInstanceAs (Decidable (∀ e ∈ emission s.order x.snapshot, _ → _))

/-! ### What an event takes off the realized profit -/

section

variable {base : ℚ} {now : String} {oms : RunnerState} {envelope : OrderEnvelope} {symbol : String}
  {fill : PositionFill}

private theorem realizedPnl_of_no_fill (h : ledgerFill now envelope = none) :
    (runOnce base now oms envelope).1.positions.realizedPnl symbol -
      messageProfit now oms envelope = oms.positions.realizedPnl symbol := by
  rw [(runOnce_ledgers_of_no_fill base h).1, messageProfit, h]
  exact sub_zero _

private theorem realizedPnl_of_booked (h : ledgerFill now envelope = some fill)
    (hbooked : ∃ book, oms.positions.apply now fill = .ok book) :
    (runOnce base now oms envelope).1.positions.realizedPnl fill.symbol -
      messageProfit now oms envelope = oms.positions.realizedPnl fill.symbol - |fill.fee| := by
  obtain ⟨book, happly⟩ := hbooked
  rw [(runOnce_ledgers ..).1, messageProfit, h]
  simp only [Option.map_some, Option.getD_some]
  rw [PositionBook.realizedPnl_book_of_ok happly]
  ring

private theorem realizedPnl_of_refused (h : ledgerFill now envelope = some fill)
    (hrefused : ¬ ∃ book, oms.positions.apply now fill = .ok book) :
    (runOnce base now oms envelope).1.positions.realizedPnl symbol -
      messageProfit now oms envelope = oms.positions.realizedPnl symbol := by
  cases happly : oms.positions.apply now fill with
  | ok book => exact absurd ⟨book, happly⟩ hrefused
  | error e =>
    rw [(runOnce_ledgers ..).1, messageProfit, h]
    simp only [Option.map_some, Option.getD_some]
    rw [PositionBook.grossProfit_of_error happly, PositionBook.book, happly]
    exact sub_zero _

private theorem ledgerFill_of_blank {payload : OrderPayload}
    (hbody : envelope.payload = some payload)
    (hblank : strip (payload.orderId.getD "") = "") : ledgerFill now envelope = none := by
  unfold ledgerFill readUpdate
  rw [hbody]
  dsimp only
  rw [if_pos (Or.inl hblank)]

end

/-! ### One report -/

section

variable {base : ℚ} {uuid5 : Uuid5} {s : FeeTandem} {x : Relayed} {status : LifecycleStatus}
  {quantity : ℚ}

private def feeGrowth (s : FeeTandem) (x : Relayed) : ℚ :=
  totalDelta (x.snapshot.feeTotal.getD 0) s.order.reportedFeeTotal

private def eventOf (uuid5 : Uuid5) (s : FeeTandem) (x : Relayed) (status : LifecycleStatus)
    (quantity : ℚ) : OrderEnvelope :=
  lifecycleEnvelope uuid5 x.clock x.source (absorbIds s.order x.snapshot) status quantity
    (averageAfter (absorbIds s.order x.snapshot) x.snapshot) (feeGrowth s x)

private theorem feeGrowth_nonneg (s : FeeTandem) (x : Relayed) : 0 ≤ feeGrowth s x :=
  le_max_left _ _

private theorem feeGrowth_eq_zero_iff :
    feeGrowth s x = 0 ↔ x.snapshot.feeTotal.getD 0 ≤ s.order.reportedFeeTotal := by
  rw [← totalDelta_le_zero_iff s.order.fee_nonneg]
  exact ⟨fun h => h.le, fun h => le_antisymm h (feeGrowth_nonneg s x)⟩

private def eventFill (uuid5 : Uuid5) (s : FeeTandem) (x : Relayed) (quantity : ℚ) : PositionFill :=
  { orderId := strip (s.nextId uuid5 x)
    mode := "REAL"
    symbol := s.order.symbol
    side := s.order.action.name
    quantity
    price := (averageAfter (absorbIds s.order x.snapshot) x.snapshot).getD 0
    fee := feeGrowth s x
    filledAt := some x.clock.stamp.text }

private theorem ledgerFill_eventOf (hf : status.isFill) (hq : 0 < quantity)
    (hid : strip (s.nextId uuid5 x) ≠ "") :
    ledgerFill x.now (eventOf uuid5 s x status quantity) = some (eventFill uuid5 s x quantity) := by
  have hr := readUpdate_of_readable uuid5 x.clock x.source (absorbIds s.order x.snapshot) status
    quantity (averageAfter (absorbIds s.order x.snapshot) x.snapshot) (feeGrowth s x) hid hq
    x.now
  have hfee : (if feeGrowth s x > 0 then feeGrowth s x else 0) = feeGrowth s x := by
    rw [ite_eq_left_iff]
    intro hz
    exact le_antisymm (feeGrowth_nonneg s x) (not_lt.mp hz)
  rw [ledgerFill, eventOf, hr]
  simp only [OrderUpdate.positionFill, feedUpdate, feedEvent, if_pos hf, Option.map_some,
    OrderUpdate.toPositionFill, feedFill, positionFillToReconciliationFill, hfee,
    abs_of_pos hq]
  rfl

private theorem apply_eventFill_isOk_iff (hside : s.order.action ≠ .close)
    (hq : 0 < quantity) :
    (∃ book, s.oms.positions.apply x.now (eventFill uuid5 s x quantity) = .ok book) ↔
      epsilon < quantity ∧ ∀ p ∈ s.oms.positions.get? s.order.symbol, p.mode = "REAL" := by
  have hknown : ∃ side, parseSide s.order.action.name = some side := by
    cases hact : s.order.action with
    | buy => exact ⟨.buy, by decide +kernel⟩
    | sell => exact ⟨.sell, by decide +kernel⟩
    | close => exact absurd hact hside
  obtain ⟨side, hparse⟩ := hknown
  rw [PositionBook.apply_isOk_iff]
  simp only [signedQuantity_eq_ok_iff, eventFill, hparse, abs_of_pos hq]
  refine and_congr_left fun _ => ⟨fun ⟨_, hd, _⟩ => hd, fun hd => ⟨_, hd, side, rfl, rfl⟩⟩

private theorem realizedPnl_of_event (hside : s.order.action ≠ .close) (hq : 0 < quantity) :
    (runOnce base x.now s.oms (eventOf uuid5 s x status quantity)).1.positions.realizedPnl
        s.order.symbol - messageProfit x.now s.oms (eventOf uuid5 s x status quantity) =
      s.oms.positions.realizedPnl s.order.symbol -
        if Books uuid5 s x status quantity then feeGrowth s x else 0 := by
  by_cases hr : status.isFill = true ∧ strip (s.nextId uuid5 x) ≠ ""
  · have hledger := ledgerFill_eventOf hr.1 hq hr.2
    by_cases hbooks : Books uuid5 s x status quantity
    · rw [if_pos hbooks, ← abs_of_nonneg (feeGrowth_nonneg s x)]
      apply realizedPnl_of_booked hledger
      exact (apply_eventFill_isOk_iff hside hq).mpr ⟨hbooks.2.1, hbooks.2.2.2⟩
    · rw [if_neg hbooks, sub_zero]
      refine realizedPnl_of_refused hledger fun hbooked => hbooks ?_
      obtain ⟨hd, hmodes⟩ := (apply_eventFill_isOk_iff hside hq).mp hbooked
      exact ⟨hr.1, hd, hr.2, hmodes⟩
  · have hn : ledgerFill x.now (eventOf uuid5 s x status quantity) = none := by
      cases hf : status.isFill with
      | false =>
        refine ledgerFill_eq_none ?_
        rw [eventOf, lifecycleEnvelope, Option.getD_some,
          LifecycleStatus.isFillEventType_eventType, hf]
      | true =>
        have hblank : strip (s.nextId uuid5 x) = "" := by
          by_contra hid
          exact hr ⟨hf, hid⟩
        exact ledgerFill_of_blank rfl hblank
    have hbooks : ¬ Books uuid5 s x status quantity := fun h => hr ⟨h.1, h.2.2.1⟩
    rw [if_neg hbooks, sub_zero]
    exact realizedPnl_of_no_fill hn

private def uncharged (s : FeeTandem) : ℚ :=
  s.order.reportedFeeTotal + s.oms.positions.realizedPnl s.order.symbol - s.gross

private theorem uncharged_of_silent (he : emission s.order x.snapshot = none) :
    uncharged (relayFees base uuid5 s x) = uncharged s := by
  rw [uncharged, uncharged, relayFees, relay, report,
    applyToOrder_of_none uuid5 x.clock x.source he]
  simp [absorbIds]

private theorem uncharged_of_event (hside : s.order.action ≠ .close)
    (he : emission s.order x.snapshot = some (status, quantity)) :
    uncharged (relayFees base uuid5 s x) =
      uncharged s + if Books uuid5 s x status quantity then 0 else feeGrowth s x := by
  have hpnl := @realizedPnl_of_event base uuid5 s x status quantity hside (emission_pos he)
  have hrep : max s.order.reportedFeeTotal
      (clampTotal (x.snapshot.feeTotal.getD 0) s.order.reportedFeeTotal) =
        s.order.reportedFeeTotal + feeGrowth s x := by
    rw [max_clampTotal s.order.fee_nonneg, feeGrowth, totalDelta_eq s.order.fee_nonneg,
      ← max_add_add_left, add_zero, add_sub_cancel]
  have hafter : uncharged (relayFees base uuid5 s x) =
      max s.order.reportedFeeTotal
        (clampTotal (x.snapshot.feeTotal.getD 0) s.order.reportedFeeTotal) +
      (runOnce base x.now s.oms (eventOf uuid5 s x status quantity)).1.positions.realizedPnl
        s.order.symbol -
      (s.gross + messageProfit x.now s.oms (eventOf uuid5 s x status quantity)) := by
    rw [uncharged, relayFees, relay, report,
      applyToOrder_of_some uuid5 x.clock x.source he, publish]
    rfl
  rw [hafter, hrep, uncharged]
  split_ifs at hpnl ⊢ with hbooks <;> linarith

private theorem uncharged_le (hside : s.order.action ≠ .close) :
    uncharged s ≤ uncharged (relayFees base uuid5 s x) := by
  cases he : emission s.order x.snapshot with
  | none => exact (uncharged_of_silent he).ge
  | some e =>
    rw [uncharged_of_event hside he, le_add_iff_nonneg_right]
    split_ifs
    · exact le_rfl
    · exact feeGrowth_nonneg s x

private theorem uncharged_eq_iff (hside : s.order.action ≠ .close) :
    uncharged (relayFees base uuid5 s x) = uncharged s ↔ ChargesFee uuid5 s x := by
  cases he : emission s.order x.snapshot with
  | none => exact iff_of_true (uncharged_of_silent he) (by simp [ChargesFee, he])
  | some e =>
    rw [uncharged_of_event hside he, add_eq_left, ChargesFee, he]
    simp only [Option.mem_some_iff, forall_eq']
    by_cases hbooks : Books uuid5 s x e.1 e.2
    · exact iff_of_true (if_pos hbooks) fun _ => hbooks
    · rw [if_neg hbooks, feeGrowth_eq_zero_iff, ← not_lt]
      exact ⟨fun hno hfee => absurd hfee hno, fun hcharges hfee => hbooks (hcharges hfee)⟩

private def TradesAs (order : TrackedLifecycleOrder) (s : FeeTandem) : Prop :=
  s.order.symbol = order.symbol ∧ s.order.action = order.action

private theorem tradesAs_relayFees {order : TrackedLifecycleOrder} (h : TradesAs order s) :
    TradesAs order (relayFees base uuid5 s x) := by
  obtain ⟨hsym, hact, -⟩ := applyToOrder_keeps uuid5 x.clock x.source s.order x.snapshot
  exact ⟨hsym.trans h.1, hact.trans h.2⟩

end

/-! ### Runs -/

/-- The fees deducted for a BUY or SELL order are those the worker has reported exactly when every
event that brought a fee was booked. -/
theorem fees_deducted_iff (base : ℚ) (uuid5 : Uuid5) {order : TrackedLifecycleOrder}
    (hfresh : IsFresh order) (hside : order.action ≠ .close) (oms : RunnerState)
    (reports : List Relayed) :
    let s := run (relayFees base uuid5) { order, oms } reports
    s.deducted oms = s.order.reportedFeeTotal ↔
      Along (relayFees base uuid5) (ChargesFee uuid5) { order, oms } reports := by
  intro s
  have hkeeps (s : FeeTandem) (x : Relayed) (hs : TradesAs order s) :
      TradesAs order (relayFees base uuid5 s x) := tradesAs_relayFees hs
  have htrades (s : FeeTandem) (hs : TradesAs order s) : s.order.action ≠ .close :=
    hs.2.trans_ne hside
  have hsymbol : s.order.symbol = order.symbol :=
    (throughout_of_step hkeeps reports ⟨rfl, rfl⟩).last.1
  rw [← run_eq_iff_along hkeeps (fun s x hs => uncharged_le (htrades s hs))
    (fun s x hs => uncharged_eq_iff (htrades s hs)) reports ⟨rfl, rfl⟩]
  have hstart : uncharged { order, oms } = oms.positions.realizedPnl order.symbol := by
    simp [uncharged, hfresh.fee_eq]
  rw [hstart, FeeTandem.deducted, uncharged, hsymbol]
  constructor <;> intro h <;> linarith

/-- A report of an order of one unit with the fees so far. -/
def relayedFee (status : String) (total fee : ℚ) (clock : Clock) : Relayed :=
  { relayed status total clock with
    snapshot := { sampleSnapshot status total (some 100) (some "x") with feeTotal := some fee } }

/-- The fee of an order that is filled at once is deducted. -/
theorem fees_deducted_filled_at_once :
    let s := run (relayFees 0 sampleUuid5) { order := sampleOrder, oms := {} }
      [relayedFee "filled" 1 (1 / 10) sampleClock]
    s.deducted {} = s.order.reportedFeeTotal :=
  (fees_deducted_iff 0 sampleUuid5 (isFresh_of_intentOrder intentOrder_sampleOrder)
    (by decide +kernel) {} [relayedFee "filled" 1 (1 / 10) sampleClock]).mpr (by decide +kernel)

/-- A fee of 1/10 comes with a partial fill and is deducted; another 1/10 comes with the cancel of
the rest, is reported and never deducted. -/
theorem canceled_fee_not_deducted :
    let s := run (relayFees 0 sampleUuid5) { order := sampleOrder, oms := {} }
      [relayedFee "partially_filled" (2 / 5) (1 / 10) sampleClock,
        relayedFee "canceled" (2 / 5) (1 / 5) laterClock]
    s.order.reportedFeeTotal = 1 / 5 ∧ s.deducted {} = 1 / 10 ∧
      s.oms.positions.realizedPnl "BTC/USDT" = -(1 / 10) := by
  decide +kernel

end OpenTrader.Worker
