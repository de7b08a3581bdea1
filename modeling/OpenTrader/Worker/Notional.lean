import OpenTrader.Worker.Reports

/-!
# Notional of the fills

Library `Worker`. `services/workers/execution_lifecycle.py:428-494`,
`services/oms/fill_reconciliation.py:253-262`. A fill event carries the growth of the filled
total, but the average price of everything filled so far. The notionals of the fills add up to
that of the exchange as long as the average price stays what it was at the first fill.
-/

namespace OpenTrader.Worker
open Base Oms

/-- Fill price of an event. -/
def fillPrice (event : PublishedEvent) : ℚ :=
  match event.envelope.payload with
  | none => 0
  | some payload => payload.fillPrice.toFloatD 0

/-- Notional of the fills in a log. -/
def notional (log : List PublishedEvent) : ℚ :=
  (log.map fun event => fillQuantity event * fillPrice event).sum

/-- The fill the OMS reads from an event. -/
def readFill (now : String) (event : PublishedEvent) : Option ReconciliationFill :=
  (toLifecycleEvent now event.envelope).toOption.bind (·.toLifecycleEvent.fill)

/-- The fills emitted so far have the notional the exchange last reported, and the average price
the OMS computes from them, which it does above `epsilon`, is the exchange's. -/
def NotionalKept (s : ReportedOrder) : Prop :=
  ∀ last ∈ s.last, ∀ average ∈ last.averagePrice,
    notional s.log = last.filledQuantityTotal * average ∧
      ∀ now, weightedAveragePrice (s.log.filterMap (readFill now)) =
        if last.filledQuantityTotal ≤ epsilon then none else some average

/-- A report with a positive average price. -/
def IsPriced (x : Report) : Prop := ∃ average ∈ x.snapshot.averagePrice, 0 < average

/-- A report that is not `filled` without any fill, and repeats the average price of the report
before it if that one had fills. -/
def KeepsAverage (s : ReportedOrder) (x : Report) : Prop :=
  (readStatus x.snapshot.status = some .filled → 0 < x.snapshot.filledQuantityTotal) ∧
    ∀ last ∈ s.last, 0 < last.filledQuantityTotal → last.averagePrice = x.snapshot.averagePrice

instance (x : Report) : Decidable (IsPriced x) :=
  inferInstanceAs (Decidable (∃ average ∈ x.snapshot.averagePrice, 0 < average))

instance (s : ReportedOrder) (x : Report) : Decidable (KeepsAverage s x) :=
  inferInstanceAs (Decidable (_ ∧ _))

/-! ### Fills of a log -/

private def ReadsAs (event : PublishedEvent) : Prop :=
  ∀ now, ∃ fill, readFill now event = some fill ∧ max 0 fill.quantity = fillQuantity event ∧
    fill.price = fillPrice event

private theorem fillPrice_lifecycleEnvelope (uuid5 : Uuid5) (clock : Clock)
    (source : SnapshotSource) (order : TrackedLifecycleOrder) (status : LifecycleStatus)
    (quantity : ℚ) (averagePrice : Option ℚ) (feeDelta : ℚ) :
    fillPrice ⟨lifecycleEnvelope uuid5 clock source order status quantity averagePrice feeDelta,
      validateEnvelope_lifecycleEnvelope ..⟩ = averagePrice.getD 0 := by
  cases averagePrice <;> rfl

variable {status : LifecycleStatus}

private theorem readsAs_lifecycleEnvelope (uuid5 : Uuid5) (clock : Clock)
    (source : SnapshotSource) (order : TrackedLifecycleOrder) {quantity : ℚ}
    (averagePrice : Option ℚ) (feeDelta : ℚ) (hf : status.isFill) (hq : 0 < quantity) :
    ReadsAs ⟨lifecycleEnvelope uuid5 clock source order status quantity averagePrice feeDelta,
      validateEnvelope_lifecycleEnvelope ..⟩ := by
  intro now
  refine ⟨feedFill uuid5 clock order quantity averagePrice feeDelta now, ?_, ?_, ?_⟩
  · rw [readFill, toLifecycleEvent_lifecycleEnvelope, feedEvent, if_pos hf]
    rfl
  · rw [fillQuantity_lifecycleEnvelope, if_pos hf, feedFill, positionFillToReconciliationFill]
    simp only [abs_of_pos hq, max_eq_right hq.le]
  · rw [fillPrice_lifecycleEnvelope]
    rfl

private theorem weightedAveragePrice_log {log : List PublishedEvent}
    (h : ∀ event ∈ log, ReadsAs event) (now : String) :
    weightedAveragePrice (log.filterMap (readFill now)) =
      if (log.map fillQuantity).sum ≤ epsilon then none
      else some (notional log / (log.map fillQuantity).sum) := by
  have hsums : filledQuantity (log.filterMap (readFill now)) = (log.map fillQuantity).sum ∧
      ((log.filterMap (readFill now)).map fun fill => max 0 fill.quantity * fill.price).sum =
        notional log := by
    induction log with
    | nil => exact ⟨rfl, rfl⟩
    | cons event log ih =>
      obtain ⟨fill, hr, hq, hprice⟩ := h event (List.mem_cons_self ..) now
      obtain ⟨ihq, ihn⟩ := ih fun e he => h e (List.mem_cons_of_mem event he)
      unfold filledQuantity notional at *
      simp only [List.filterMap_cons, hr, List.map_cons, List.sum_cons, ihq, ihn, hq,
        hprice, and_self]
  rw [weightedAveragePrice, hsums.1, hsums.2]

/-! ### One report -/

/-- The log of an order that is in step with its exchange: fills that sum to the filled total,
the last one at a positive price. -/
private structure Sound (s : ReportedOrder) : Prop where
  inStep : InStep s
  reads : ∀ event ∈ s.log, ReadsAs event
  sum_eq : (s.log.map fillQuantity).sum = s.total
  priced : ∀ last ∈ s.last, ∃ average ∈ last.averagePrice, 0 < average

private theorem notional_step_iff {before after average average' : ℚ} (h : 0 ≤ before) :
    before * average + (after - before) * average' = after * average' ↔
      (0 < before → average = average') := by
  constructor
  · intro heq hpos
    have hz : before * (average - average') = 0 := by linarith
    exact sub_eq_zero.mp ((mul_eq_zero.mp hz).resolve_left hpos.ne')
  · intro hsame
    rcases h.eq_or_lt with hz | hpos
    · rw [← hz]
      ring
    · rw [hsame hpos]
      ring

section

variable {uuid5 : Uuid5} {s : ReportedOrder} {x : Report}

private theorem notionalKept_iff (h : Sound s) {last : LifecycleStatusSnapshot} {average : ℚ}
    (hlast : s.last = some last) (havg : last.averagePrice = some average) :
    NotionalKept s ↔ notional s.log = last.filledQuantityTotal * average := by
  have htotal : (s.log.map fillQuantity).sum = last.filledQuantityTotal := by
    rw [h.sum_eq, ReportedOrder.total, hlast]
    rfl
  simp only [NotionalKept, hlast, Option.mem_some_iff, forall_eq', havg, and_iff_left_iff_imp]
  intro hnotional now
  rw [weightedAveragePrice_log h.reads, htotal, hnotional]
  split
  · rfl
  · next hlarge =>
    have hpos : last.filledQuantityTotal ≠ 0 := (epsilon_pos.trans (not_le.mp hlarge)).ne'
    rw [mul_comm, mul_div_assoc, div_self hpos, mul_one]

private theorem log_report (uuid5 : Uuid5) {quantity average : ℚ}
    (he : emission s.order x.snapshot = some (status, quantity)) (hf : status.isFill)
    (hq : 0 < quantity) (havg : x.snapshot.averagePrice = some average)
    (hpos : 0 < average) :
    ∃ event, (report uuid5 s x).log = s.log ++ [event] ∧ ReadsAs event ∧
      fillQuantity event = quantity ∧ fillPrice event = average := by
  have hafter : averageAfter (absorbIds s.order x.snapshot) x.snapshot = some average := by
    rw [averageAfter, havg, positiveOrNone, if_neg (not_le.mpr hpos), Option.some_or]
  rw [report, applyToOrder_of_some uuid5 x.clock x.source he, publish]
  refine ⟨_, rfl, readsAs_lifecycleEnvelope _ _ _ _ _ _ hf hq, ?_, ?_⟩
  · rw [fillQuantity_lifecycleEnvelope, if_pos hf]
  · rw [fillPrice_lifecycleEnvelope, hafter, Option.getD_some]

private theorem log_of_silent (h : InStep s) (hn : s.last = none)
    (he : emission s.order x.snapshot = none) : (report uuid5 s x).log = [] := by
  rw [report, applyToOrder_of_none uuid5 x.clock x.source he, (h.fresh hn).2]
  rfl

private theorem sound_report (h : Sound s) (hp : IsProgress s x) (hx : IsPriced x)
    (hc : readStatus x.snapshot.status = some .filled → 0 < x.snapshot.filledQuantityTotal) :
    Sound (report uuid5 s x) := by
  have hinStep : InStep (report uuid5 s x) := inStep_report h.inStep hp
  have hpriced : ∀ last ∈ (report uuid5 s x).last, ∃ average ∈ last.averagePrice, 0 < average := by
    intro last hlast
    cases hlast
    exact hx
  have htotal : (report uuid5 s x).total = x.snapshot.filledQuantityTotal := rfl
  obtain ⟨average, havg, hpos⟩ := hx
  cases progress_cases h.inStep hp with
  | grown status hf _ hgrown he =>
    obtain ⟨event, hlog, hreads, hq, -⟩ :=
      log_report uuid5 he hf (sub_pos.mpr hgrown) havg hpos
    refine ⟨hinStep, ?_, ?_, hpriced⟩
    · intro e hm
      rw [hlog, List.mem_append, List.mem_singleton] at hm
      rcases hm with hm | rfl
      · exact h.reads e hm
      · exact hreads
    · rw [hlog, htotal, List.map_append, List.sum_append, h.sum_eq, List.map_singleton,
        List.sum_singleton, hq]
      ring
  | whole _ hs hz _ => exact absurd hz (hc hs).ne'
  | silent hn _ hz he =>
    have hlog : (report uuid5 s x).log = [] := log_of_silent h.inStep hn he
    refine ⟨hinStep, ?_, ?_, hpriced⟩
    · intro e hm
      rw [hlog] at hm
      exact absurd hm List.not_mem_nil
    · rw [hlog, htotal, hz]
      rfl

private theorem notionalKept_grown_iff (h : Sound s) (hp : IsProgress s x) (hx : IsPriced x)
    (hkept : NotionalKept s) (hf : status.isFill)
    (hgrown : s.total < x.snapshot.filledQuantityTotal)
    (he : emission s.order x.snapshot =
      some (status, x.snapshot.filledQuantityTotal - s.total)) :
    NotionalKept (report uuid5 s x) ↔ KeepsAverage s x := by
  obtain ⟨average, havg, hpos⟩ := id hx
  obtain ⟨event, hlog, -, hq, hprice⟩ :=
    log_report uuid5 he hf (sub_pos.mpr hgrown) havg hpos
  have hrep : 0 ≤ s.total := h.inStep.reported_eq ▸ s.order.reported_nonneg
  have hfilled : 0 < x.snapshot.filledQuantityTotal := hrep.trans_lt hgrown
  have hsound : Sound (report uuid5 s x) := sound_report h hp hx fun _ => hfilled
  have hnotional : notional (report uuid5 s x).log = notional s.log +
      (x.snapshot.filledQuantityTotal - s.total) * average := by
    rw [hlog, notional, List.map_append, List.sum_append, List.map_singleton,
      List.sum_singleton, hq, hprice]
    rfl
  rw [notionalKept_iff hsound rfl havg, hnotional]
  cases hl : s.last with
  | none =>
    have hz : s.total = 0 := by rw [ReportedOrder.total, hl]; rfl
    rw [(h.inStep.fresh hl).2, hz]
    refine iff_of_true (by simp [notional]) ⟨fun _ => hfilled, ?_⟩
    intro last hlast
    cases hl.symm.trans hlast
  | some last =>
    obtain ⟨before, hbefore, -⟩ := h.priced last hl
    have htotal : s.total = last.filledQuantityTotal := by rw [ReportedOrder.total, hl]; rfl
    rw [(hkept last hl before hbefore).1, htotal]
    have hkeeps : KeepsAverage s x ↔ (0 < last.filledQuantityTotal → before = average) := by
      rw [Option.mem_def] at hbefore havg
      simp [KeepsAverage, hl, hbefore, havg, hfilled]
    rw [hkeeps, ← htotal]
    exact notional_step_iff hrep

private theorem notionalKept_report_iff (h : Sound s) (hp : IsProgress s x) (hx : IsPriced x)
    (hkept : NotionalKept s) : NotionalKept (report uuid5 s x) ↔ KeepsAverage s x := by
  obtain ⟨average, havg, hpos⟩ := id hx
  have hlast : (report uuid5 s x).last = some x.snapshot := rfl
  cases progress_cases h.inStep hp with
  | grown status hf hs hgrown he => exact notionalKept_grown_iff h hp hx hkept hf hgrown he
  | whole hn hs hz he =>
    -- The whole quantity is emitted although the exchange reports nothing as filled.
    obtain ⟨event, hlog, -, hq, hprice⟩ :=
      log_report uuid5 he rfl s.order.requested_pos havg hpos
    refine iff_of_false ?_ fun hc => (hc.1 hs).ne' hz
    intro hkept'
    have hnotional := (hkept' x.snapshot hlast average havg).1
    rw [hlog, (h.inStep.fresh hn).2, hz, zero_mul] at hnotional
    simp only [notional, List.nil_append, List.map_singleton, List.sum_singleton, hq,
      hprice] at hnotional
    exact (mul_pos s.order.requested_pos hpos).ne' hnotional
  | silent hn hs hz he =>
    have hnotFilled : readStatus x.snapshot.status = some .filled →
        0 < x.snapshot.filledQuantityTotal := fun hfilled => by cases hs.symm.trans hfilled
    have hlog : (report uuid5 s x).log = [] := log_of_silent h.inStep hn he
    refine iff_of_true ?_ ⟨hnotFilled, fun last hlast' => by cases hn.symm.trans hlast'⟩
    rw [notionalKept_iff (sound_report h hp hx hnotFilled) hlast havg, hlog, hz, zero_mul]
    rfl

end

/-! ### Runs -/

/-- Over the fill reports of an order with growing totals and positive average prices, the
notional is kept throughout exactly when every report keeps the average price. -/
theorem notionalKept_iff_keepsAverage (uuid5 : Uuid5) {order : TrackedLifecycleOrder}
    (hfresh : IsFresh order) {reports : List Report}
    (h : Along (report uuid5) (fun s x => IsProgress s x ∧ IsPriced x) { order } reports) :
    Throughout (report uuid5) NotionalKept { order } reports ↔
      Along (report uuid5) KeepsAverage { order } reports := by
  have hsound : Sound { order } := ⟨inStep_of_isFresh hfresh,
    fun _ hmem => absurd hmem List.not_mem_nil, rfl, nofun⟩
  have hkept : NotionalKept { order } := nofun
  refine throughout_iff_along ?_ ?_ h hsound hkept
  · intro s x hs hx hc
    exact sound_report hs hx.1 hx.2 hc.1
  · intro s x hs hx hk
    exact notionalKept_report_iff hs hx.1 hx.2 hk

/-- Two reports of an order of one unit, the second at an average price of its own. -/
def twoReports (average : ℚ) : List Report :=
  [⟨sampleSnapshot "partially_filled" (1 / 2) (some 100) (some "x"), .privateStream, sampleClock⟩,
    ⟨sampleSnapshot "filled" 1 (some average) (some "x"), .restFallback, laterClock⟩]

/-- At one price throughout the notional is kept. -/
theorem notionalKept_one_price :
    Throughout (report sampleUuid5) NotionalKept { order := sampleOrder } (twoReports 100) :=
  (notionalKept_iff_keepsAverage sampleUuid5 (isFresh_of_intentOrder intentOrder_sampleOrder)
    (by decide +kernel)).mpr (by decide +kernel)

/-- When the average rises to 110, the fills come to 105 for one unit and so does the average
the OMS computes. -/
theorem second_fill_at_cumulative_average :
    let s := run (report sampleUuid5) { order := sampleOrder } (twoReports 110)
    notional s.log = 105 ∧
      weightedAveragePrice (s.log.filterMap (readFill "now")) = some 105 ∧ ¬ NotionalKept s := by
  intro s
  have hvalues : notional s.log = 105 ∧
      weightedAveragePrice (s.log.filterMap (readFill "now")) = some 105 := by decide +kernel
  obtain ⟨hnotional, haverage⟩ := hvalues
  refine ⟨hnotional, haverage, ?_⟩
  intro hkept
  have h110 := (hkept _ rfl 110 rfl).1
  rw [hnotional] at h110
  norm_num [sampleSnapshot] at h110

end OpenTrader.Worker
