import OpenTrader.Oms.OrderLedger
import OpenTrader.Worker.Reports

/-!
# Completion of an order in the OMS

Library `Worker`. `services/workers/execution_lifecycle.py:444-489`,
`services/workers/oms_lifecycle.py:101-144`. The lifecycle worker and the OMS runner in tandem:
the OMS consumes the events of one order as they are published. It takes the quantity of the
first event of an order id for the requested quantity, while a fill event carries only what was
filled last.
-/

namespace OpenTrader.Worker
open Base Oms

/-- A report with the clock text of the OMS when it consumes the event. -/
structure Relayed extends Report where
  now : String

/-- An order in the worker, and the OMS that consumes its events. -/
structure Tandem extends ReportedOrder where
  oms : RunnerState := {}

/-- One report is applied, and the OMS consumes the event it leads to. -/
def relay (base : ℚ) (uuid5 : Uuid5) (s : Tandem) (x : Relayed) : Tandem :=
  { toReportedOrder := report uuid5 s.toReportedOrder x.toReport
    oms := ((applyToOrder uuid5 x.clock x.source s.order x.snapshot).2.map fun event =>
      (runOnce base x.now s.oms event.envelope).1).getD s.oms }

/-- The order id of the event a report leads to. -/
def Tandem.nextId (uuid5 : Uuid5) (s : Tandem) (x : Relayed) : String :=
  resolveOrderId uuid5 (absorbIds s.order x.snapshot)

/-- The fill quantity emitted so far. -/
def Tandem.emitted (s : Tandem) : ℚ := (s.log.map fillQuantity).sum

/-- Every event of the order has a record in the OMS, which requests the quantity of the intent
and is filled exactly when that quantity, up to `epsilon`, was emitted. -/
def JudgedByIntent (s : Tandem) : Prop :=
  ∀ event ∈ s.log, ∃ id ∈ eventOrderId event, ∃ record ∈ s.oms.orders.get? id,
    record.requestedQuantity = s.order.requestedQuantity ∧
      (record.status = .filled ↔ s.order.requestedQuantity - epsilon ≤ s.emitted)

/-- A report that grows the total under an order id of which there is no event yet brings the
whole requested quantity at once, with status `filled` if that quantity is negligible. -/
def OpensWhole (uuid5 : Uuid5) (s : Tandem) (x : Relayed) : Prop :=
  (∀ event ∈ s.log, eventOrderId event ≠ some (s.nextId uuid5 x)) →
    s.order.reportedFilledQuantity < x.snapshot.filledQuantityTotal →
      x.snapshot.filledQuantityTotal - s.order.reportedFilledQuantity =
          s.order.requestedQuantity ∧
        (epsilon < s.order.requestedQuantity ∨ readStatus x.snapshot.status = some .filled)

instance (uuid5 : Uuid5) (s : Tandem) (x : Relayed) : Decidable (OpensWhole uuid5 s x) :=
  inferInstanceAs (Decidable (_ → _ → _))

/-! ### One event -/

/-- The OMS has a record for the ids of the events and no others, each opened by a fill whose
quantity is among those emitted. -/
private structure Mirrors (log : List PublishedEvent) (oms : RunnerState) : Prop where
  named : ∀ event ∈ log, ∃ id, eventOrderId event = some id
  known : ∀ id, (∃ event ∈ log, eventOrderId event = some id) ↔ (oms.orders.get? id).isSome
  blank : ∀ id, oms.orders.get? id = none → oms.lifecycleEvents.get? id = none
  opened : ∀ id, ∀ record ∈ oms.orders.get? id, ∃ events ∈ oms.lifecycleEvents.get? id,
    OpenedByFill id events record
  covered : ∀ id, ∀ record ∈ oms.orders.get? id,
    record.requestedQuantity ≤ (log.map fillQuantity).sum
  emitted_nonneg : 0 ≤ (log.map fillQuantity).sum

/-- The worker is in step with the exchange and the OMS with the worker. -/
private structure InTandem (s : Tandem) : Prop extends Mirrors s.log s.oms where
  inStep : InStep s.toReportedOrder
  stripped : s.order.Stripped

section

variable {base : ℚ} {uuid5 : Uuid5} {s : Tandem} {x : Relayed} {status : LifecycleStatus}
  {quantity : ℚ}

private def updateOf (uuid5 : Uuid5) (s : Tandem) (x : Relayed) (status : LifecycleStatus)
    (quantity : ℚ) : OrderUpdate :=
  feedUpdate uuid5 x.clock (absorbIds s.order x.snapshot) status quantity
    (averageAfter (absorbIds s.order x.snapshot) x.snapshot)
    (totalDelta (x.snapshot.feeTotal.getD 0) (absorbIds s.order x.snapshot).reportedFeeTotal) x.now

private theorem isFillUpdate_updateOf (hf : status.isFill) (hq : 0 < quantity) :
    IsFillUpdate (updateOf uuid5 s x status quantity) := by
  refine ⟨hq, feedFill .., if_pos hf, rfl, ?_⟩
  simp [feedFill, positionFillToReconciliationFill, updateOf, feedUpdate, abs_of_pos hq]

/-- What a published event changes. -/
private structure Emits (s after : Tandem) (u : OrderUpdate) : Prop where
  log_eq : ∃ event, after.log = s.log ++ [event] ∧ eventOrderId event = some u.orderId ∧
    fillQuantity event = u.requestedQuantity
  requested_eq : after.order.requestedQuantity = s.order.requestedQuantity
  orders_eq : after.oms.orders = s.oms.orders.set u.orderId (reconciledOrder s.oms u)
  events_eq : after.oms.lifecycleEvents =
    s.oms.lifecycleEvents.set u.orderId (eventsForOrder s.oms u)

private theorem emits_relay (hs : s.order.Stripped) (hx : x.snapshot.Stripped)
    (he : emission s.order x.snapshot = some (status, quantity)) (hf : status.isFill)
    (hq : 0 < quantity) :
    Emits s (relay base uuid5 s x) (updateOf uuid5 s x status quantity) := by
  have hr := readUpdate_lifecycleEnvelope uuid5 x.clock x.source
    (absorbIds s.order x.snapshot) status quantity
    (averageAfter (absorbIds s.order x.snapshot) x.snapshot)
    (totalDelta (x.snapshot.feeTotal.getD 0) (absorbIds s.order x.snapshot).reportedFeeTotal)
    (stripped_absorbIds hs hx) hq x.now
  obtain ⟨horders, hevs⟩ := runOnce_orderLedger base s.oms hr
  rw [relay, report, applyToOrder_of_some uuid5 x.clock x.source he, publish]
  refine ⟨⟨_, rfl, rfl, ?_⟩, rfl, horders, hevs⟩
  rw [fillQuantity_lifecycleEnvelope, if_pos hf]
  rfl

variable {u : OrderUpdate}

private theorem opened_next (h : InTandem s) (hu : IsFillUpdate u) :
    OpenedByFill u.orderId (eventsForOrder s.oms u) (existingOrder s.oms u) := by
  cases ho : s.oms.orders.get? u.orderId with
  | none => exact openedByFill_of_new hu ho (h.blank _ ho)
  | some record =>
    obtain ⟨events, hevs, hopened⟩ := h.opened _ record ho
    exact openedByFill_of_known ho hevs hopened

variable {after : Tandem} {state : OmsState}

private theorem emitted_emits (he : Emits s after u) :
    after.emitted = s.emitted + u.requestedQuantity := by
  obtain ⟨event, hlog, -, hq⟩ := he.log_eq
  rw [Tandem.emitted, hlog, List.map_append, List.sum_append, List.map_singleton,
    List.sum_singleton, hq]
  rfl

private theorem requested_le_emitted (h : InTandem s) (hu : IsFillUpdate u) :
    (reconciledOrder s.oms u).requestedQuantity ≤ s.emitted + u.requestedQuantity := by
  have hreq : (reconciledOrder s.oms u).requestedQuantity =
      (existingOrder s.oms u).requestedQuantity := rfl
  rw [hreq, existingOrder]
  cases hg : s.oms.orders.get? u.orderId with
  | none =>
    rw [Option.getD_none]
    exact le_add_of_nonneg_left h.emitted_nonneg
  | some record =>
    rw [Option.getD_some]
    exact (h.covered _ record hg).trans (le_add_of_nonneg_right hu.requested_pos.le)

private theorem inTandem_emits (h : InTandem s) (hu : IsFillUpdate u) (he : Emits s after u)
    (hstep : InStep after.toReportedOrder) (hstripped : after.order.Stripped) : InTandem after := by
  have hopened := opened_next h hu
  have hemitted := emitted_emits he
  obtain ⟨event, hlog, hid, -⟩ := he.log_eq
  refine ⟨⟨?_, ?_, ?_, ?_, ?_, ?_⟩, hstep, hstripped⟩
  · intro e hm
    rw [hlog, List.mem_append, List.mem_singleton] at hm
    rcases hm with hm | rfl
    · exact h.named e hm
    · exact ⟨u.orderId, hid⟩
  · intro id
    rw [hlog, he.orders_eq, Dict.get?_set]
    by_cases hk : u.orderId = id
    · simp [hk, hid]
    · simp [hk, hid, ← h.known id, or_and_right, exists_or]
  · intro id
    rw [he.orders_eq, he.events_eq, Dict.get?_set, Dict.get?_set]
    by_cases hk : u.orderId = id
    · simp [hk]
    · simpa [hk] using h.blank id
  · intro id
    rw [he.orders_eq, he.events_eq, Dict.get?_set, Dict.get?_set]
    by_cases hk : u.orderId = id
    · subst hk
      simpa using openedByFill_reconciledOrder hopened
    · simpa [hk] using h.opened id
  · intro id record hg
    rw [he.orders_eq, Dict.get?_set] at hg
    refine le_of_le_of_eq ?_ hemitted.symm
    split at hg
    · cases hg
      exact requested_le_emitted h hu
    · exact (h.covered id record hg).trans (le_add_of_nonneg_right hu.requested_pos.le)
  · refine le_of_le_of_eq ?_ hemitted.symm
    exact add_nonneg h.emitted_nonneg hu.requested_pos.le

private theorem judgedByIntent_iff (h : InTandem s) :
    JudgedByIntent s ↔ ∀ id, ∀ record ∈ s.oms.orders.get? id,
      record.requestedQuantity = s.order.requestedQuantity ∧ record.status = .filled := by
  -- A record covers its requested quantity from its first fill on.
  have hcovered : ∀ id, ∀ record ∈ s.oms.orders.get? id,
      record.requestedQuantity = s.order.requestedQuantity →
        s.order.requestedQuantity - epsilon ≤ s.emitted := by
    intro id record hg hreq
    rw [← hreq]
    exact (sub_le_self _ epsilon_pos.le).trans (h.covered id record hg)
  constructor
  · intro hj id record hg
    obtain ⟨event, hm, hid⟩ := (h.known id).mpr (Option.isSome_of_mem hg)
    obtain ⟨id', hid', record', hget', hreq, hstat⟩ := hj event hm
    cases Option.mem_unique hid hid'
    cases Option.mem_unique hg hget'
    exact ⟨hreq, hstat.mpr (hcovered id record hg hreq)⟩
  · intro hall event hm
    obtain ⟨id, hid⟩ := h.named event hm
    obtain ⟨record, hg⟩ := Option.isSome_iff_exists.mp ((h.known id).mp ⟨event, hm, hid⟩)
    obtain ⟨hreq, hstat⟩ := hall id record hg
    exact ⟨id, hid, record, hg, hreq,
      iff_of_true hstat (hcovered id record hg hreq)⟩

private theorem reconciledOrder_new (h : InTandem s) (hu : IsFillUpdate u)
    (hstate : eventStatusMap u.event.toLifecycleEvent.eventType = some state)
    (hnew : s.oms.orders.get? u.orderId = none) :
    (reconciledOrder s.oms u).requestedQuantity = u.requestedQuantity ∧
      (reconciledOrder s.oms u).status =
        if u.requestedQuantity ≤ epsilon then pickStatus [.new, state] else .filled := by
  have hexisting : existingOrder s.oms u =
      { orderId := u.orderId, symbol := u.symbol, mode := u.mode,
        requestedQuantity := u.requestedQuantity } := by
    rw [existingOrder, hnew, Option.getD_none]
  have hevs : eventsForOrder s.oms u = [u.event] := by
    rw [eventsForOrder, h.blank _ hnew, Option.getD_none, List.nil_append]
  have hstat := status_reconciledOrder (opened_next h hu)
  rw [hexisting, hevs] at hstat
  refine ⟨congrArg (·.requestedQuantity) hexisting, hstat.trans ?_⟩
  simp [queueStatuses, hstate]

private theorem reconciledOrder_known {record : ReconciliationOrder} (h : InTandem s)
    (hu : IsFillUpdate u) (hg : s.oms.orders.get? u.orderId = some record)
    (hfilled : record.status = .filled) :
    (reconciledOrder s.oms u).requestedQuantity = record.requestedQuantity ∧
      (reconciledOrder s.oms u).status = .filled := by
  have hexisting : existingOrder s.oms u = record := by
    rw [existingOrder, hg, Option.getD_some]
  have hstat := status_reconciledOrder (opened_next h hu)
  rw [hexisting, hfilled, pickStatus_filled, ite_self] at hstat
  exact ⟨congrArg (·.requestedQuantity) hexisting, hstat⟩

private theorem judged_emits_iff (h : InTandem s) (hafter : InTandem after) (hj : JudgedByIntent s)
    (hu : IsFillUpdate u) (he : Emits s after u)
    (hstate : eventStatusMap u.event.toLifecycleEvent.eventType = some state)
    (hfillState : state = .filled ∨ state = .partiallyFilled) :
    JudgedByIntent after ↔ ((∀ event ∈ s.log, eventOrderId event ≠ some u.orderId) →
      u.requestedQuantity = s.order.requestedQuantity ∧
        (epsilon < s.order.requestedQuantity ∨ state = .filled)) := by
  rw [judgedByIntent_iff h] at hj
  have hafter_iff : JudgedByIntent after ↔
      (reconciledOrder s.oms u).requestedQuantity = s.order.requestedQuantity ∧
        (reconciledOrder s.oms u).status = .filled := by
    rw [judgedByIntent_iff hafter, he.orders_eq, he.requested_eq]
    constructor
    · intro hall
      exact hall u.orderId _ (Dict.get?_set_self ..)
    · intro hrec id record hg
      rw [Option.mem_def, Dict.get?_set] at hg
      split at hg
      · cases hg
        exact hrec
      · exact hj id record hg
  rw [hafter_iff]
  cases hg : s.oms.orders.get? u.orderId with
  | none =>
    have hfst : ∀ event ∈ s.log, eventOrderId event ≠ some u.orderId := by
      intro event hm hid
      have := (h.known u.orderId).mp ⟨event, hm, hid⟩
      rw [hg] at this
      cases this
    obtain ⟨hreq, hstat⟩ := reconciledOrder_new h hu hstate hg
    rw [hreq, hstat, forall_prop_of_true hfst]
    refine and_congr_right fun hwhole => ?_
    rw [hwhole, ← not_le]
    rcases hfillState with rfl | rfl
    · simp [pickStatus, statusPriority]
    · simp [pickStatus, statusPriority]
  | some record =>
    obtain ⟨hreq, hfilled⟩ := hj u.orderId record hg
    obtain ⟨hkept, hstat⟩ := reconciledOrder_known h hu hg hfilled
    refine iff_of_true ⟨hkept.trans hreq, hstat⟩ fun hfst => ?_
    obtain ⟨event, hm, hid⟩ := (h.known u.orderId).mpr (by rw [hg]; rfl)
    exact absurd hid (hfst event hm)

private theorem eventStatusMap_eventType (hf : status.isFill) :
    ∃ state, eventStatusMap status.eventType = some state ∧
      (state = .filled ∨ state = .partiallyFilled) ∧ (state = .filled ↔ status = .filled) := by
  cases status with
  | filled => exact ⟨.filled, rfl, .inl rfl, by simp⟩
  | partiallyFilled => exact ⟨.partiallyFilled, rfl, .inr rfl, by simp⟩
  | submitted | canceled | rejected | expired => cases hf

private theorem relay_silent (base : ℚ) (uuid5 : Uuid5) (he : emission s.order x.snapshot = none) :
    (relay base uuid5 s x).log = s.log ∧ (relay base uuid5 s x).oms = s.oms ∧
      (relay base uuid5 s x).order.requestedQuantity = s.order.requestedQuantity := by
  rw [relay, report, applyToOrder_of_none uuid5 x.clock x.source he]
  exact ⟨List.append_nil _, rfl, rfl⟩

private theorem inTandem_relay (h : InTandem s) (hp : IsProgress s.toReportedOrder x.toReport)
    (hx : x.snapshot.Stripped) : InTandem (relay base uuid5 s x) := by
  have hstep : InStep (relay base uuid5 s x).toReportedOrder := inStep_report h.inStep hp
  have hstripped : (relay base uuid5 s x).order.Stripped := stripped_applyToOrder h.stripped hx
  cases progress_cases h.inStep hp with
  | grown status hf _ hgrown he =>
    have hq := sub_pos.mpr hgrown
    exact inTandem_emits h (isFillUpdate_updateOf hf hq)
      (emits_relay h.stripped hx he hf hq) hstep hstripped
  | whole _ _ _ he =>
    have hq := s.order.requested_pos
    exact inTandem_emits h (isFillUpdate_updateOf rfl hq)
      (emits_relay h.stripped hx he rfl hq) hstep hstripped
  | silent _ _ _ he =>
    obtain ⟨hlog, homs, -⟩ := relay_silent base uuid5 he
    refine ⟨?_, hstep, hstripped⟩
    rw [hlog, homs]
    exact h.toMirrors

private theorem judged_relay_iff (h : InTandem s) (hp : IsProgress s.toReportedOrder x.toReport)
    (hx : x.snapshot.Stripped) (hj : JudgedByIntent s) :
    JudgedByIntent (relay base uuid5 s x) ↔ OpensWhole uuid5 s x := by
  have hafter : InTandem (relay base uuid5 s x) := inTandem_relay h hp hx
  have hstale : x.snapshot.filledQuantityTotal = 0 → OpensWhole uuid5 s x := by
    intro hz _ hgrown
    exact absurd (hz ▸ hgrown) (not_lt.mpr s.order.reported_nonneg)
  cases progress_cases h.inStep hp with
  | grown status hf hs hgrown he =>
    have hq := sub_pos.mpr hgrown
    obtain ⟨state, hstate, hfillState, hiff⟩ := eventStatusMap_eventType hf
    rw [judged_emits_iff h hafter hj (isFillUpdate_updateOf hf hq)
      (emits_relay h.stripped hx he hf hq) hstate hfillState, OpensWhole,
      h.inStep.reported_eq, hs, Option.some_inj, hiff]
    exact ⟨fun hwhole hfst _ => hwhole hfst, fun hwhole hfst => hwhole hfst hgrown⟩
  | whole hn hs hz he =>
    have hq := s.order.requested_pos
    refine iff_of_true ?_ (hstale hz)
    rw [judged_emits_iff h hafter hj (isFillUpdate_updateOf rfl hq)
      (emits_relay h.stripped hx he rfl hq) rfl (.inl rfl)]
    exact fun _ => ⟨rfl, .inr rfl⟩
  | silent hn _ hz he =>
    obtain ⟨hlog, homs, hreq⟩ := relay_silent base uuid5 he
    refine iff_of_true ?_ (hstale hz)
    unfold JudgedByIntent Tandem.emitted at hj ⊢
    rwa [hlog, homs, hreq]

end

/-! ### Runs -/

/-- Over the fill reports of a tracked intent with growing totals, the OMS judges the order by
the quantity of the intent throughout exactly when no report opens a record with less. -/
theorem judgedByIntent_iff_opensWhole (base : ℚ) (uuid5 : Uuid5)
    {envelope : Execution.IntentEnvelope} {order : TrackedLifecycleOrder}
    (hintent : intentOrder envelope = .ok (some order)) {reports : List Relayed}
    (h : Along (relay base uuid5)
      (fun s x => IsProgress s.toReportedOrder x.toReport ∧ x.snapshot.Stripped)
      { order } reports) :
    Throughout (relay base uuid5) JudgedByIntent { order } reports ↔
      Along (relay base uuid5) (OpensWhole uuid5) { order } reports := by
  have hstart : InTandem { order } :=
    ⟨⟨fun _ hmem => absurd hmem List.not_mem_nil, fun id => by simp [Dict.get?_empty],
      fun _ _ => rfl, nofun, nofun, le_refl 0⟩,
      inStep_of_isFresh (isFresh_of_intentOrder hintent), stripped_of_intentOrder hintent⟩
  have hjudged : JudgedByIntent { order } := fun _ hmem => absurd hmem List.not_mem_nil
  refine throughout_iff_along ?_ ?_ h hstart hjudged
  · intro s x hs hx _
    exact inTandem_relay hs hx.1 hx.2
  · intro s x hs hx hj
    exact judged_relay_iff hs hx.1 hx.2 hj

/-- A report of an order of one unit, consumed by the OMS right away. -/
def relayed (status : String) (total : ℚ) (clock : Clock) : Relayed :=
  { snapshot := sampleSnapshot status total (some 100) (some "x")
    source := .privateStream
    clock
    now := clock.stamp.text }

/-- An order filled at once is judged by its intent. -/
theorem judgedByIntent_filled_at_once :
    Throughout (relay 0 sampleUuid5) JudgedByIntent { order := sampleOrder }
      [relayed "filled" 1 sampleClock] :=
  (judgedByIntent_iff_opensWhole 0 sampleUuid5 intentOrder_sampleOrder
    (by decide +kernel)).mpr (by decide +kernel)

private theorem not_judgedByIntent {s : Tandem} {id : String} {record : ℚ × OmsState}
    (hlog : s.log.map eventOrderId = [some id])
    (hg : (s.oms.orders.get? id).map (fun r => (r.requestedQuantity, r.status)) = some record)
    (hne : record.1 ≠ s.order.requestedQuantity) : ¬ JudgedByIntent s := by
  intro hj
  obtain ⟨event, hsingle, hid⟩ := List.map_eq_singleton_iff.mp hlog
  obtain ⟨id', hid', r, hr, hreq, -⟩ := hj event (by rw [hsingle]; exact List.mem_cons_self)
  cases Option.mem_unique hid hid'
  rw [Option.mem_def.mp hr] at hg
  cases hg
  exact hne hreq

/-- After 2/5 of one unit the OMS takes the order for one of 2/5, and for filled. -/
theorem partial_fill_completes_order :
    let s := run (relay 0 sampleUuid5) { order := sampleOrder }
      [relayed "partially_filled" (2 / 5) sampleClock]
    s.order.requestedQuantity = 1 ∧ s.emitted = 2 / 5 ∧
      (s.oms.orders.get? "x").map (fun r => (r.requestedQuantity, r.status)) =
        some (2 / 5, .filled) ∧ ¬ JudgedByIntent s := by
  intro s
  have hvalues : s.order.requestedQuantity = 1 ∧ s.emitted = 2 / 5 ∧
      (s.oms.orders.get? "x").map (fun r => (r.requestedQuantity, r.status)) =
        some (2 / 5, .filled) ∧ s.log.map eventOrderId = [some "x"] := by decide +kernel
  obtain ⟨hrequested, hemitted, hget, hlog⟩ := hvalues
  refine ⟨hrequested, hemitted, hget, not_judgedByIntent hlog hget ?_⟩
  rw [hrequested]
  norm_num

end OpenTrader.Worker
