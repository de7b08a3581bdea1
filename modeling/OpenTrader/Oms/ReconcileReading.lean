import Mathlib.Algebra.Order.BigOperators.Group.List
import OpenTrader.Base.Fallible
import OpenTrader.Oms.Reconcile

/-!
# What a reconciliation reads

Library `Oms`. `services/oms/fill_reconciliation.py:94-157`. Of the events and the snapshot a call
reads the highest status of the events, the fills of the order and the status of the snapshot; the
order is then settled with what was read. Which events there are matters, neither their order nor
how often each was delivered.
-/

namespace OpenTrader.Oms
open Base

/-! ### Statuses by priority -/

/-- Statuses in the order of `_STATUS_PRIORITY`. -/
instance : LinearOrder OmsState :=
  LinearOrder.lift' statusPriority fun s t h => by cases s <;> cases t <;> first | rfl | cases h

variable {c s t : OmsState} {orderId : String}

private theorem statusPriority_lt_iff : statusPriority s < statusPriority t ↔ s < t :=
  Iff.rfl

private theorem pickStatus_eq_foldl (statuses : List OmsState) :
    pickStatus statuses = statuses.foldl max .new := by
  unfold pickStatus
  congr 1
  funext best status
  by_cases h : best < status
  · rw [if_pos (statusPriority_lt_iff.mpr h), max_eq_right h.le]
  · rw [if_neg fun hlt => h (statusPriority_lt_iff.mp hlt), max_eq_left (not_lt.mp h)]

private theorem new_le (s : OmsState) : .new ≤ s := Nat.zero_le (statusPriority s)

variable {statuses : List OmsState}

private theorem foldl_max_le_iff {b : OmsState} :
    statuses.foldl max b ≤ c ↔ b ≤ c ∧ ∀ s ∈ statuses, s ≤ c := by
  induction statuses generalizing b with
  | nil => simp
  | cons s statuses ih => simp [ih, and_assoc]

private theorem pickStatus_le_iff : pickStatus statuses ≤ c ↔ ∀ s ∈ statuses, s ≤ c := by
  rw [pickStatus_eq_foldl, foldl_max_le_iff, and_iff_right (new_le c)]

private theorem pickStatus_lt_iff (hc : .new < c) :
    pickStatus statuses < c ↔ ∀ s ∈ statuses, s < c := by
  have hfold (b : OmsState) : statuses.foldl max b < c ↔ b < c ∧ ∀ s ∈ statuses, s < c := by
    induction statuses generalizing b with
    | nil => simp
    | cons s statuses ih => simp [ih, and_assoc]
  rw [pickStatus_eq_foldl, hfold, and_iff_right hc]

private theorem pickStatus_cons (s : OmsState) (statuses : List OmsState) :
    pickStatus (s :: statuses) = max s (pickStatus statuses) := by
  apply eq_of_forall_ge_iff
  intro c
  rw [pickStatus_le_iff, max_le_iff, pickStatus_le_iff, List.forall_mem_cons]

/-! ### Reading and settling -/

/-- What a call reads: the highest status of the events, the fills of the order, each once, and the
snapshot with its status. -/
structure Reading where
  status : OmsState
  fills : List ReconciliationFill
  exchange : Option (OmsState × ExchangeOrderSnapshot)
  distinct : (fills.map (·.fillId)).Nodup

/-- The reading of a call for an order; `fill_reconciliation.py:95-105,115`. -/
def read (orderId : String) (events : List LifecycleEvent)
    (snapshot : Option ExchangeOrderSnapshot) : Except OmsStateTransitionError Reading := do
  let statuses ← eventStatuses events
  let status := pickStatus statuses
  let fills := dedupeFills (queueFills orderId events)
  have distinct := nodup_distinctBy (·.fillId) (queueFills orderId events)
  match snapshot with
  | none => return { status, fills, exchange := none, distinct }
  | some snap =>
    let snapshotStatus ← normalizeState snap.status
    return { status, fills, exchange := some (snapshotStatus, snap), distinct }

variable {events : List LifecycleEvent}

/-- What is read of events and a snapshot whose statuses are known. -/
theorem read_eq_ok_iff {snapshot : Option ExchangeOrderSnapshot} {reading : Reading} :
    read orderId events snapshot = .ok reading ↔
      ∃ statuses exchange, eventStatuses events = .ok statuses ∧
        exchange.map (·.2) = snapshot ∧ (∀ e ∈ exchange, normalizeState e.2.status = .ok e.1) ∧
        reading = ⟨pickStatus statuses, dedupeFills (queueFills orderId events), exchange,
          nodup_distinctBy (·.fillId) (queueFills orderId events)⟩ := by
  unfold read
  cases hstatuses : eventStatuses events with
  | error e => simp [bind, Except.bind]
  | ok statuses =>
    simp only [bind, Except.bind, pure, Except.pure, Except.ok.injEq, exists_and_left,
      exists_eq_left']
    cases snapshot with
    | none => simp [eq_comm]
    | some snap =>
      cases hsnap : normalizeState snap.status with
      | error e =>
        refine iff_of_false (by simp [hsnap]) ?_
        rintro ⟨exchange, hexchange, hnormal, -⟩
        obtain ⟨e', he', rfl⟩ := Option.map_eq_some_iff.mp hexchange
        rw [hnormal e' he'] at hsnap
        cases hsnap
      | ok snapshotStatus =>
        simp only [hsnap, Except.ok.injEq]
        constructor
        · rintro rfl
          exact ⟨some (snapshotStatus, snap), rfl, by simpa using hsnap, rfl⟩
        · rintro ⟨exchange, hexchange, hnormal, rfl⟩
          obtain ⟨e', he', rfl⟩ := Option.map_eq_some_iff.mp hexchange
          rw [hnormal e' he'] at hsnap
          cases hsnap
          cases he'
          rfl

namespace Reading

variable (reading : Reading) (order : ReconciliationOrder)

/-- The snapshot shows more than the fills; `fill_reconciliation.py:197,206`. -/
def moreFilled (snap : ExchangeOrderSnapshot) : Bool :=
  decide (filledQuantity reading.fills + minFillGap < max 0 snap.filledQuantity)

/-- The snapshot's terminal status is above the order's and the events';
`fill_reconciliation.py:194-196,201-205`. -/
def higherTerminal (snapshotStatus : OmsState) : Bool :=
  snapshotStatus.isTerminal && decide (max order.status reading.status < snapshotStatus)

/-- The exchange fallback is used. -/
def fallsBack : Bool :=
  reading.exchange.any fun e => reading.moreFilled e.2 || reading.higherTerminal order e.1

/-- The fills with those of the snapshot behind. -/
def withSnapshot (snap : ExchangeOrderSnapshot) : List ReconciliationFill :=
  dedupeFills (reading.fills ++ snap.fills.map normalizeFill)

/-- The fills a call works with. -/
def mergedFills : List ReconciliationFill :=
  if reading.fallsBack order then
    (reading.exchange.map fun e => reading.withSnapshot e.2).getD reading.fills
  else reading.fills

/-- The status of the events, and of the snapshot when the fallback is used. -/
def reportedStatus : OmsState :=
  if reading.fallsBack order then
    (reading.exchange.map fun e => max reading.status e.1).getD reading.status
  else reading.status

/-- The result for an order; `fill_reconciliation.py:106-157`. -/
def settle : FillReconciliationResult :=
  conclude order (reading.exchange.map (·.2)) (max order.status (reading.reportedStatus order))
    (reading.mergedFills order) (reading.fallsBack order)

end Reading

/-- A terminal status is above every other. -/
theorem lt_of_isTerminal (hs : s.isTerminal = false) (ht : t.isTerminal = true) : s < t := by
  cases s <;> cases ht' : t <;> simp_all [OmsState.isTerminal] <;> decide

private theorem requiresFallback_eq (current : OmsState) (fills : List ReconciliationFill)
    {snap : ExchangeOrderSnapshot} {snapshotStatus : OmsState}
    (h : normalizeState snap.status = .ok snapshotStatus) :
    requiresFallback current fills snap =
      .ok (decide (filledQuantity fills + minFillGap < max 0 snap.filledQuantity) ||
        (snapshotStatus.isTerminal && decide (current < snapshotStatus))) := by
  have hlt : decide (statusPriority snapshotStatus > statusPriority current) =
      decide (current < snapshotStatus) := decide_eq_decide.mpr statusPriority_lt_iff
  simp only [requiresFallback, h, bind, Except.bind, pure, Except.pure, hlt, gt_iff_lt]
  cases hcur : current.isTerminal with
  | true => simp [Bool.or_comm]
  | false =>
    cases hterminal : snapshotStatus.isTerminal with
    | false => simp
    | true => simp [lt_of_isTerminal hcur hterminal]

/-- A reconciliation reads, then settles. -/
theorem reconcile_eq (order : ReconciliationOrder) (events : List LifecycleEvent)
    (snapshot : Option ExchangeOrderSnapshot) :
    reconcile order events snapshot =
      (read order.orderId events snapshot).map fun reading => reading.settle order := by
  unfold reconcile read
  cases hstatuses : eventStatuses events with
  | error e => rfl
  | ok statuses =>
    simp only [bind, Except.bind, pure, Except.pure, pickStatus_cons]
    cases snapshot with
    | none => rfl
    | some snap =>
      cases hsnap : normalizeState snap.status with
      | error e => simp [requiresFallback, hsnap, bind, Except.bind, Except.map]
      | ok snapshotStatus =>
        simp only [requiresFallback_eq _ _ hsnap, hsnap, Except.map]
        generalize hreading : ({ status := pickStatus statuses
                                 fills := dedupeFills (queueFills order.orderId events)
                                 exchange := some (snapshotStatus, snap)
                                 distinct := nodup_distinctBy _ _ } : Reading) = reading
        have hdec : (decide (filledQuantity (dedupeFills (queueFills order.orderId events)) +
              minFillGap < max 0 snap.filledQuantity) || snapshotStatus.isTerminal &&
                decide (max order.status (pickStatus statuses) < snapshotStatus)) =
            reading.fallsBack order := by
          rw [← hreading]
          rfl
        rw [hdec]
        have hnew : max snapshotStatus (pickStatus []) = snapshotStatus :=
          max_eq_left (new_le snapshotStatus)
        rw [hnew, Reading.settle, Reading.reportedStatus, Reading.mergedFills]
        cases reading.fallsBack order with
        | false =>
          rw [← hreading]
          rfl
        | true =>
          rw [← hreading, max_assoc]
          rfl

/-! ### The events as a set -/

/-- Equal fill ids carry equal fills. -/
def FillsAgree (events : List LifecycleEvent) : Prop :=
  ∀ e ∈ events, ∀ e' ∈ events, ∀ fill ∈ e.fill, ∀ fill' ∈ e'.fill,
    fill.fillId = fill'.fillId → fill = fill'

/-- The part of a result that tells what became of the order. -/
def FillReconciliationResult.verdict (r : FillReconciliationResult) :
    OmsState × ℚ × Option ℚ × Bool × Bool :=
  (r.status, r.filledQuantity, r.averagePrice, r.usedExchangeFallback, r.changed)

private theorem eventStatuses_eq_ok (h : eventStatuses events = .ok statuses) :
    (∀ e ∈ events, ∃ status, eventStatus e = .ok status) ∧
      ∀ s, s ∈ statuses ↔ ∃ e ∈ events, eventStatus e = .ok (some s) := by
  induction events generalizing statuses with
  | nil =>
    cases h
    simp
  | cons e events ih =>
    cases he : eventStatus e with
    | error error => simp [eventStatuses, he, bind, Except.bind] at h
    | ok status =>
      cases hrest : eventStatuses events with
      | error error => simp [eventStatuses, he, hrest, bind, Except.bind] at h
      | ok rest =>
        obtain ⟨hall, hm⟩ := ih hrest
        simp only [eventStatuses, he, hrest, bind, Except.bind, pure, Except.pure,
          Except.ok.injEq] at h
        subst h
        refine ⟨?_, fun s => ?_⟩
        · rw [List.forall_mem_cons]
          exact ⟨⟨status, he⟩, hall⟩
        · rw [List.mem_append, hm, List.exists_mem_cons_iff, he]
          simp [Option.mem_toList, eq_comm]

private theorem exists_eventStatuses (h : ∀ e ∈ events, ∃ status, eventStatus e = .ok status) :
    ∃ statuses, eventStatuses events = .ok statuses := by
  induction events with
  | nil => exact ⟨[], rfl⟩
  | cons e events ih =>
    rw [List.forall_mem_cons] at h
    obtain ⟨status, he⟩ := h.1
    obtain ⟨rest, hrest⟩ := ih h.2
    exact ⟨status.toList ++ rest, by simp [eventStatuses, he, hrest, bind, Except.bind]; rfl⟩

variable {events' : List LifecycleEvent}

private theorem pickStatus_eventStatuses (hset : ∀ e, e ∈ events ↔ e ∈ events')
    (h : eventStatuses events = .ok statuses) :
    ∃ statuses', eventStatuses events' = .ok statuses' ∧
      pickStatus statuses' = pickStatus statuses := by
  obtain ⟨hall, hm⟩ := eventStatuses_eq_ok h
  obtain ⟨statuses', h'⟩ := exists_eventStatuses fun e he => hall e ((hset e).mpr he)
  obtain ⟨-, hmem'⟩ := eventStatuses_eq_ok h'
  refine ⟨statuses', h', eq_of_forall_ge_iff fun c => ?_⟩
  simp only [pickStatus_le_iff, hm, hmem', hset]

private theorem mem_queueFills_iff {fill : ReconciliationFill} :
    fill ∈ queueFills orderId events ↔
      ∃ e ∈ events, ∃ given ∈ e.fill, given.orderId = orderId ∧ normalizeFill given = fill := by
  simp only [queueFills, List.mem_map, List.mem_filter, List.mem_filterMap, decide_eq_true_iff]
  constructor
  · rintro ⟨given, ⟨⟨e, he, hgiven⟩, hid⟩, rfl⟩
    exact ⟨e, he, given, hgiven, hid, rfl⟩
  · rintro ⟨e, he, given, hgiven, hid, rfl⟩
    exact ⟨given, ⟨⟨e, he, hgiven⟩, hid⟩, rfl⟩

private theorem dedupeFills_queueFills_perm (hset : ∀ e, e ∈ events ↔ e ∈ events')
    (hfills : FillsAgree events) (orderId : String) :
    (dedupeFills (queueFills orderId events)).Perm (dedupeFills (queueFills orderId events')) := by
  apply distinctBy_perm
  · intro fill
    simp only [mem_queueFills_iff, hset]
  · intro fill hf fill' hfill' hid
    obtain ⟨e, he, given, hgiven, -, rfl⟩ := mem_queueFills_iff.mp hf
    obtain ⟨e', he', given', hgiven', -, rfl⟩ := mem_queueFills_iff.mp hfill'
    rw [hfills e he e' he' given hgiven given' hgiven' hid]

/-- Two readings that differ in the order of their fills only. -/
structure Reading.Alike (reading reading' : Reading) : Prop where
  status_eq : reading'.status = reading.status
  exchange_eq : reading'.exchange = reading.exchange
  fills_perm : reading.fills.Perm reading'.fills

private theorem read_alike (hset : ∀ e, e ∈ events ↔ e ∈ events') (hfills : FillsAgree events)
    {snapshot : Option ExchangeOrderSnapshot} {reading : Reading}
    (h : read orderId events snapshot = .ok reading) :
    ∃ reading', read orderId events' snapshot = .ok reading' ∧ reading.Alike reading' := by
  have hperm := dedupeFills_queueFills_perm hset hfills orderId
  obtain ⟨statuses, exchange, hstatuses, hexchange, hnormal, rfl⟩ := read_eq_ok_iff.mp h
  obtain ⟨statuses', hstatuses', hpick⟩ := pickStatus_eventStatuses hset hstatuses
  exact ⟨_, read_eq_ok_iff.mpr ⟨statuses', exchange, hstatuses', hexchange, hnormal, rfl⟩, hpick,
    rfl, hperm⟩

section

variable {fills fills' : List ReconciliationFill}

private theorem filledQuantity_perm (h : fills.Perm fills') :
    filledQuantity fills' = filledQuantity fills :=
  ((h.map _).sum_eq).symm

private theorem weightedAveragePrice_perm (h : fills.Perm fills') :
    weightedAveragePrice fills' = weightedAveragePrice fills := by
  unfold weightedAveragePrice
  rw [filledQuantity_perm h, ((h.map fun fill => max 0 fill.quantity * fill.price).sum_eq)]

private theorem verdict_conclude_perm (h : fills.Perm fills') (order : ReconciliationOrder)
    (snapshot : Option ExchangeOrderSnapshot) (status : OmsState) (used : Bool) :
    (conclude order snapshot status fills' used).verdict =
      (conclude order snapshot status fills used).verdict := by
  unfold conclude FillReconciliationResult.verdict
  rw [filledQuantity_perm h, weightedAveragePrice_perm h]

end

private theorem verdict_settle_of_alike {reading reading' : Reading} (h : reading.Alike reading')
    (order : ReconciliationOrder) :
    (reading'.settle order).verdict = (reading.settle order).verdict := by
  have hmore (snap : ExchangeOrderSnapshot) :
      reading'.moreFilled snap = reading.moreFilled snap := by
    rw [Reading.moreFilled, Reading.moreFilled, filledQuantity_perm h.fills_perm]
  have hfalls : reading'.fallsBack order = reading.fallsBack order := by
    unfold Reading.fallsBack Reading.higherTerminal
    rw [h.exchange_eq, h.status_eq]
    simp only [hmore]
  have hstat : reading'.reportedStatus order = reading.reportedStatus order := by
    unfold Reading.reportedStatus
    rw [hfalls, h.exchange_eq, h.status_eq]
  have hfills : (reading.mergedFills order).Perm (reading'.mergedFills order) := by
    unfold Reading.mergedFills
    rw [hfalls, h.exchange_eq]
    split
    · cases reading.exchange with
      | none => exact h.fills_perm
      | some e => exact distinctBy_append_perm _ h.fills_perm reading.distinct _
    · exact h.fills_perm
  unfold Reading.settle
  rw [hfalls, hstat, h.exchange_eq]
  exact verdict_conclude_perm hfills order _ _ _

/-- **Order and repetition.** Lists of the same events, in which equal fill ids carry equal fills,
give the same status, filled quantity, average price, fallback flag and changed flag, or both
raise. -/
theorem reconcile_of_same_events {events events' : List LifecycleEvent}
    (hset : ∀ e, e ∈ events ↔ e ∈ events') (hfills : FillsAgree events)
    (order : ReconciliationOrder) (snapshot : Option ExchangeOrderSnapshot) :
    (reconcile order events' snapshot).toOption.map (·.verdict) =
      (reconcile order events snapshot).toOption.map (·.verdict) := by
  have hfills' : FillsAgree events' := by
    unfold FillsAgree
    simp only [← hset]
    exact hfills
  rw [reconcile_eq, reconcile_eq]
  cases hread : read order.orderId events snapshot with
  | ok reading =>
    obtain ⟨reading', hread', halike⟩ := read_alike hset hfills hread
    rw [hread']
    exact congrArg some (verdict_settle_of_alike halike order)
  | error e =>
    cases hread' : read order.orderId events' snapshot with
    | error e' => rfl
    | ok reading' =>
      obtain ⟨reading, hok, -⟩ := read_alike (fun e => (hset e).symm) hfills' hread'
      rw [hread] at hok
      cases hok

/-! ### What is read, on the events and the snapshot -/

/-- The statuses of the events and of the snapshot are known, the snapshot's as in `exchange`. -/
structure ReadsAs (events : List LifecycleEvent) (snapshot : Option ExchangeOrderSnapshot)
    (exchange : Option (OmsState × ExchangeOrderSnapshot)) : Prop where
  events : ∀ event ∈ events, ∃ status, eventStatus event = .ok status
  snapshot : exchange.map (·.2) = snapshot
  status : ∀ e ∈ exchange, normalizeState e.2.status = .ok e.1

section

variable (order : ReconciliationOrder) (events : List LifecycleEvent)

/-- The snapshot tells more than the events: its status is terminal and above the order's and every
event's, or it has more filled than the first fills of the events, by more than the gap that does
not count. -/
def SnapshotAhead (e : OmsState × ExchangeOrderSnapshot) : Prop :=
  (e.1.isTerminal = true ∧ order.status < e.1 ∧
    ∀ event ∈ events, ∀ status ∈ (eventStatus event).toOption.join, status < e.1) ∨
  firstFillsTotal (queueFills order.orderId events) + minFillGap < e.2.filledQuantity

instance (e : OmsState × ExchangeOrderSnapshot) : Decidable (SnapshotAhead order events e) :=
  inferInstanceAs (Decidable (_ ∧ _ ∧ _ ∨ _))

/-- The total of the first fills of the events and, when it tells more, of the snapshot behind
them. -/
def countedQuantity (exchange : Option (OmsState × ExchangeOrderSnapshot)) : ℚ :=
  match exchange with
  | none => firstFillsTotal (queueFills order.orderId events)
  | some e =>
    firstFillsTotal (queueFills order.orderId events ++
      if SnapshotAhead order events e then e.2.fills.map normalizeFill else [])

end

private theorem firstFillsTotal_nonneg {fills : List ReconciliationFill}
    (h : ∀ fill ∈ fills, 0 ≤ fill.quantity) : 0 ≤ firstFillsTotal fills := by
  apply List.sum_nonneg
  intro quantity hm
  obtain ⟨fill, hfill, rfl⟩ := List.mem_map.mp hm
  exact h fill (mem_of_mem_distinctBy _ hfill)

section

variable {order : ReconciliationOrder} {events : List LifecycleEvent}
  {snapshot : Option ExchangeOrderSnapshot} {reading : Reading}
  (h : read order.orderId events snapshot = .ok reading)
include h

/-- What a call reads has known statuses. -/
theorem readsAs_of_read : ReadsAs events snapshot reading.exchange := by
  obtain ⟨statuses, exchange, hstatuses, hexchange, hnormal, rfl⟩ := read_eq_ok_iff.mp h
  exact ⟨(eventStatuses_eq_ok hstatuses).1, hexchange, hnormal⟩

/-- The status read is the highest one of the events. -/
theorem status_lt_iff_of_read {s : OmsState} (hs : .new < s) : reading.status < s ↔
    ∀ event ∈ events, ∀ status ∈ (eventStatus event).toOption.join, status < s := by
  obtain ⟨statuses, exchange, hstatuses, -, -, rfl⟩ := read_eq_ok_iff.mp h
  rw [pickStatus_lt_iff hs]
  simp only [(eventStatuses_eq_ok hstatuses).2, Option.mem_def, Option.join_eq_some_iff,
    toOption_eq_some_iff]
  exact ⟨fun h event hevent status hstat => h status ⟨event, hevent, hstat⟩,
    fun h status ⟨event, hevent, hstat⟩ => h event hevent status hstat⟩

private theorem fills_of_read : reading.fills = dedupeFills (queueFills order.orderId events) := by
  obtain ⟨statuses, exchange, -, -, -, rfl⟩ := read_eq_ok_iff.mp h
  rfl

/-- The fallback is used when the snapshot tells more. -/
theorem fallsBack_iff_of_read {e : OmsState × ExchangeOrderSnapshot}
    (he : reading.exchange = some e) :
    reading.fallsBack order = true ↔ SnapshotAhead order events e := by
  have hnonneg := queueFills_nonneg order.orderId events
  have htotal := firstFillsTotal_nonneg hnonneg
  have hgap : 0 < minFillGap := by norm_num [minFillGap]
  have hmore : firstFillsTotal (queueFills order.orderId events) + minFillGap <
      max 0 e.2.filledQuantity ↔
        firstFillsTotal (queueFills order.orderId events) + minFillGap < e.2.filledQuantity := by
    rw [lt_max_iff, or_iff_right (by linarith)]
  simp only [Reading.fallsBack, he, Reading.moreFilled, Reading.higherTerminal, Option.any_some,
    Bool.or_eq_true, Bool.and_eq_true, decide_eq_true_eq, max_lt_iff]
  rw [fills_of_read h, filledQuantity_dedupeFills hnonneg, hmore, or_comm]
  exact or_congr_left (and_congr_right fun ht => and_congr_right fun _ =>
    status_lt_iff_of_read h (lt_of_isTerminal rfl ht))

/-- A call counts the first fills of the events, and of a snapshot that tells more. -/
theorem filledQuantity_mergedFills :
    filledQuantity (reading.mergedFills order) = countedQuantity order events reading.exchange := by
  have hnonneg := queueFills_nonneg order.orderId events
  have hfills := fills_of_read h
  rw [Reading.mergedFills]
  cases he : reading.exchange with
  | none =>
    rw [Reading.fallsBack, he, hfills]
    exact filledQuantity_dedupeFills hnonneg
  | some e =>
    have hiff := fallsBack_iff_of_read h he
    by_cases hahead : SnapshotAhead order events e
    · rw [countedQuantity, if_pos (hiff.mpr hahead), if_pos hahead, Option.map_some,
        Option.getD_some, Reading.withSnapshot, hfills, filledQuantity_dedupeFills]
      · rw [firstFillsTotal, dedupeFills, distinctBy_append_left, firstFillsTotal]
      · intro fill hm
        rcases List.mem_append.mp hm with hm | hm
        · exact hnonneg fill (mem_of_mem_distinctBy _ hm)
        · obtain ⟨raw, -, rfl⟩ := List.mem_map.mp hm
          exact le_max_left 0 _
    · rw [countedQuantity, if_neg (mt hiff.mp hahead), if_neg hahead, List.append_nil, hfills]
      exact filledQuantity_dedupeFills hnonneg

end

/-- Known statuses are read. -/
theorem ReadsAs.exists_read {snapshot : Option ExchangeOrderSnapshot}
    {exchange : Option (OmsState × ExchangeOrderSnapshot)} (h : ReadsAs events snapshot exchange)
    (orderId : String) :
    ∃ reading, read orderId events snapshot = .ok reading ∧ reading.exchange = exchange := by
  obtain ⟨statuses, hstatuses⟩ := exists_eventStatuses h.events
  exact ⟨_, read_eq_ok_iff.mpr ⟨statuses, exchange, hstatuses, h.snapshot, h.status, rfl⟩, rfl⟩

/-- What a call settles is decided by what is known of the snapshot, when that decides what every
reading settles. -/
theorem reconcile_forall_iff {order : ReconciliationOrder} {snapshot : Option ExchangeOrderSnapshot}
    {P : FillReconciliationResult → Prop} {Q : Option (OmsState × ExchangeOrderSnapshot) → Prop}
    (h : ∀ reading, read order.orderId events snapshot = .ok reading →
      (P (reading.settle order) ↔ Q reading.exchange)) :
    (∀ r, reconcile order events snapshot = .ok r → P r) ↔
      ∀ exchange, ReadsAs events snapshot exchange → Q exchange := by
  rw [reconcile_eq]
  constructor
  · intro hP exchange hreads
    obtain ⟨reading, hread, rfl⟩ := hreads.exists_read order.orderId
    exact (h reading hread).mp (hP _ (map_eq_ok_iff.mpr ⟨reading, hread, rfl⟩))
  · intro hQ r hr
    obtain ⟨reading, hread, rfl⟩ := map_eq_ok_iff.mp hr
    exact (h reading hread).mpr (hQ _ (readsAs_of_read hread))

/-- An order of two coins. -/
def twoCoinOrder : ReconciliationOrder :=
  { orderId := "o-1", symbol := "BTC/USDT", mode := "REAL", requestedQuantity := 2 }

/-- A fill of one coin of the order. -/
def fillEvent (fillId eventType : String) (price : ℚ) : LifecycleEvent :=
  { eventType, fill := some { fillId, orderId := "o-1", quantity := 1, price } }

/-- Two fills, and the same two delivered the other way around and one of them twice. -/
theorem reconcile_of_redelivered_fills :
    let partly := fillEvent "f-1" "oms.order.partially_filled" 100
    let filled := fillEvent "f-2" "oms.order.filled" 110
    (reconcile twoCoinOrder [filled, partly, filled] none).toOption.map (·.verdict) =
      (reconcile twoCoinOrder [partly, filled] none).toOption.map (·.verdict) := by
  intro partly filled
  apply reconcile_of_same_events
  · intro e
    simp only [List.mem_cons, List.not_mem_nil, or_false]
    tauto
  · simp [FillsAgree, partly, filled, fillEvent]

end OpenTrader.Oms
