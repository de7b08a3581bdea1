import OpenTrader.Oms.FillLedger
import OpenTrader.Oms.StoredRows

/-!
# The runner on the store beside the one in memory

Library `Oms`. `services/workers/oms_lifecycle.py:101-171` with and without a state store. The
events of an order come back from the store with the UUID of its id, and the order itself with that
UUID from its second update on; the reconciler compares the two,
`services/oms/fill_reconciliation.py:98-106`. In memory it compares the id as the payload spells it
with the id without surrounding white space.
-/

namespace OpenTrader.Oms
open Base

/-! ### The fills of an order -/

section

variable {id : String} {fills : List ReconciliationFill}

private theorem orderId_of_fillId {fill other : ReconciliationFill} (hf : Reported id fill)
    (hother : Reported id other) (h : fill.fillId = other.fillId) :
    fill.orderId = other.orderId := by
  obtain ⟨filledAt, hnamed⟩ := hf.named
  obtain ⟨filledAt', hnamed'⟩ := hother.named
  rw [hnamed, hnamed', String.append_assoc, String.append_assoc, String.append_assoc,
    String.append_assoc, String.append_right_inj] at h
  have hlist := congrArg String.toList h
  simp only [String.toList_append] at hlist
  exact eq_of_strip_eq (c := ':') (by decide) (hf.spelled.trans hother.spelled.symm) hlist

private theorem firstFillsTotal_spells (h : ∀ fill ∈ fills, Reported id fill) :
    firstFillsTotal (fills.filter (spells id)) =
      (((distinctBy (·.fillId) fills).filter (spells id)).map (·.quantity)).sum := by
  rw [firstFillsTotal, distinctBy_filter]
  intro fill hf other hother hk
  rw [spells, spells, orderId_of_fillId (h fill hf) (h other hother) hk]

private theorem sum_filter_lt {p : ReconciliationFill → Bool}
    (hpos : ∀ fill ∈ fills, 0 < fill.quantity) (hout : ∃ fill ∈ fills, ¬ p fill = true) :
    ((fills.filter p).map (·.quantity)).sum < (fills.map (·.quantity)).sum := by
  have hle (rest : List ReconciliationFill) (hrest : ∀ fill ∈ rest, 0 < fill.quantity) :
      ((rest.filter p).map (·.quantity)).sum ≤ (rest.map (·.quantity)).sum := by
    apply List.Sublist.sum_le_sum (List.filter_sublist.map _)
    intro quantity hq
    obtain ⟨fill, hf, rfl⟩ := List.mem_map.mp hq
    exact (hrest fill hf).le
  induction fills with
  | nil =>
    obtain ⟨fill, hf, -⟩ := hout
    cases hf
  | cons fill rest ih =>
    have hfst := hpos fill List.mem_cons_self
    have hrest := fun other hother => hpos other (List.mem_cons_of_mem fill hother)
    by_cases hp : p fill = true
    · obtain ⟨other, hother, hnot⟩ := hout
      have hne : other ∈ rest := by
        rcases List.mem_cons.mp hother with rfl | hother
        · exact absurd hp hnot
        · exact hother
      simp only [List.filter_cons_of_pos hp, List.map_cons, List.sum_cons]
      linarith [ih hrest ⟨other, hne, hnot⟩]
    · simp only [List.filter_cons_of_neg hp, List.map_cons, List.sum_cons]
      linarith [hle rest hrest]

/-- A fill that is spelled with white space around the id is missing from the total of the others.
-/
private theorem firstFillsTotal_spells_lt (h : ∀ fill ∈ fills, Reported id fill)
    (hout : ¬ ∀ fill ∈ fills, fill.orderId = id) :
    firstFillsTotal (fills.filter (spells id)) < firstFillsTotal fills := by
  simp only [not_forall] at hout
  obtain ⟨fill, hf, hspelled⟩ := hout
  obtain ⟨first, hfst, hk⟩ := exists_mem_distinctBy (·.fillId) hf
  have hmem := mem_of_mem_distinctBy _ hfst
  rw [firstFillsTotal_spells h]
  apply sum_filter_lt
  · exact fun other hother => (h other (mem_of_mem_distinctBy _ hother)).positive
  · refine ⟨first, hfst, ?_⟩
    rw [spells, decide_eq_true_eq, orderId_of_fillId (h first hmem) (h fill hf) hk]
    exact hspelled

end

private theorem settledQuantity_eq_iff {own stored all previous : ℚ} {clean known : Prop}
    (hclean : clean → own = all) (hunclean : ¬ clean → own < all)
    (hknown : known → stored = all) (hunknown : ¬ known → stored = 0)
    (hprev : own ≤ epsilon → previous = 0)
    (hnew : ¬ known → previous = 0 ∧ (¬ clean → own = 0)) :
    settledQuantity own previous = settledQuantity stored previous ↔
      (epsilon < all → (clean ↔ known)) := by
  have hpos := epsilon_pos
  have hle : own ≤ all := by
    by_cases h : clean
    · exact (hclean h).le
    · exact (hunclean h).le
  unfold settledQuantity
  by_cases hdust : all ≤ epsilon
  · have hstored : stored ≤ epsilon := by
      by_cases h : known
      · rw [hknown h]
        exact hdust
      · rw [hunknown h]
        exact hpos.le
    rw [if_pos (hle.trans hdust), if_pos hstored]
    exact iff_of_true rfl fun h => absurd h (not_lt.mpr hdust)
  · have hall := not_le.mp hdust
    simp only [hall, true_imp_iff]
    by_cases hk : known
    · simp only [hk, iff_true]
      rw [hknown hk, if_neg hdust]
      by_cases hc : clean
      · rw [hclean hc, if_neg hdust]
        exact iff_of_true rfl hc
      · refine iff_of_false ?_ hc
        split
        · next hown =>
          rw [hprev hown, max_self]
          linarith
        · exact (hunclean hc).ne
    · obtain ⟨hz, hn⟩ := hnew hk
      simp only [hk, iff_false]
      rw [hunknown hk, if_pos hpos.le, hz, max_self]
      by_cases hc : clean
      · rw [hclean hc, if_neg hdust]
        exact iff_of_false (by linarith) (not_not.mpr hc)
      · rw [hn hc, if_pos hpos.le]
        exact iff_of_true rfl hc

/-! ### The two runners side by side -/

/-- Both runners take a delivery. -/
def twinStep (ids : NameIds) (base : ℚ) (s : RunnerState × Tables) (d : Delivery) :
    RunnerState × Tables :=
  (receive base s.1 d, s.2.receive ids base d)

/-- The status and the filled quantity of an order, in memory or in the store. -/
def orderView (order : Option ReconciliationOrder) : Option (OmsState × ℚ) :=
  order.map fun order => (order.status, order.filledQuantity)

/-- The store shows the orders and the quantities of one mode as they are in memory. -/
structure SameLedger (ids : NameIds) (orderIds : Set String) (mode : String)
    (s : RunnerState × Tables) : Prop where
  order : ∀ id ∈ orderIds, orderView (s.2.getOrder ids id) = orderView (s.1.orders.get? id)
  position : ∀ symbol, (s.2.getPosition mode symbol).map (·.quantity) =
    (s.1.positions.get? symbol).map (·.quantity)

/-- An update of one of the orders, in the mode, whose symbol is in upper case. -/
def Delivery.UpdatesIn (orderIds : Set String) (mode : String) (d : Delivery) : Prop :=
  ∀ u, readUpdate d.now d.envelope = .ok (some u) →
    u.orderId ∈ orderIds ∧ u.mode = mode ∧ upper u.symbol = u.symbol

/-- When the fills of the order are no dust, they all spell its id without white space around it,
and the order has a record or its id is a UUID as the store spells it; or neither is the case. -/
def SpelledAlike (ids : NameIds) (s : RunnerState × Tables) (d : Delivery) : Prop :=
  ∀ u, readUpdate d.now d.envelope = .ok (some u) →
    epsilon < firstFillsTotal (reportedFills (eventsForOrder s.1 u)) →
      ((∀ fill ∈ reportedFills (eventsForOrder s.1 u), fill.orderId = u.orderId) ↔
        (s.1.orders.get? u.orderId).isSome ∨ coerceUuid ids u.orderId = u.orderId)

private theorem forall_read_iff {read : Except RunnerError (Option OrderUpdate)}
    {p : OrderUpdate → Prop} :
    (∀ u ∈ read.toOption.join, p u) ↔ ∀ u, read = .ok (some u) → p u := by
  simp only [Option.mem_def, Option.join_eq_some_iff, toOption_eq_some_iff]

instance (ids : NameIds) (s : RunnerState × Tables) (d : Delivery) :
    Decidable (SpelledAlike ids s d) :=
  decidable_of_iff _ forall_read_iff

section

variable {now : String} {fill : PositionFill}

private theorem get?_book (b : PositionBook) (symbol : String) :
    (b.book now fill).get? symbol =
      if fill.symbol = symbol then
        ((applyFill now (b.get? fill.symbol) fill).toOption.map (·.current)).or (b.get? symbol)
      else b.get? symbol := by
  unfold PositionBook.book
  cases happly : b.apply now fill with
  | error e => simp [PositionBook.apply_eq_error happly, Except.toOption]
  | ok b' =>
    obtain ⟨update, hupdate, rfl⟩ := PositionBook.apply_eq_ok happly
    rw [PositionBook.get?_store, hupdate]
    simp [Except.toOption]

end

section

variable {ids : NameIds} {orderIds : Set String} {mode : String} {base : ℚ}
  {s : RunnerState × Tables} {d : Delivery} {u : OrderUpdate}

private def reconcileView (order : Option ReconciliationOrder) : Option (OmsState × ℚ × ℚ) :=
  order.map fun order => (order.status, order.filledQuantity, order.requestedQuantity)

private theorem columns_position (p : PositionState) : p.columns ids = p := by
  rw [PositionState.columns, ids.column_eq]
  rfl

private theorem columns_order (order : ReconciliationOrder) : order.columns ids = order := by
  rw [ReconciliationOrder.columns, ids.column_eq, Option.map_id]
  rfl

/-- The tables hold the orders, the events and the positions of the runner in memory, the events
under the UUID of their order. -/
private structure Matched (ids : NameIds) (orderIds : Set String) (mode : String)
    (s : RunnerState × Tables) : Prop where
  ledger : Ledger s.1
  sound : s.2.Sound ids
  order : ∀ id ∈ orderIds, reconcileView (s.2.getOrder ids id) = reconcileView (s.1.orders.get? id)
  events : ∀ id ∈ orderIds, s.2.lifecycleEvents.filter (·.orderId = coerceUuid ids id) =
    ((s.1.lifecycleEvents.get? id).getD []).map fun event =>
      Tables.eventRow ids (coerceUuid ids id) event.toLifecycleEvent
  position : ∀ symbol, (s.2.getPosition mode symbol).map (·.untimed) =
    (s.1.positions.get? symbol).map (·.untimed)

private theorem Matched.sameLedger (h : Matched ids orderIds mode s) :
    SameLedger ids orderIds mode s := by
  constructor
  · intro id hid
    have hview := congrArg (Option.map fun v : OmsState × ℚ × ℚ => (v.1, v.2.1)) (h.order id hid)
    simpa [reconcileView, orderView, Function.comp_def] using hview
  · intro symbol
    have hq := congrArg (Option.map PositionState.quantity) (h.position symbol)
    simpa [Function.comp_def, PositionState.untimed] using hq

private def stored (key : String) (fill : ReconciliationFill) : ReconciliationFill :=
  { fill with
    orderId := key
    source := if truthy (some fill.source) then fill.source else "runtime_worker" }

private theorem fill_load (key : String) (event : LifecycleEvent) :
    ((Tables.eventRow ids key event).load key).fill = event.fill.map (stored key) := by
  unfold EventRow.load Tables.eventRow
  rw [ids.column_eq]
  cases event.fill with
  | none | some => rfl

private theorem firstFillsTotal_stored (key : String) (fills : List ReconciliationFill) :
    firstFillsTotal (fills.map (stored key)) = firstFillsTotal fills := by
  unfold firstFillsTotal
  rw [distinctBy_map (f := stored key) _ fun _ => rfl, List.map_map]
  rfl

section

variable (h : Matched ids orderIds mode s) (hu : readUpdate d.now d.envelope = .ok (some u))
  (hid : u.orderId ∈ orderIds)
include h hid

private theorem Matched.filter_record (now : String) :
    (s.2.record ids now u).lifecycleEvents.filter (·.orderId = coerceUuid ids u.orderId) =
      (eventsForOrder s.1 u).map fun event =>
        Tables.eventRow ids (coerceUuid ids u.orderId) event.toLifecycleEvent := by
  have hlast : [Tables.eventRow ids (coerceUuid ids u.orderId) u.event.toLifecycleEvent].filter
      (·.orderId = coerceUuid ids u.orderId) =
        [Tables.eventRow ids (coerceUuid ids u.orderId) u.event.toLifecycleEvent] := by
    simp [Tables.eventRow]
  unfold Tables.record Tables.appendLifecycleEvent eventsForOrder
  rw [List.filter_append, h.events u.orderId hid, hlast, List.map_append]
  rfl

private theorem Matched.history_eq (now : String) :
    s.2.history ids now u = (eventsForOrder s.1 u).map fun event =>
      (Tables.eventRow ids (coerceUuid ids u.orderId) event.toLifecycleEvent).load
        (coerceUuid ids u.orderId) := by
  unfold Tables.history Tables.loadLifecycleEvents
  dsimp only
  rw [h.filter_record hid, List.map_map]
  rfl

private theorem Matched.history_statuses (now : String) :
    ((s.2.history ids now u).filterMap fun event => eventStatusMap event.eventType) =
      queueStatuses (eventsForOrder s.1 u) := by
  rw [h.history_eq hid, List.filterMap_map]
  rfl

private theorem Matched.history_fills (now : String) :
    (s.2.history ids now u).filterMap (·.fill) =
      (reportedFills (eventsForOrder s.1 u)).map (stored (coerceUuid ids u.orderId)) := by
  rw [h.history_eq hid, List.filterMap_map, reportedFills, List.map_filterMap]
  exact List.filterMap_congr fun event _ => fill_load _ event.toLifecycleEvent

private theorem Matched.isSome_getOrder :
    (s.2.getOrder ids u.orderId).isSome = (s.1.orders.get? u.orderId).isSome := by
  have hview := congrArg Option.isSome (h.order u.orderId hid)
  simpa [reconcileView] using hview

private theorem Matched.existingOrder_eq :
    (s.2.existingOrder ids u).status = (existingOrder s.1 u).status ∧
      (s.2.existingOrder ids u).filledQuantity = (existingOrder s.1 u).filledQuantity ∧
      (s.2.existingOrder ids u).requestedQuantity = (existingOrder s.1 u).requestedQuantity := by
  have hview := h.order u.orderId hid
  unfold Tables.existingOrder existingOrder
  cases hstore : s.2.getOrder ids u.orderId with
  | none =>
    rw [hstore] at hview
    rw [Option.map_eq_none_iff.mp hview.symm]
    exact ⟨rfl, rfl, rfl⟩
  | some order =>
    rw [hstore] at hview
    obtain ⟨own, hown, heq⟩ := Option.map_eq_some_iff.mp hview.symm
    simp only [Prod.mk.injEq] at heq
    rw [hown]
    exact ⟨heq.1.symm, heq.2.1.symm, heq.2.2.symm⟩

private theorem Matched.orderId_existingOrder_iff :
    (s.2.existingOrder ids u).orderId = coerceUuid ids u.orderId ↔
      (s.1.orders.get? u.orderId).isSome ∨ coerceUuid ids u.orderId = u.orderId := by
  rw [← h.isSome_getOrder hid]
  unfold Tables.existingOrder
  cases hstore : s.2.getOrder ids u.orderId with
  | none => simp [eq_comm]
  | some order =>
    have horderId : order.orderId = coerceUuid ids u.orderId := by
      obtain ⟨row, -, hrow⟩ := Option.bind_eq_some_iff.mp hstore
      obtain ⟨symbol, -, ho⟩ := Option.bind_eq_some_iff.mp hrow
      rw [← Option.some.inj ho]
    simp [horderId]

include hu

private theorem Matched.filledQuantity_history :
    filledQuantity (dedupeFills (queueFills (s.2.existingOrder ids u).orderId
        (s.2.history ids d.now u))) =
      if (s.2.existingOrder ids u).orderId = coerceUuid ids u.orderId then
        firstFillsTotal (reportedFills (eventsForOrder s.1 u))
      else 0 := by
  rw [filledQuantity_dedupeFills (queueFills_nonneg _ _), queueFills, h.history_fills hid]
  have hstored : ∀ fill ∈ (reportedFills (eventsForOrder s.1 u)).map
      (stored (coerceUuid ids u.orderId)),
      fill.orderId = coerceUuid ids u.orderId ∧ normalizeFill fill = fill := by
    intro fill hf
    obtain ⟨own, hown, rfl⟩ := List.mem_map.mp hf
    exact ⟨rfl, normalizeFill_of_pos (h.ledger.reported_eventsForOrder hu own hown).positive⟩
  split
  · next hk =>
    rw [List.filter_eq_self.mpr fun fill hf =>
        decide_eq_true ((hstored fill hf).1.trans hk.symm),
      List.map_congr_left fun fill hf => (hstored fill hf).2, List.map_id',
      firstFillsTotal_stored]
  · next hk =>
    rw [List.filter_eq_nil_iff.mpr fun fill hf heq =>
      hk ((of_decide_eq_true heq).symm.trans (hstored fill hf).1)]
    rfl

private theorem Matched.filledQuantity_eq_iff :
    (s.2.reconciledOrder ids d.now u).filledQuantity = (reconciledOrder s.1 u).filledQuantity ↔
      (epsilon < firstFillsTotal (reportedFills (eventsForOrder s.1 u)) →
        ((∀ fill ∈ reportedFills (eventsForOrder s.1 u), fill.orderId = u.orderId) ↔
          (s.1.orders.get? u.orderId).isSome ∨ coerceUuid ids u.orderId = u.orderId)) := by
  obtain ⟨-, hprev, -⟩ := h.existingOrder_eq hid
  have hknown := h.orderId_existingOrder_iff hid
  have hrep := h.ledger.reported_eventsForOrder hu
  have hstore : (s.2.reconciledOrder ids d.now u).filledQuantity =
      settledQuantity (if (s.2.existingOrder ids u).orderId = coerceUuid ids u.orderId then
          firstFillsTotal (reportedFills (eventsForOrder s.1 u)) else 0)
        (existingOrder s.1 u).filledQuantity := by
    rw [← h.filledQuantity_history hu hid, ← hprev]
    rfl
  rw [hstore, h.ledger.filledQuantity_reconciledOrder hu, eq_comm]
  apply settledQuantity_eq_iff
  · intro hclean
    rw [countedTotal, filter_spells_eq_self hclean]
  · exact firstFillsTotal_spells_lt hrep
  · intro hk
    rw [if_pos (hknown.mpr hk)]
  · intro hk
    rw [if_neg (mt hknown.mp hk)]
  · exact h.ledger.filledQuantity_existingOrder hu
  · intro hk
    have hn := Option.not_isSome_iff_eq_none.mp fun hsome => hk (.inl hsome)
    refine ⟨?_, ?_⟩
    · rw [existingOrder, hn]
      rfl
    · intro hunclean
      have hfills :
          reportedFills (eventsForOrder s.1 u) = u.event.toLifecycleEvent.fill.toList := by
        rw [reportedFills_eventsForOrder, h.ledger.ledgerFills_eq_nil hn, List.nil_append]
      rw [hfills] at hunclean
      rw [countedTotal, hfills]
      cases hf : u.event.toLifecycleEvent.fill with
      | none => rfl
      | some fill =>
        rw [hf] at hunclean
        have hspelled : spells u.orderId fill = false := by simpa [spells] using hunclean
        simp [hspelled, firstFillsTotal]

end

private theorem Matched.status_eq (h : Matched ids orderIds mode s) (hid : u.orderId ∈ orderIds)
    (now : String) (hfilled : (s.2.reconciledOrder ids now u).filledQuantity =
      (reconciledOrder s.1 u).filledQuantity) :
    (s.2.reconciledOrder ids now u).status = (reconciledOrder s.1 u).status := by
  obtain ⟨hstat, -, hreq⟩ := h.existingOrder_eq hid
  change deriveStatus (pickStatus ((s.2.existingOrder ids u).status ::
      (s.2.history ids now u).filterMap fun event => eventStatusMap event.eventType))
    (max 0 (s.2.existingOrder ids u).requestedQuantity)
    (s.2.reconciledOrder ids now u).filledQuantity =
    deriveStatus (pickStatus ((existingOrder s.1 u).status :: queueStatuses (eventsForOrder s.1 u)))
      (max 0 (existingOrder s.1 u).requestedQuantity) (reconciledOrder s.1 u).filledQuantity
  rw [h.history_statuses hid, hstat, hreq, hfilled]

private theorem Matched.position_step (h : Matched ids orderIds mode s)
    (hu : readUpdate d.now d.envelope = .ok (some u)) (hmode : u.mode = mode)
    (hupper : upper u.symbol = u.symbol) (symbol : String) :
    ((twinStep ids base s d).2.getPosition mode symbol).map (·.untimed) =
      ((twinStep ids base s d).1.positions.get? symbol).map (·.untimed) := by
  have hledger : ledgerFill d.now d.envelope = u.positionFill := by
    unfold ledgerFill
    rw [hu]
  unfold twinStep receive
  rw [Tables.getPosition_receive h.sound hu, (runOnce_ledgers ..).1, hledger,
    strip_symbol_of_readUpdate hu, ids.upperCase_eq, hupper, h.position]
  simp only [columns_position]
  unfold Tables.written
  cases hf : u.positionFill with
  | none => simp
  | some fill =>
    obtain ⟨hfillMode, hfillSymbol⟩ : fill.mode = u.mode ∧ fill.symbol = u.symbol := by
      obtain ⟨reported, -, rfl⟩ := Option.map_eq_some_iff.mp hf
      exact ⟨rfl, rfl⟩
    rw [Option.map_some, Option.getD_some, get?_book, Option.bind_some, hfillSymbol, hmode,
      applyFill_untimed (h.position u.symbol)]
    by_cases hsym : u.symbol = symbol
    · subst hsym
      cases happly : applyFill d.now (s.1.positions.get? u.symbol) fill with
      | error e => simp [Except.toOption]
      | ok update =>
        obtain ⟨side, -, -, -, rfl⟩ := (applyFill_eq_ok_iff _ _ _ _).mp happly
        simp [Except.toOption, fillUpdate, hfillSymbol]
    · rw [if_neg fun hboth => hsym hboth.2, if_neg hsym]

private theorem twinStep_of_ne (hne : ∀ u, readUpdate d.now d.envelope ≠ .ok (some u)) :
    twinStep ids base s d = s := by
  unfold twinStep
  rw [Tables.receive_of_ne hne]
  rcases readUpdate_cases base d.now d.envelope with ⟨u, hu⟩ | ⟨-, result, -, hrun⟩
  · exact absurd hu (hne u)
  · rw [receive, hrun]

section

variable (h : Matched ids orderIds mode s) (hinj : Set.InjOn (coerceUuid ids) orderIds)
include h hinj

section

variable (hu : readUpdate d.now d.envelope = .ok (some u)) (hid : u.orderId ∈ orderIds)
  {id : String} (hmem : id ∈ orderIds)
include hu hid hmem

private theorem Matched.orders_step :
    (twinStep ids base s d).1.orders.get? id =
        (if u.orderId = id then some (reconciledOrder s.1 u) else s.1.orders.get? id) ∧
      (twinStep ids base s d).2.getOrder ids id =
        if u.orderId = id then
          some { s.2.reconciledOrder ids d.now u with
            orderId := coerceUuid ids id, symbol := upper (strip u.symbol) }
        else s.2.getOrder ids id := by
  have hk : coerceUuid ids u.orderId = coerceUuid ids id ↔ u.orderId = id :=
    hinj.eq_iff hid hmem
  unfold twinStep receive
  rw [(runOnce_orderLedger base s.1 hu).1, Dict.get?_set, Tables.getOrder_receive h.sound hu]
  simp only [hk, columns_order, ids.upperCase_eq]
  exact ⟨trivial, trivial⟩

private theorem Matched.events_step :
    (twinStep ids base s d).2.lifecycleEvents.filter (·.orderId = coerceUuid ids id) =
      (((twinStep ids base s d).1.lifecycleEvents.get? id).getD []).map fun event =>
        Tables.eventRow ids (coerceUuid ids id) event.toLifecycleEvent := by
  unfold twinStep receive
  rw [(Tables.receive_frame h.sound hu).1, (runOnce_orderLedger base s.1 hu).2, Dict.get?_set]
  by_cases hsame : u.orderId = id
  · subst hsame
    rw [if_pos rfl, h.filter_record hid]
    rfl
  · have hother : coerceUuid ids u.orderId ≠ coerceUuid ids id :=
      fun hk => hsame (hinj hid hmem hk)
    have hlast : [Tables.eventRow ids (coerceUuid ids u.orderId) u.event.toLifecycleEvent].filter
        (·.orderId = coerceUuid ids id) = [] := by
      simp [Tables.eventRow, hother]
    rw [if_neg hsame, ← h.events id hmem]
    unfold Tables.record Tables.appendLifecycleEvent
    rw [List.filter_append, hlast, List.append_nil]

end

variable (hd : d.UpdatesIn orderIds mode)
include hd

private theorem Matched.step
    (hspelled : SpelledAlike ids s d) : Matched ids orderIds mode (twinStep ids base s d) := by
  by_cases hr : ∃ u, readUpdate d.now d.envelope = .ok (some u)
  · obtain ⟨u, hu⟩ := hr
    obtain ⟨hid, hmode, hupper⟩ := hd u hu
    have hfilled := (h.filledQuantity_eq_iff hu hid).mpr (hspelled u hu)
    refine ⟨(h.ledger.receive base d).1, Tables.sound_receive h.sound, ?_,
      fun id hmem => h.events_step hinj hu hid hmem, h.position_step hu hmode hupper⟩
    intro id hmem
    obtain ⟨hown, hstore⟩ :=
      @Matched.orders_step ids orderIds mode base s d u h hinj hu hid id hmem
    rw [hown, hstore]
    split
    · simp only [reconcileView, Option.map_some, hfilled, h.status_eq hid d.now hfilled]
      exact congrArg some (Prod.ext rfl (Prod.ext rfl (h.existingOrder_eq hid).2.2))
    · exact h.order id hmem
  · rw [twinStep_of_ne fun u hu => hr ⟨u, hu⟩]
    exact h

private theorem Matched.sameLedger_step_iff :
    SameLedger ids orderIds mode (twinStep ids base s d) ↔ SpelledAlike ids s d := by
  refine ⟨fun hsame u hu => ?_, fun hspelled => (h.step hinj hd hspelled).sameLedger⟩
  obtain ⟨hid, -, -⟩ := hd u hu
  obtain ⟨hown, hstore⟩ :=
    @Matched.orders_step ids orderIds mode base s d u h hinj hu hid u.orderId hid
  have hview := hsame.order u.orderId hid
  rw [hown, hstore, if_pos rfl, if_pos rfl] at hview
  exact (h.filledQuantity_eq_iff hu hid).mp (Prod.mk.inj (Option.some.inj hview)).2

end

private theorem matched_empty : Matched ids orderIds mode ({}, {}) where
  ledger := ledger_empty
  sound := Tables.sound_empty ids
  order := fun _ _ => rfl
  events := fun _ _ => rfl
  position := fun _ => rfl

end

/-- From empty ledgers, over deliveries of one mode with symbols in upper case and order ids whose
UUIDs differ, the store shows after each step the statuses, filled quantities and positions of the
runner in memory, exactly when every update of an order whose fills are no dust either finds their
ids spelled without white space and a record or a canonical UUID, or finds neither. -/
theorem stored_ledger_refines_iff (ids : NameIds) (base : ℚ) {orderIds : Set String} {mode : String}
    (hinj : Set.InjOn (coerceUuid ids) orderIds) {ds : List Delivery}
    (hds : ∀ d ∈ ds, d.UpdatesIn orderIds mode) :
    Throughout (twinStep ids base) (SameLedger ids orderIds mode) ({}, {}) ds ↔
      Along (twinStep ids base) (SpelledAlike ids) ({}, {}) ds := by
  have hdom : Along (twinStep ids base) (fun _ d => d.UpdatesIn orderIds mode) ({}, {}) ds :=
    along_input_iff.mpr hds
  have hinv : ∀ (s : RunnerState × Tables) (d : Delivery), Matched ids orderIds mode s →
      d.UpdatesIn orderIds mode → SpelledAlike ids s d →
      Matched ids orderIds mode (twinStep ids base s d) :=
    fun s d h hd hspelled => h.step hinj hd hspelled
  exact throughout_iff_along hinv (fun s d h hd _ => h.sameLedger_step_iff hinj hd) hdom
    matched_empty matched_empty.sameLedger

/-- Two fills of an order whose id is a canonical UUID. -/
theorem stored_ledger_refines_canonical :
    Throughout (twinStep bracketedIds 0)
      (SameLedger bracketedIds {"5d0c7b1e-0000-4000-8000-000000000001"} "MOCK") ({}, {})
      [coinFill "5d0c7b1e-0000-4000-8000-000000000001" "2026-03-01T09:00:00Z" "MOCK" "BTC/USDT"
          "BUY",
        coinFill "5d0c7b1e-0000-4000-8000-000000000001" "2026-03-01T09:01:00Z" "MOCK" "BTC/USDT"
          "SELL"] := by
  refine (stored_ledger_refines_iff bracketedIds 0 (Set.injOn_singleton _ _) ?_).mpr ?_
  · rw [List.forall_mem_cons, List.forall_mem_singleton]
    exact ⟨forall_read_iff.mp (by decide +kernel), forall_read_iff.mp (by decide +kernel)⟩
  · decide +kernel

/-- The first fill of an order whose id is no UUID is not counted by the runner on the store. -/
theorem first_fill_lost_in_store :
    let s := twinStep bracketedIds 0 ({}, {})
      (coinFill "order-1" "2026-03-01T09:00:00Z" "MOCK" "BTC/USDT" "BUY")
    orderView (s.1.orders.get? "order-1") = some (.filled, 1) ∧
      orderView (s.2.getOrder bracketedIds "order-1") = some (.filled, 0) := by
  decide +kernel

end OpenTrader.Oms
