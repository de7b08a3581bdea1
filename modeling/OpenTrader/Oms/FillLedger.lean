import OpenTrader.Base.Trace
import OpenTrader.Oms.OrderLedger

/-!
# Filled quantities of the order ledger

Library `Oms`. `services/workers/oms_lifecycle.py:101-144`,
`services/oms/fill_reconciliation.py:87-157,238-250`. Every update rebuilds the order record from
the whole history of its id. The filled quantity it leaves is the total of the first fill of each
fill id, up to a dust total, so neither the order nor the repetition of the events matters. Fills
that spell the id with white space around it are left out.
-/

namespace OpenTrader.Oms
open Base

/-- A delivery whose order id has no surrounding whitespace. -/
structure CleanDelivery extends Delivery where
  stripped : ∀ payload ∈ envelope.payload,
    strip (payload.orderId.getD "") = payload.orderId.getD ""

variable (base : ℚ) (id : String)

/-- The runner after some deliveries, whether it raised on them or not. -/
def ledgerAfter (deliveries : List CleanDelivery) : RunnerState :=
  run (fun s d => (runOnce base d.now s d.envelope).1) {} deliveries

/-- The fill a delivery adds to the history of an order, if any. -/
def orderFill (d : Delivery) : Option ReconciliationFill :=
  match readUpdate d.now d.envelope with
  | .ok (some u) => if u.orderId = id then u.event.toLifecycleEvent.fill else none
  | _ => none

/-- The fills reported for an order, in order of delivery. -/
def orderFills (deliveries : List CleanDelivery) : List ReconciliationFill :=
  deliveries.filterMap fun d => orderFill id d.toDelivery

/-- A total above the dust threshold, zero otherwise. -/
def aboveDust (total : ℚ) : ℚ := if epsilon < total then total else 0

/-- Every stored order has filled the total of its first fills. -/
def CountsFirstFills (deliveries : List CleanDelivery) (s : RunnerState) : Prop :=
  ∀ id, ∀ order ∈ s.orders.get? id,
    order.filledQuantity = aboveDust (firstFillsTotal (orderFills id deliveries))

/-- Every order stored before is stored after, with no less filled. -/
def FillsGrow (before after : RunnerState) : Prop :=
  ∀ id, ∀ order ∈ before.orders.get? id,
    ∃ later ∈ after.orders.get? id, order.filledQuantity ≤ later.filledQuantity

/-! ### Totals grow -/

section

variable {fills : List ReconciliationFill} {fill : ReconciliationFill}

/-- A further fill adds to the total or leaves it. -/
theorem firstFillsTotal_le_concat (h : 0 ≤ fill.quantity) :
    firstFillsTotal fills ≤ firstFillsTotal (fills ++ [fill]) := by
  unfold firstFillsTotal
  rw [distinctBy_concat]
  split
  · exact le_refl _
  · rw [List.map_append, List.sum_append, List.map_singleton, List.sum_singleton]
    exact le_add_of_nonneg_right h

private theorem aboveDust_mono {x y : ℚ} (h : x ≤ y) : aboveDust x ≤ aboveDust y := by
  unfold aboveDust
  split
  · next hx => rwa [if_pos (hx.trans_le h)]
  · split
    · next hy => exact (epsilon_pos.trans hy).le
    · exact le_refl 0

end

/-! ### The fills of an order -/

/-- The fills of a history. -/
def reportedFills (events : List QueueEvent) : List ReconciliationFill :=
  events.filterMap (·.toLifecycleEvent.fill)

/-- A fill the runner reads for an order: it has a size, spells the id in some way, and its own id
begins with that spelling. -/
structure Reported (id : String) (fill : ReconciliationFill) : Prop where
  positive : 0 < fill.quantity
  spelled : strip fill.orderId = id
  named : ∃ filledAt, fill.fillId = "fill:" ++ fill.orderId ++ ":" ++ filledAt

/-- The fill of an update is one of its order, and spells the id as the payload does. -/
theorem reported_of_readUpdate {now : String} {envelope : OrderEnvelope} {u : OrderUpdate}
    (hu : readUpdate now envelope = .ok (some u)) :
    ∀ fill ∈ u.event.toLifecycleEvent.fill, Reported u.orderId fill ∧
      ∃ payload ∈ envelope.payload, fill.orderId = payload.orderId.getD "" := by
  intro fill hf
  obtain ⟨payload, hbody, ⟨hid, -⟩, -, -, hreq, hev, -, -⟩ := readUpdate_eq_some hu
  have hpos : ∀ quantity, payload.quantity.toFloat = .ok quantity → 0 < |quantity| := by
    intro quantity hq
    cases hfield : payload.quantity with
    | absent | null | invalid => rw [hfield] at hreq; cases hreq
    | num value =>
      rw [hfield] at hq hreq
      cases hq
      rw [resolveRequestedQuantity] at hreq
      split at hreq
      · cases hreq
      · next hsize => exact not_le.mp hsize
  unfold toLifecycleEvent at hev
  rw [hbody] at hev
  dsimp only at hev
  split at hev
  · rw [← Except.ok.inj hev] at hf
    cases hf
  · simp only [bind_eq_ok_iff, pure_eq_ok_iff, mapError_eq_ok_iff] at hev
    obtain ⟨quantity, hq, price, -, fee, -, hev⟩ := hev
    rw [← hev] at hf
    cases hf
    refine ⟨⟨?_, hid.symm, _, rfl⟩, payload, hbody, rfl⟩
    change 0 < |(|quantity|)|
    rw [abs_abs]
    exact hpos quantity hq

/-- A fill with a size is its own normal form. -/
theorem normalizeFill_of_pos {fill : ReconciliationFill} (h : 0 < fill.quantity) :
    normalizeFill fill = fill := by
  simp [normalizeFill, abs_of_pos h, max_eq_right h.le]

/-- The fill spells the id of the order without white space around it. -/
def spells (fill : ReconciliationFill) : Bool := fill.orderId = id

/-- All fills are kept when all spell the id. -/
theorem filter_spells_eq_self {id : String} {fills : List ReconciliationFill}
    (h : ∀ fill ∈ fills, fill.orderId = id) : fills.filter (spells id) = fills :=
  List.filter_eq_self.mpr fun fill hf => decide_eq_true (h fill hf)

/-- A total that is no dust, or what was recorded before. -/
def settledQuantity (total previous : ℚ) : ℚ :=
  if total ≤ epsilon then max 0 previous else total

/-- The fills in the history of an order. -/
def ledgerFills (s : RunnerState) : List ReconciliationFill :=
  reportedFills ((s.lifecycleEvents.get? id).getD [])

/-- What the runner in memory keeps: an order without a record has no history, a record stands under
its own id, and it counts the fills that spell the id without white space around it. -/
structure Ledger (s : RunnerState) : Prop where
  unopened : ∀ id, s.orders.get? id = none → s.lifecycleEvents.get? id = none
  named : ∀ id, ∀ order ∈ s.orders.get? id, order.orderId = id
  reported : ∀ id, ∀ fill ∈ ledgerFills id s, Reported id fill
  counts : ∀ id, ∀ order ∈ s.orders.get? id,
    order.filledQuantity = aboveDust (firstFillsTotal ((ledgerFills id s).filter (spells id)))

/-- An order without a record has no fills. -/
theorem Ledger.ledgerFills_eq_nil {id : String} {s : RunnerState} (h : Ledger s)
    (hn : s.orders.get? id = none) : ledgerFills id s = [] := by
  rw [ledgerFills, h.unopened id hn]
  rfl

/-! ### One delivery -/

section

variable {base id} {s : RunnerState} {d : Delivery} {u : OrderUpdate}

/-- The history of an order with the fill of an update. -/
theorem reportedFills_eventsForOrder :
    reportedFills (eventsForOrder s u) =
      ledgerFills u.orderId s ++ u.event.toLifecycleEvent.fill.toList := by
  unfold ledgerFills reportedFills eventsForOrder
  rw [List.filterMap_append, List.filterMap_cons, List.filterMap_nil]
  cases u.event.toLifecycleEvent.fill <;> rfl

/-- The total that an update counts. -/
def countedTotal (s : RunnerState) (u : OrderUpdate) : ℚ :=
  firstFillsTotal ((reportedFills (eventsForOrder s u)).filter (spells u.orderId))

/-- The order of an update is reconciled and the other orders stay as they are. -/
theorem orders_receive (hu : readUpdate d.now d.envelope = .ok (some u)) :
    (receive base s d).orders.get? id =
      if u.orderId = id then some (reconciledOrder s u) else s.orders.get? id := by
  rw [receive, (runOnce_orderLedger base s hu).1, Dict.get?_set]

/-- The history of its order is continued and the others stay as they are. -/
theorem ledgerFills_receive (hu : readUpdate d.now d.envelope = .ok (some u)) :
    ledgerFills id (receive base s d) =
      if u.orderId = id then reportedFills (eventsForOrder s u) else ledgerFills id s := by
  unfold ledgerFills receive
  rw [(runOnce_orderLedger base s hu).2, Dict.get?_set]
  split <;> rfl

private theorem firstFillsTotal_le_countedTotal (hu : readUpdate d.now d.envelope = .ok (some u)) :
    firstFillsTotal ((ledgerFills u.orderId s).filter (spells u.orderId)) ≤ countedTotal s u := by
  rw [countedTotal, reportedFills_eventsForOrder, List.filter_append]
  cases hf : u.event.toLifecycleEvent.fill with
  | none => simp
  | some fill =>
    rw [Option.toList_some, List.filter_singleton]
    cases spells u.orderId fill with
    | false => simp
    | true => exact firstFillsTotal_le_concat (reported_of_readUpdate hu fill hf).1.positive.le

variable (h : Ledger s) (hu : readUpdate d.now d.envelope = .ok (some u))
include h

private theorem Ledger.orderId_existingOrder : (existingOrder s u).orderId = u.orderId := by
  unfold existingOrder
  cases ho : s.orders.get? u.orderId with
  | none => rfl
  | some order => exact h.named u.orderId order ho

include hu

/-- The history with an update has fills of its order. -/
theorem Ledger.reported_eventsForOrder :
    ∀ fill ∈ reportedFills (eventsForOrder s u), Reported u.orderId fill := by
  intro fill hf
  rw [reportedFills_eventsForOrder] at hf
  rcases List.mem_append.mp hf with hf | hf
  · exact h.reported u.orderId fill hf
  · exact (reported_of_readUpdate hu fill (Option.mem_toList.mp hf)).1

private theorem Ledger.filledQuantity_queueFills :
    filledQuantity (dedupeFills (queueFills (existingOrder s u).orderId
        ((eventsForOrder s u).map (·.toLifecycleEvent)))) = countedTotal s u := by
  have hqueue : queueFills (existingOrder s u).orderId
      ((eventsForOrder s u).map (·.toLifecycleEvent)) =
        (reportedFills (eventsForOrder s u)).filter (spells u.orderId) := by
    rw [h.orderId_existingOrder, queueFills, List.filterMap_map]
    change ((reportedFills (eventsForOrder s u)).filter (spells u.orderId)).map normalizeFill = _
    rw [List.map_congr_left fun fill hf => normalizeFill_of_pos
      (h.reported_eventsForOrder hu fill (List.mem_of_mem_filter hf)).positive, List.map_id']
  rw [filledQuantity_dedupeFills (queueFills_nonneg _ _), hqueue, countedTotal]

/-- As long as an update counts dust, nothing was counted before it. -/
theorem Ledger.filledQuantity_existingOrder (hdust : countedTotal s u ≤ epsilon) :
    (existingOrder s u).filledQuantity = 0 := by
  unfold existingOrder
  cases ho : s.orders.get? u.orderId with
  | none => rfl
  | some order =>
    have hbefore := (firstFillsTotal_le_countedTotal hu).trans hdust
    rw [Option.getD_some, h.counts u.orderId order ho, aboveDust, if_neg (not_lt.mpr hbefore)]

/-- The quantity that an update leaves. -/
theorem Ledger.filledQuantity_reconciledOrder :
    (reconciledOrder s u).filledQuantity =
      settledQuantity (countedTotal s u) (existingOrder s u).filledQuantity := by
  rw [← h.filledQuantity_queueFills hu]
  rfl

/-- An update leaves what it counts. -/
theorem Ledger.filledQuantity_eq :
    (reconciledOrder s u).filledQuantity = aboveDust (countedTotal s u) := by
  rw [h.filledQuantity_reconciledOrder hu, settledQuantity, aboveDust]
  split
  · next hdust => rw [if_neg (not_lt.mpr hdust), h.filledQuantity_existingOrder hu hdust, max_self]
  · next hlarge => rw [if_pos (not_le.mp hlarge)]

private theorem Ledger.receive_update : Ledger (receive base s d) := by
  refine ⟨?_, ?_, ?_, ?_⟩
  · intro id hn
    rw [orders_receive hu] at hn
    split at hn
    · cases hn
    · next hne =>
      rw [receive, (runOnce_orderLedger base s hu).2, Dict.get?_set_of_ne _ _ hne]
      exact h.unopened id hn
  · intro id order ho
    rw [orders_receive hu] at ho
    split at ho
    · next hid =>
      cases ho
      exact hid
    · exact h.named id order ho
  · intro id fill hf
    rw [ledgerFills_receive hu] at hf
    split at hf
    · next hid =>
      rw [← hid]
      exact h.reported_eventsForOrder hu fill hf
    · exact h.reported id fill hf
  · intro id order ho
    rw [orders_receive hu] at ho
    rw [ledgerFills_receive hu]
    split at ho
    · next hid =>
      cases ho
      rw [if_pos hid, ← hid, h.filledQuantity_eq hu]
      rfl
    · next hne =>
      rw [if_neg hne]
      exact h.counts id order ho

end

/-- Every delivery keeps the ledger, and takes nothing back. -/
theorem Ledger.receive {s : RunnerState} (h : Ledger s) (d : Delivery) :
    Ledger (Oms.receive base s d) ∧ FillsGrow s (Oms.receive base s d) := by
  rcases readUpdate_cases base d.now d.envelope with ⟨u, hu⟩ | ⟨-, result, -, hrun⟩
  · refine ⟨h.receive_update hu, fun id order ho => ?_⟩
    rw [orders_receive hu]
    split
    · next hid =>
      refine ⟨_, rfl, ?_⟩
      rw [h.counts id order ho, h.filledQuantity_eq hu, ← hid]
      exact aboveDust_mono (firstFillsTotal_le_countedTotal hu)
    · exact ⟨order, ho, le_refl _⟩
  · rw [Oms.receive, hrun]
    exact ⟨h, fun id order ho => ⟨order, ho, le_refl _⟩⟩

/-- The empty ledger. -/
theorem ledger_empty : Ledger {} where
  unopened _ _ := rfl
  named _ _ ho := by cases ho
  reported _ _ hf := by cases hf
  counts _ _ ho := by cases ho

private theorem orderFill_of_read {d : Delivery} {u : OrderUpdate}
    (h : readUpdate d.now d.envelope = .ok (some u)) (id : String) :
    orderFill id d = if u.orderId = id then u.event.toLifecycleEvent.fill else none := by
  simp only [orderFill, h]

private theorem orderFills_concat (deliveries : List CleanDelivery) (d : CleanDelivery) :
    orderFills id (deliveries ++ [d]) =
      orderFills id deliveries ++ (orderFill id d.toDelivery).toList := by
  simp only [orderFills, List.filterMap_append, List.filterMap_cons, List.filterMap_nil]
  cases orderFill id d.toDelivery <;> rfl

/-! ### Whole runs -/

private theorem ledgerAfter_concat (deliveries : List CleanDelivery) (d : CleanDelivery) :
    ledgerAfter base (deliveries ++ [d]) =
      (runOnce base d.now (ledgerAfter base deliveries) d.envelope).1 := by
  simp [ledgerAfter, run]

private theorem ledger_ledgerAfter (deliveries : List CleanDelivery) :
    Ledger (ledgerAfter base deliveries) := by
  have hstep (s : RunnerState) (d : CleanDelivery) (h : Ledger s) :
      Ledger (runOnce base d.now s d.envelope).1 := (h.receive base d.toDelivery).1
  exact (throughout_of_step hstep deliveries ledger_empty).last

private theorem ledgerFills_ledgerAfter (deliveries : List CleanDelivery) :
    ledgerFills id (ledgerAfter base deliveries) = orderFills id deliveries := by
  induction deliveries using List.reverseRecOn with
  | nil => rfl
  | append_singleton deliveries d ih =>
    rw [ledgerAfter_concat, orderFills_concat, ← ih]
    rcases readUpdate_cases base d.now d.envelope with ⟨u, hu⟩ | ⟨hn, result, -, hrun⟩
    · rw [orderFill_of_read hu]
      refine (ledgerFills_receive hu).trans ?_
      split
      · next hid =>
        subst hid
        exact reportedFills_eventsForOrder
      · exact (List.append_nil _).symm
    · have hnone : orderFill id d.toDelivery = none := by
        unfold orderFill
        split
        · next u hu => exact absurd hu (hn u)
        · rfl
      rw [hrun, hnone, Option.toList_none, List.append_nil]

private theorem spelled_orderFills (deliveries : List CleanDelivery) :
    ∀ fill ∈ orderFills id deliveries, fill.orderId = id := by
  intro fill hf
  obtain ⟨d, -, hd⟩ := List.mem_filterMap.mp hf
  unfold orderFill at hd
  split at hd
  · next u hu =>
    split at hd
    · next hid =>
      obtain ⟨hreported, payload, hbody, hraw⟩ := reported_of_readUpdate hu fill hd
      rw [← hid, ← hreported.spelled, hraw, d.stripped payload hbody]
    · cases hd
  · cases hd

private theorem filledQuantity_ledgerAfter {base : ℚ} {deliveries : List CleanDelivery}
    {id : String} {order : ReconciliationOrder}
    (h : (ledgerAfter base deliveries).orders.get? id = some order) :
    order.filledQuantity = aboveDust (firstFillsTotal (orderFills id deliveries)) := by
  rw [(ledger_ledgerAfter base deliveries).counts id order h, ledgerFills_ledgerAfter,
    filter_spells_eq_self (spelled_orderFills id deliveries)]

private theorem orderFills_of_not_stored {base : ℚ} {deliveries : List CleanDelivery} {id : String}
    (h : (ledgerAfter base deliveries).orders.get? id = none) : orderFills id deliveries = [] := by
  rw [← ledgerFills_ledgerAfter base]
  exact (ledger_ledgerAfter base deliveries).ledgerFills_eq_nil h

/-- After every sequence of deliveries, also of ones the runner raised on, an order is stored for
every delivered fill, and each stored order has filled exactly the total of the first fill of each
of its fill ids when that total is no dust, and nothing otherwise; further deliveries never take any
of it back. -/
theorem countsFirstFills_and_fillsGrow (base : ℚ) (deliveries later : List CleanDelivery) :
    CountsFirstFills deliveries (ledgerAfter base deliveries) ∧
      (∀ id, (ledgerAfter base deliveries).orders.get? id = none → orderFills id deliveries = []) ∧
      FillsGrow (ledgerAfter base deliveries) (ledgerAfter base (deliveries ++ later)) := by
  refine ⟨fun _ _ => filledQuantity_ledgerAfter, fun _ => orderFills_of_not_stored, ?_⟩
  induction later using List.reverseRecOn with
  | nil =>
    rw [List.append_nil]
    exact fun id order horder => ⟨order, horder, le_refl _⟩
  | append_singleton later d ih =>
    intro id order horder
    obtain ⟨middle, hmiddle, hle⟩ := ih id order horder
    have hstep := ((ledger_ledgerAfter base (deliveries ++ later)).receive base d.toDelivery).2
    obtain ⟨last, hlast, hle'⟩ := hstep id middle hmiddle
    rw [← List.append_assoc, ledgerAfter_concat]
    exact ⟨last, hlast, hle.trans hle'⟩

end OpenTrader.Oms
