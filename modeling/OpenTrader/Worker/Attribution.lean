import OpenTrader.Worker.Step

/-!
# Which order a snapshot is applied to

Library `Worker`. `services/workers/execution_lifecycle.py:418-426,512-542`. A snapshot goes to the
first order that records its exchange order id, else to the first that records its client order
id, else to the only order in its exchange and symbol. The other id is not compared, and the last
stage compares none: a snapshot of an order the worker does not track is taken for one of the order
it does.
-/

namespace OpenTrader.Worker
open Base Oms

/-- An id is recorded, one is given, and they are not the same. -/
def differs (recorded id : Option String) : Bool :=
  truthy recorded && truthy id && strip (recorded.getD "") != strip (id.getD "")

/-- The recorded id is the given one, as `_resolve_order` compares them. -/
def agrees (recorded id : Option String) : Bool :=
  truthy recorded && truthy id && recorded == some (strip (id.getD ""))

namespace LifecycleStatusSnapshot

variable (snapshot : LifecycleStatusSnapshot) (order : TrackedLifecycleOrder)

/-- The order is tracked on the exchange that the snapshot names. -/
def onExchange : Bool :=
  lower (strip snapshot.exchange) != "" && order.exchange == lower (strip snapshot.exchange)

/-- The order is tracked on the exchange and in the symbol of the snapshot. -/
def onMarket : Bool := snapshot.onExchange order && order.symbol == upper (strip snapshot.symbol)

/-- The order records the snapshot's exchange order id. -/
def hasExchangeId : Bool :=
  snapshot.onExchange order && agrees order.exchangeOrderId snapshot.exchangeOrderId

/-- The order records the snapshot's client order id. -/
def hasClientId : Bool :=
  snapshot.onExchange order && agrees order.clientOrderId snapshot.clientOrderId

/-- The order records another id of a kind that the snapshot carries. -/
def Conflicts : Prop :=
  differs order.exchangeOrderId snapshot.exchangeOrderId = true ∨
    differs order.clientOrderId snapshot.clientOrderId = true

end LifecycleStatusSnapshot

open LifecycleStatusSnapshot

/-- A snapshot is applied to no order that records another id, such an order stays as it is and
gets no event, and when it is in the snapshot's market and no order has one of the ids nothing
happens at all. -/
structure RightlyApplied (uuid5 : Uuid5) (clock : Clock) (source : SnapshotSource)
    (orders : TrackedOrders) (snapshot : LifecycleStatusSnapshot) : Prop where
  applied : ∀ key order, resolveOrder orders snapshot = some (key, order) →
    ¬ snapshot.Conflicts order
  untouched : ∀ key order, orders.get? key = some order → snapshot.Conflicts order →
    (applySnapshot uuid5 clock source orders snapshot).1.get? key = some order ∧
      eventFor (applySnapshot uuid5 clock source orders snapshot) key = none
  idle : ∀ key order, orders.get? key = some order → snapshot.onMarket order = true →
    snapshot.Conflicts order →
    (∀ e ∈ orders.entries, ¬ snapshot.hasExchangeId e.2 = true ∧
      ¬ snapshot.hasClientId e.2 = true) →
    applySnapshot uuid5 clock source orders snapshot = (orders, none)

/-- The ids tell the orders apart: the first order with the exchange order id has no other client
order id; without one, the first order with the client order id has no other exchange order id;
without either, the order that is alone in the market has no other id. -/
structure IdsTellApart (orders : TrackedOrders) (snapshot : LifecycleStatusSnapshot) : Prop where
  exchangeId : ∀ e, orders.entries.find? (fun e => snapshot.hasExchangeId e.2) = some e →
    ¬ differs e.2.clientOrderId snapshot.clientOrderId = true
  clientId : (∀ e ∈ orders.entries, ¬ snapshot.hasExchangeId e.2 = true) →
    ∀ e, orders.entries.find? (fun e => snapshot.hasClientId e.2) = some e →
      ¬ differs e.2.exchangeOrderId snapshot.exchangeOrderId = true
  market : (∀ e ∈ orders.entries, ¬ snapshot.hasExchangeId e.2 = true ∧
      ¬ snapshot.hasClientId e.2 = true) →
    ∀ e, orders.entries.filter (fun e => snapshot.onMarket e.2) = [e] → ¬ snapshot.Conflicts e.2

/-! ### The stages of resolution -/

section

variable {orders : TrackedOrders} {snapshot : LifecycleStatusSnapshot}

private theorem findById_eq (exchange : String) (recorded : TrackedLifecycleOrder → Option String)
    (id : Option String) :
    findById orders exchange recorded id =
      orders.entries.find? fun e => e.2.exchange == exchange && agrees (recorded e.2) id := by
  unfold findById
  split
  · next h => simp only [agrees, h, Bool.and_true, Bool.and_assoc]
  · next h =>
    symm
    rw [List.find?_eq_none]
    simp [agrees, h]

variable {e : String × TrackedLifecycleOrder}

private theorem findBySymbol_eq_some_iff {exchange symbol : String} :
    findBySymbol orders exchange symbol = some e ↔
      orders.entries.filter (fun e => e.2.exchange == exchange && e.2.symbol == symbol) = [e] := by
  unfold findBySymbol
  split
  · next hblank =>
    -- no order is tracked without a symbol
    refine iff_of_false (by simp) fun hfilter => ?_
    have hm := List.of_mem_filter (hfilter ▸ List.mem_singleton_self e)
    rw [hblank, Bool.and_eq_true, beq_iff_eq, beq_iff_eq] at hm
    exact e.2.named.2 hm.2
  · split
    · next candidate hfilter => simp [hfilter]
    · next hmany => exact iff_of_false (by simp) fun hfilter => hmany e hfilter

/-- What a snapshot resolves to, stage by stage. -/
theorem resolveOrder_eq_some_iff :
    resolveOrder orders snapshot = some e ↔
      orders.entries.find? (fun e => snapshot.hasExchangeId e.2) = some e ∨
      (∀ e ∈ orders.entries, ¬ snapshot.hasExchangeId e.2 = true) ∧
        orders.entries.find? (fun e => snapshot.hasClientId e.2) = some e ∨
      (∀ e ∈ orders.entries, ¬ snapshot.hasExchangeId e.2 = true ∧
        ¬ snapshot.hasClientId e.2 = true) ∧
        orders.entries.filter (fun e => snapshot.onMarket e.2) = [e] := by
  unfold resolveOrder hasExchangeId hasClientId onMarket onExchange
  by_cases hblank : lower (strip snapshot.exchange) = ""
  · have hn : orders.entries.find? (fun _ => false) = none := List.find?_eq_none.mpr (by simp)
    simp [hblank, hn]
  · have hnamed : (lower (strip snapshot.exchange) != "") = true := by simpa using hblank
    simp only [hblank, if_false, hnamed, Bool.true_and, Option.or_eq_some_iff,
      Option.or_eq_none_iff, findById_eq, findBySymbol_eq_some_iff, List.find?_eq_none, or_assoc,
      ← forall_and]

private theorem not_differs_of_agrees {recorded id : Option String}
    (h : agrees recorded id = true) : ¬ differs recorded id = true := by
  obtain ⟨-, hequal⟩ := Bool.and_eq_true_iff.mp h
  rw [beq_iff_eq] at hequal
  simp [differs, hequal]

private theorem applied_iff :
    (∀ key order, resolveOrder orders snapshot = some (key, order) →
      ¬ snapshot.Conflicts order) ↔ IdsTellApart orders snapshot := by
  constructor
  · intro h
    refine ⟨fun e he hdiffers => ?_, fun hn e he hdiffers => ?_, fun hn e he => ?_⟩
    · exact h e.1 e.2 (resolveOrder_eq_some_iff.mpr (.inl he)) (.inr hdiffers)
    · exact h e.1 e.2 (resolveOrder_eq_some_iff.mpr (.inr (.inl ⟨hn, he⟩))) (.inl hdiffers)
    · exact h e.1 e.2 (resolveOrder_eq_some_iff.mpr (.inr (.inr ⟨hn, he⟩)))
  · intro h key order hresolve
    rcases resolveOrder_eq_some_iff.mp hresolve with he | ⟨hn, he⟩ | ⟨hn, he⟩
    · have hfound := List.find?_some he
      have hagrees := (Bool.and_eq_true_iff.mp hfound).2
      rintro (hdiffers | hdiffers)
      · exact not_differs_of_agrees hagrees hdiffers
      · exact h.exchangeId _ he hdiffers
    · have hfound := List.find?_some he
      have hagrees := (Bool.and_eq_true_iff.mp hfound).2
      rintro (hdiffers | hdiffers)
      · exact h.clientId hn _ he hdiffers
      · exact not_differs_of_agrees hagrees hdiffers
    · exact h.market hn _ he

end

/-- A snapshot is rightly applied exactly when the ids tell the orders apart. -/
theorem rightlyApplied_iff_idsTellApart (uuid5 : Uuid5) (clock : Clock) (source : SnapshotSource)
    (orders : TrackedOrders) (snapshot : LifecycleStatusSnapshot) :
    RightlyApplied uuid5 clock source orders snapshot ↔ IdsTellApart orders snapshot := by
  rw [← applied_iff]
  constructor
  · exact fun h => h.applied
  · intro happlied
    refine ⟨happlied, fun key order hget hconflicts => ?_, fun key order hget hmarket hconflicts
      hnone => ?_⟩
    · have hother : ∀ o, resolveOrder orders snapshot ≠ some (key, o) := by
        intro o hresolve
        have hsame := (get?_of_resolveOrder hresolve).symm.trans hget
        exact happlied key o hresolve (Option.some.inj hsame ▸ hconflicts)
      obtain ⟨hkept, hevent⟩ := applySnapshot_of_ne uuid5 clock source hother
      exact ⟨hkept.trans hget, hevent⟩
    · have hunresolved : resolveOrder orders snapshot = none := by
        rw [Option.eq_none_iff_forall_ne_some]
        intro e hresolve
        rcases resolveOrder_eq_some_iff.mp hresolve with he | ⟨-, he⟩ | ⟨-, he⟩
        · have hfound := List.find?_some he
          exact (hnone e (List.mem_of_find?_eq_some he)).1 hfound
        · have hfound := List.find?_some he
          exact (hnone e (List.mem_of_find?_eq_some he)).2 hfound
        · -- the order is in the market, so it is the one alone there
          have hmem : (key, order) ∈ orders.entries.filter fun e => snapshot.onMarket e.2 :=
            List.mem_filter.mpr ⟨(Dict.get?_eq_some_iff _ _ _).mp hget, hmarket⟩
          rw [he, List.mem_singleton] at hmem
          exact happlied e.1 e.2 hresolve (hmem ▸ hconflicts)
      rw [applySnapshot, hunresolved]

/-- The worker tracks an order whose exchange order id is `X-1`. -/
def trackedX1 : TrackedOrders :=
  (step {} sampleUuid5 Dict.empty (.intent (sampleIntent "BUY" 1 none (some "X-1")) 0)).1

/-- A snapshot of the order `X-2` in the same symbol. -/
def snapshotX2 : LifecycleStatusSnapshot := sampleSnapshot "filled" 1 (some 100) (some "X-2")

/-- The snapshot of the one order is published as a fill of the other. -/
theorem fill_of_another_order_published :
    (trackedX1.get? "k").map (·.exchangeOrderId) = some (some "X-1") ∧
      (eventFor (applySnapshot sampleUuid5 sampleClock .privateStream trackedX1 snapshotX2)
        "k").map fillQuantity = some 1 ∧
      ¬ RightlyApplied sampleUuid5 sampleClock .privateStream trackedX1 snapshotX2 := by
  have hvalues : (trackedX1.get? "k").map (·.exchangeOrderId) = some (some "X-1") ∧
      (eventFor (applySnapshot sampleUuid5 sampleClock .privateStream trackedX1 snapshotX2)
        "k").map fillQuantity = some 1 := by decide +kernel
  obtain ⟨hid, hfill⟩ := hvalues
  refine ⟨hid, hfill, fun hright => ?_⟩
  obtain ⟨order, hget, horder⟩ := Option.map_eq_some_iff.mp hid
  have hconflicts : snapshotX2.Conflicts order := .inl (by rw [horder]; decide +kernel)
  rw [(hright.untouched "k" order hget hconflicts).2] at hfill
  cases hfill

end OpenTrader.Worker
