import OpenTrader.Worker.Step

/-!
# Order ids of the lifecycle events

Library `Worker`. `services/workers/execution_lifecycle.py:348-359,423-426,468,698-703`. The
order id of an event is recomputed from the ids the order has when it is published: the
exchange's, else the client's, else a name-based one. Intents and snapshots go on filling these
ids in.
-/

namespace OpenTrader.Worker
open Base Oms

variable (uuid5 : Uuid5) (a : AuditedWorker)

/-- All events a tracked order has published carry one order id. -/
def OneIdentity : Prop :=
  ∀ key, (a.orders.get? key).isSome →
    ∀ first ∈ a.log key, ∀ second ∈ a.log key, eventOrderId first = eventOrderId second

/-- A snapshot brings an order no id that outranks those it has. -/
def LearnsNoId (order : TrackedLifecycleOrder) (snapshot : LifecycleStatusSnapshot) : Prop :=
  truthy order.exchangeOrderId ∨ (¬ truthy snapshot.exchangeOrderId ∧
    (truthy order.clientOrderId ∨ ¬ truthy snapshot.clientOrderId))

/-- A further intent brings an order no id that replaces the one it goes by. -/
def ReplacesNoId (order intent : TrackedLifecycleOrder) : Prop :=
  (truthy intent.exchangeOrderId → intent.exchangeOrderId = order.exchangeOrderId) ∧
    (truthy intent.clientOrderId → truthy order.exchangeOrderId ∨
      intent.clientOrderId = order.clientOrderId)

/-- Once an order has published an event, no intent or snapshot changes the id it goes by. -/
def StableIds (input : WorkerInput) : Prop :=
  match input with
  | .snapshot snapshot _ _ =>
    ∀ e ∈ resolveOrder a.orders snapshot, 0 < e.2.emittedEvents → LearnsNoId e.2 snapshot
  | .intent envelope _ =>
    ∀ intent ∈ (intentOrder envelope).toOption.join,
      ∀ order ∈ a.orders.get? intent.idempotencyKey, 0 < order.emittedEvents →
        ReplacesNoId order intent
  | .evict _ => True

instance (order : TrackedLifecycleOrder) (snapshot : LifecycleStatusSnapshot) :
    Decidable (LearnsNoId order snapshot) := inferInstanceAs (Decidable (_ ∨ _))

instance (order intent : TrackedLifecycleOrder) : Decidable (ReplacesNoId order intent) :=
  inferInstanceAs (Decidable (_ ∧ _))

instance (a : AuditedWorker) (input : WorkerInput) : Decidable (StableIds a input) :=
  match input with
  | .snapshot snapshot _ _ =>
    inferInstanceAs (Decidable (∀ e ∈ resolveOrder a.orders snapshot, _))
  | .intent envelope _ =>
    inferInstanceAs (Decidable (∀ intent ∈ (intentOrder envelope).toOption.join, _))
  | .evict _ => .isTrue trivial

/-! ### One step -/

variable {order : TrackedLifecycleOrder} {snapshot : LifecycleStatusSnapshot}

private theorem resolveOrderId_absorbIds (h : LearnsNoId order snapshot) :
    resolveOrderId uuid5 (absorbIds order snapshot) = resolveOrderId uuid5 order := by
  unfold resolveOrderId absorbIds
  rcases h with he | ⟨he, hc | hc⟩
  · simp [he]
  · simp [he, hc]
  · simp [he, hc]

private theorem resolveOrderId_amend {intent : TrackedLifecycleOrder}
    (h : ReplacesNoId order intent) :
    resolveOrderId uuid5 (amend order intent) = resolveOrderId uuid5 order := by
  obtain ⟨he, hc⟩ := h
  have hexchange : (amend order intent).exchangeOrderId = order.exchangeOrderId := by
    unfold amend
    dsimp only
    split
    · next ht => exact he ht
    · rfl
  have hclient : truthy order.exchangeOrderId ∨
      (amend order intent).clientOrderId = order.clientOrderId := by
    unfold amend
    dsimp only
    split
    · next ht => exact hc ht
    · exact .inr rfl
  unfold resolveOrderId
  rw [hexchange]
  rcases hclient with ht | hclient
  · rw [if_pos ht, if_pos ht]
  · rw [hclient]
    rfl

/-- What the events of an order say about it: once there are any, they carry its current id. -/
private structure Named (uuid5 : Uuid5) (order : TrackedLifecycleOrder)
    (log : List PublishedEvent) : Prop where
  emitted : log ≠ [] → 0 < order.emittedEvents
  id_eq : ∀ event ∈ log, eventOrderId event = some (resolveOrderId uuid5 order)

private theorem named_reported {uuid5 : Uuid5} (clock : Clock) (source : SnapshotSource)
    {log : List PublishedEvent} (h : Named uuid5 order log)
    (hstable : 0 < order.emittedEvents → LearnsNoId order snapshot) :
    Named uuid5 (applyToOrder uuid5 clock source order snapshot).1
      (log ++ (applyToOrder uuid5 clock source order snapshot).2.toList) := by
  have hid : ∀ event ∈ log, eventOrderId event =
      some (resolveOrderId uuid5 (absorbIds order snapshot)) := by
    intro event hm
    have hpos := h.emitted (List.ne_nil_of_mem hm)
    rw [resolveOrderId_absorbIds uuid5 (hstable hpos), h.id_eq event hm]
  cases he : emission order snapshot with
  | none =>
    rw [applyToOrder_of_none uuid5 clock source he, Option.toList_none, List.append_nil]
    exact ⟨h.emitted, hid⟩
  | some e =>
    rw [applyToOrder_of_some uuid5 clock source he]
    refine ⟨fun _ => Nat.succ_pos _, ?_⟩
    intro event hm
    rcases List.mem_append.mp hm with hm | hm
    · exact hid event hm
    · rw [publish, Option.toList_some, List.mem_singleton] at hm
      rw [hm]
      rfl

private def AllNamed : Prop :=
  ∀ key order, a.orders.get? key = some order → Named uuid5 order (a.log key)

private theorem allNamed_record {config : WorkerConfig} {uuid5 : Uuid5} {a : AuditedWorker}
    {input : WorkerInput} (h : AllNamed uuid5 a) (hstable : StableIds a input) :
    AllNamed uuid5 (record config uuid5 a input) := by
  intro key order' hget'
  obtain ⟨event, hstep, hlog⟩ := record_keyStep hget'
  rw [hlog]
  generalize hold : a.orders.get? key = old at hstep ⊢
  cases hstep with
  | kept => simpa using h key _ hold
  | created => exact ⟨fun hne => absurd rfl hne, by rintro event ⟨⟩⟩
  | amended envelope now order intent _ hi hk hafter =>
    rw [Option.isNone_some, if_neg Bool.false_ne_true, Option.toList_none, List.append_nil]
    obtain ⟨hemitted, hid⟩ := h key order hold
    refine ⟨hafter ▸ hemitted, fun event hm => ?_⟩
    have hpos := hemitted (List.ne_nil_of_mem hm)
    have hint : intent ∈ (intentOrder envelope).toOption.join := by rw [hi]; rfl
    have hkeeps := hstable intent hint order (hk ▸ hold) hpos
    rw [hid event hm, hafter, resolveOrderId_amend uuid5 hkeeps]
  | reported snapshot source clock order _ _ hr happly =>
    have hnamed := named_reported clock source (h key order hold) (hstable _ hr)
    rw [happly] at hnamed
    exact hnamed

/-! ### Runs -/

/-- Along every run in which no order that has published changes the id it goes by, all events
of each tracked order carry one order id. -/
theorem oneIdentity_of_stableIds (config : WorkerConfig) (uuid5 : Uuid5)
    (inputs : List WorkerInput) (h : Along (record config uuid5) StableIds {} inputs) :
    Throughout (record config uuid5) OneIdentity {} inputs := by
  have hstart : AllNamed uuid5 {} := by rintro key order ⟨⟩
  refine (throughout_of_along (fun _ _ => allNamed_record) hstart h).mono ?_
  intro a ha key htracked first hfirst second hsecond
  obtain ⟨order, hget⟩ := Option.isSome_iff_exists.mp htracked
  have hnamed := ha key order hget
  rw [hnamed.id_eq first hfirst, hnamed.id_eq second hsecond]

/-- An order known by its client id, partially filled and then filled. -/
def twoFills (exchangeOrderId : Option String) : List WorkerInput :=
  [.intent (sampleIntent "BUY" 1 (some "c") none) 0,
    .snapshot (sampleSnapshot "partially_filled" (2 / 5) (some 100) none) .privateStream
      sampleClock,
    .snapshot (sampleSnapshot "filled" 1 (some 100) exchangeOrderId) .restFallback laterClock]

/-- When the exchange id is never reported, both fills carry the client id. -/
theorem oneIdentity_client_id : Throughout (record {} sampleUuid5) OneIdentity {} (twoFills none) :=
  oneIdentity_of_stableIds {} sampleUuid5 _ (by decide +kernel)

private theorem not_oneIdentity {a : AuditedWorker} (key : String) {x y : Option String}
    (htracked : (a.orders.get? key).isSome) (hlog : (a.log key).map eventOrderId = [x, y])
    (hne : x ≠ y) : ¬ OneIdentity a := by
  intro h
  obtain ⟨first, rest, hl, hx, hrest⟩ := List.map_eq_cons_iff.mp hlog
  obtain ⟨second, _, hr, hy, -⟩ := List.map_eq_cons_iff.mp hrest
  have hfst : first ∈ a.log key := by rw [hl]; exact List.mem_cons_self
  have hsecond : second ∈ a.log key := by
    rw [hl, hr]
    exact List.mem_cons_of_mem _ List.mem_cons_self
  exact hne (hx ▸ hy ▸ h key htracked first hfst second hsecond)

/-- When the second snapshot brings the exchange id, the fills of one order go by two. -/
theorem fills_of_one_order_under_two_ids :
    let a := run (record {} sampleUuid5) {} (twoFills (some "x"))
    (a.log "k").map eventOrderId = [some "c", some "x"] ∧ ¬ OneIdentity a := by
  intro a
  have hvalues : (a.log "k").map eventOrderId = [some "c", some "x"] ∧
      (a.orders.get? "k").isSome := by decide +kernel
  obtain ⟨hlog, htracked⟩ := hvalues
  exact ⟨hlog, not_oneIdentity "k" htracked hlog (by decide)⟩

end OpenTrader.Worker
