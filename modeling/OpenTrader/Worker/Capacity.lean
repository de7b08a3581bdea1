import OpenTrader.Worker.Step

/-!
# The table of tracked orders

Library `Worker`. `services/workers/execution_lifecycle.py:266,320-385,544-559`. The table is looked
through for terminal orders at the end of every `run_once`, and at once when an intent finds it
full; the intent is dropped if that makes no room. The maximum is ten where less is configured.
-/

namespace OpenTrader.Worker
open Base Oms Execution

/-- The table holds no more than `max_tracked_orders`. -/
def WithinCapacity (config : WorkerConfig) (orders : TrackedOrders) : Prop :=
  (orders.size : Int) ≤ max 10 config.maxTrackedOrders

/-- A step keeps every live order: under its key there still is the order of its decision. -/
def KeepsLiveOrders (config : WorkerConfig) (uuid5 : Uuid5) (orders : TrackedOrders)
    (input : WorkerInput) : Prop :=
  ∀ key order, orders.get? key = some order → order.isTerminal = false →
    ∃ after, (trackStep config uuid5 orders input).get? key = some after ∧
      after.traceId = order.traceId ∧ after.decisionId = order.decisionId

section
variable {config : WorkerConfig} {orders : TrackedOrders}

private theorem withinCapacity_evict (now : ℚ) (force : Bool) (h : WithinCapacity config orders) :
    WithinCapacity config (evictTerminalOrders config now force orders) := by
  have hle : (evictTerminalOrders config now force orders).size ≤ orders.size :=
    orders.size_filter_le _
  exact (Int.ofNat_le.mpr hle).trans h

private theorem withinCapacity_makeRoom (now : ℚ) (h : WithinCapacity config orders) :
    WithinCapacity config (makeRoom config now orders) := by
  unfold makeRoom
  split
  · exact withinCapacity_evict now true h
  · exact h

-- An order that is there already is replaced in place.
private theorem withinCapacity_set_of_some {key : String} {existing : TrackedLifecycleOrder}
    (order : TrackedLifecycleOrder) (hg : orders.get? key = some existing)
    (h : WithinCapacity config orders) : WithinCapacity config (orders.set key order) := by
  rw [WithinCapacity, Dict.size_set, hg, Option.isSome_some, if_pos rfl]
  exact h

-- A new order is entered only where there is room for one more.
private theorem withinCapacity_set_of_room (key : String) (order : TrackedLifecycleOrder)
    (hroom : atCapacity config orders = false) : WithinCapacity config (orders.set key order) := by
  have hlt : (orders.size : Int) < max 10 config.maxTrackedOrders := by
    simpa only [atCapacity, decide_eq_false_iff_not, ge_iff_le, not_le] using hroom
  have hle : (orders.set key order).size ≤ orders.size + 1 := by
    rw [Dict.size_set]
    split_ifs <;> omega
  unfold WithinCapacity
  omega

private theorem withinCapacity_track (now : ℚ) (envelope : IntentEnvelope)
    (h : WithinCapacity config orders) :
    WithinCapacity config (trackExecutionIntent config now orders envelope).1 := by
  unfold trackExecutionIntent
  split
  · exact h
  · exact h
  · next intent _ =>
    split
    · next existing hg => exact withinCapacity_set_of_some _ hg h
    · dsimp only
      split
      · exact withinCapacity_makeRoom now h
      · next hroom => exact withinCapacity_set_of_room _ intent (Bool.not_eq_true _ ▸ hroom)

private theorem withinCapacity_applySnapshot (uuid5 : Uuid5) (clock : Clock)
    (source : SnapshotSource) (snapshot : LifecycleStatusSnapshot)
    (h : WithinCapacity config orders) :
    WithinCapacity config (applySnapshot uuid5 clock source orders snapshot).1 := by
  unfold applySnapshot
  split
  · exact h
  · next hresolved => exact withinCapacity_set_of_some _ (get?_of_resolveOrder hresolved) h

private theorem withinCapacity_trackStep (uuid5 : Uuid5) (input : WorkerInput)
    (h : WithinCapacity config orders) :
    WithinCapacity config (trackStep config uuid5 orders input) := by
  cases input with
  | intent envelope now => exact withinCapacity_track now envelope h
  | snapshot snapshot source clock =>
    exact withinCapacity_applySnapshot uuid5 clock source snapshot h
  | evict now => exact withinCapacity_evict now false h

end

private theorem ids_applyToOrder (uuid5 : Uuid5) (clock : Clock) (source : SnapshotSource)
    (order : TrackedLifecycleOrder) (snapshot : LifecycleStatusSnapshot) :
    (applyToOrder uuid5 clock source order snapshot).1.traceId = order.traceId ∧
      (applyToOrder uuid5 clock source order snapshot).1.decisionId = order.decisionId := by
  unfold applyToOrder
  cases emission order snapshot <;> exact ⟨rfl, rfl⟩

private theorem keepsLiveOrders (config : WorkerConfig) (uuid5 : Uuid5) (orders : TrackedOrders)
    (input : WorkerInput) : KeepsLiveOrders config uuid5 orders input := by
  intro key order hg hlive
  have hk := step_keyStep config uuid5 orders input key
  rw [hg] at hk
  change KeyStep uuid5 orders key input (some order)
    ((trackStep config uuid5 orders input).get? key) _ at hk
  generalize (trackStep config uuid5 orders input).get? key = after at hk ⊢
  generalize eventFor (step config uuid5 orders input) key = event at hk
  cases hk with
  | kept => exact ⟨order, rfl, rfl, rfl⟩
  | evicted _ _ hterminal => rw [hterminal] at hlive; cases hlive
  | amended envelope now _ intent after _ _ hafter =>
    rw [hafter]
    exact ⟨_, rfl, rfl, rfl⟩
  | reported snapshot source clock _ after event _ happly =>
    have hids := ids_applyToOrder uuid5 clock source order snapshot
    rw [happly] at hids
    exact ⟨after, rfl, hids⟩

/-- Whatever intents, snapshots and evictions come in whatever order, the table never holds more
than its maximum, and no step removes an order that is not terminal. -/
theorem tracking_bounded (config : WorkerConfig) (uuid5 : Uuid5) (inputs : List WorkerInput) :
    Throughout (trackStep config uuid5) (WithinCapacity config) Dict.empty inputs ∧
      Along (trackStep config uuid5) (KeepsLiveOrders config uuid5) Dict.empty inputs := by
  constructor
  · have hempty : WithinCapacity config Dict.empty := le_max_of_le_left (by decide)
    exact throughout_of_step (fun _ input h => withinCapacity_trackStep uuid5 input h) inputs hempty
  · exact along_of_forall (keepsLiveOrders config uuid5) Dict.empty inputs

end OpenTrader.Worker
