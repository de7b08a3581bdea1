import OpenTrader.Worker.Step

/-!
# Terminal orders

Library `Worker`. `services/workers/execution_lifecycle.py:418-510,512-542`. A snapshot also
resolves to orders that are already terminal, until they are evicted. The runs in which a
terminal order stays terminal are exactly those without a late report that revives it.
-/

namespace OpenTrader.Worker
open Base Oms

/-- Event types of the terminal statuses. -/
def isTerminalEvent (event : PublishedEvent) : Bool :=
  event.envelope.eventType.any fun eventType =>
    eventType == "oms.order.filled" || eventType == "oms.order.canceled" ||
      eventType == "oms.order.rejected" || eventType == "oms.order.expired"

section

variable (config : WorkerConfig) (uuid5 : Uuid5)

/-- For the rest of the run, as long as the order under a key is tracked, its status is terminal
and what is published for it is of a terminal type. -/
def TerminalUntilEvicted (key : String) : TrackedOrders → List WorkerInput → Prop
  | _, [] => True
  | orders, input :: inputs =>
    (∀ event ∈ eventFor (step config uuid5 orders input) key, isTerminalEvent event) ∧
      ∀ order ∈ (step config uuid5 orders input).1.get? key,
        order.isTerminal ∧
          TerminalUntilEvicted key (step config uuid5 orders input).1 inputs

/-- At every point of the run, every order that is terminal there stays so. -/
def Absorbing : TrackedOrders → List WorkerInput → Prop
  | _, [] => True
  | orders, input :: inputs =>
    (∀ key, ∀ order ∈ orders.get? key, order.isTerminal →
      TerminalUntilEvicted config uuid5 key orders (input :: inputs)) ∧
      Absorbing (step config uuid5 orders input).1 inputs

end

/-- A late report that an order is open again, or partially filled beyond what was reported. -/
def Revives (order : TrackedLifecycleOrder) (snapshot : LifecycleStatusSnapshot) : Prop :=
  readStatus snapshot.status = some .submitted ∨
    (readStatus snapshot.status = some .partiallyFilled ∧
      order.reportedFilledQuantity < snapshot.filledQuantityTotal)

/-- A snapshot does not revive the terminal order it resolves to. -/
def KeepsTerminal (orders : TrackedOrders) (input : WorkerInput) : Prop :=
  match input with
  | .snapshot snapshot _ _ =>
    ∀ e ∈ resolveOrder orders snapshot, e.2.isTerminal → ¬ Revives e.2 snapshot
  | _ => True

/-! ### One step -/

variable {order : TrackedLifecycleOrder} {snapshot : LifecycleStatusSnapshot}

private theorem isTerminalEvent_publish {uuid5 : Uuid5} {clock : Clock} {source : SnapshotSource}
    {status : LifecycleStatus} {quantity : ℚ} :
    (∀ event ∈ (publish uuid5 clock source order snapshot status quantity).2,
      isTerminalEvent event) ↔ status.isTerminal := by
  simp only [publish, Option.mem_some_iff, forall_eq', isTerminalEvent, lifecycleEnvelope,
    Option.any_some]
  cases status <;> decide +kernel

private theorem applyToOrder_terminal_iff (uuid5 : Uuid5) (clock : Clock) (source : SnapshotSource)
    (ht : order.isTerminal) :
    ((∀ event ∈ (applyToOrder uuid5 clock source order snapshot).2, isTerminalEvent event) ∧
      (applyToOrder uuid5 clock source order snapshot).1.isTerminal) ↔
      ¬ Revives order snapshot := by
  cases he : emission order snapshot with
  | none =>
    rw [applyToOrder_of_none uuid5 clock source he]
    refine iff_of_true ⟨by rintro event ⟨⟩, ht⟩ ?_
    rintro (hs | ⟨hs, hg⟩)
    · rw [emission_other hs rfl] at he
      split at he
      · next h =>
        rw [TrackedLifecycleOrder.isTerminal, ← h.1] at ht
        cases ht
      · cases he
    · rw [emission_grown hs rfl hg] at he
      cases he
  | some e =>
    obtain ⟨status, quantity⟩ := e
    have hs := readStatus_of_emission he
    rw [applyToOrder_of_some uuid5 clock source he, isTerminalEvent_publish]
    have hstat : (publish uuid5 clock source (absorbIds order snapshot) snapshot status
        quantity).1.isTerminal = status.isTerminal := rfl
    rw [hstat, and_self, Revives, hs]
    cases status with
    | partiallyFilled =>
      refine iff_of_false Bool.false_ne_true ?_
      rw [not_not]
      refine .inr ⟨rfl, ?_⟩
      by_contra hstale
      rw [emission_partial_stale hs (not_lt.mp hstale)] at he
      cases he
    | _ => simp [LifecycleStatus.isTerminal]

section

variable (config : WorkerConfig) (uuid5 : Uuid5)

private def StepKeeps (orders : TrackedOrders) (input : WorkerInput) : Prop :=
  ∀ key, ∀ order ∈ orders.get? key, order.isTerminal →
    (∀ event ∈ eventFor (step config uuid5 orders input) key, isTerminalEvent event) ∧
      ∀ after ∈ (step config uuid5 orders input).1.get? key, after.isTerminal

private theorem stepKeeps_iff (orders : TrackedOrders) (input : WorkerInput) :
    StepKeeps config uuid5 orders input ↔ KeepsTerminal orders input := by
  constructor
  · intro h
    cases input with
    | intent | evict => trivial
    | snapshot snapshot source clock =>
      rintro ⟨key, order⟩ hr ht
      obtain ⟨hev, hafter⟩ := h key order (get?_of_resolveOrder hr) ht
      simp only [step, eventFor_applySnapshot uuid5 clock source hr,
        applySnapshot_get? uuid5 clock source hr, Option.mem_some_iff, forall_eq'] at hev hafter
      exact (applyToOrder_terminal_iff uuid5 clock source ht).mp ⟨hev, hafter⟩
  · intro hkeep key order hg ht
    have hk := step_keyStep config uuid5 orders input key
    rw [Option.mem_def.mp hg] at hk
    generalize (step config uuid5 orders input).1.get? key = after at hk ⊢
    generalize eventFor (step config uuid5 orders input) key = event at hk ⊢
    cases hk with
    | kept => exact ⟨by rintro event ⟨⟩, by rintro after ⟨⟩; exact ht⟩
    | evicted => exact ⟨by rintro event ⟨⟩, by rintro after ⟨⟩⟩
    | amended envelope now _ intent after _ _ hafter =>
      refine ⟨by rintro event ⟨⟩, ?_⟩
      rintro _ ⟨⟩
      rw [hafter]
      exact ht
    | reported snapshot source clock _ after event hr happly =>
      have hiff := (applyToOrder_terminal_iff uuid5 clock source ht).mpr (hkeep _ hr ht)
      rw [happly] at hiff
      refine ⟨hiff.1, ?_⟩
      rintro _ ⟨⟩
      exact hiff.2

/-! ### Runs -/

variable {orders : TrackedOrders} {inputs : List WorkerInput}

private theorem terminalUntilEvicted_of_along {key : String}
    (h : Along (trackStep config uuid5) (StepKeeps config uuid5) orders inputs)
    (hg : orders.get? key = some order) (ht : order.isTerminal) :
    TerminalUntilEvicted config uuid5 key orders inputs := by
  induction inputs generalizing orders order with
  | nil => trivial
  | cons input inputs ih =>
    obtain ⟨hev, hafter⟩ := h.1 key order hg ht
    exact ⟨hev, fun after hget' =>
      ⟨hafter after hget', ih h.2 (Option.mem_def.mp hget') (hafter after hget')⟩⟩

private theorem absorbing_of_along
    (h : Along (trackStep config uuid5) (StepKeeps config uuid5) orders inputs) :
    Absorbing config uuid5 orders inputs := by
  induction inputs generalizing orders with
  | nil => trivial
  | cons input inputs ih =>
    exact ⟨fun key order hg ht => terminalUntilEvicted_of_along config uuid5 h hg ht, ih h.2⟩

private theorem along_of_absorbing (h : Absorbing config uuid5 orders inputs) :
    Along (trackStep config uuid5) (StepKeeps config uuid5) orders inputs := by
  induction inputs generalizing orders with
  | nil => trivial
  | cons input inputs ih =>
    refine ⟨fun key order hg ht => ?_, ih h.2⟩
    obtain ⟨hev, hafter⟩ := h.1 key order hg ht
    exact ⟨hev, fun after hget' => (hafter after hget').1⟩

/-- Terminal orders stay terminal along a run exactly when no snapshot of the run revives one. -/
theorem absorbing_iff_keepsTerminal (orders : TrackedOrders) (inputs : List WorkerInput) :
    Absorbing config uuid5 orders inputs ↔
      Along (trackStep config uuid5) KeepsTerminal orders inputs := by
  constructor
  · intro h
    exact (along_of_absorbing config uuid5 h).mono
      fun orders input => (stepKeeps_iff config uuid5 orders input).mp
  · intro h
    exact absorbing_of_along config uuid5
      (h.mono fun orders input => (stepKeeps_iff config uuid5 orders input).mpr)

private theorem absorbing_append {first rest : List WorkerInput}
    (h : Absorbing config uuid5 orders (first ++ rest)) :
    Absorbing config uuid5 (run (trackStep config uuid5) orders first) rest := by
  induction first generalizing orders with
  | nil => exact h
  | cons input first ih => exact ih h.2

private theorem not_absorbing {first : List WorkerInput} {input : WorkerInput} (key : String)
    {before after : LifecycleStatus}
    (hbefore : ((run (trackStep config uuid5) orders first).get? key).map (·.status) = some before)
    (hafter : ((trackStep config uuid5 (run (trackStep config uuid5) orders first) input).get?
      key).map (·.status) = some after)
    (ht : before.isTerminal = true) (ho : after.isTerminal = false) :
    ¬ Absorbing config uuid5 orders (first ++ [input]) := by
  intro h
  obtain ⟨order, hg, hstat⟩ := Option.map_eq_some_iff.mp hbefore
  obtain ⟨order', hget', hstat'⟩ := Option.map_eq_some_iff.mp hafter
  have hterminal : order.isTerminal = true := by rw [TrackedLifecycleOrder.isTerminal, hstat, ht]
  have hkept := (((absorbing_append config uuid5 h).1 key order hg hterminal).2 order' hget').1
  rw [TrackedLifecycleOrder.isTerminal, hstat', ho] at hkept
  exact Bool.false_ne_true hkept

end

/-- An order that is tracked and filled. -/
def filledInputs : List WorkerInput :=
  [.intent (sampleIntent "BUY" 1 none (some "x")) 0,
    .snapshot (sampleSnapshot "filled" 1 (some 100) (some "x")) .privateStream sampleClock]

/-- A late report that the order is open. -/
def lateReport : WorkerInput :=
  .snapshot (sampleSnapshot "open" 1 (some 100) (some "x")) .restFallback laterClock

/-- The late report makes the filled order submitted again. -/
theorem filled_order_is_revived :
    let before := run (trackStep {} sampleUuid5) Dict.empty filledInputs
    (before.get? "k").map (·.status) = some .filled ∧
      ((trackStep {} sampleUuid5 before lateReport).get? "k").map (·.status) = some .submitted ∧
      ¬ Absorbing {} sampleUuid5 Dict.empty (filledInputs ++ [lateReport]) := by
  have hbefore : ((run (trackStep {} sampleUuid5) Dict.empty filledInputs).get? "k").map
      (·.status) = some .filled := by decide +kernel
  have hafter : ((trackStep {} sampleUuid5 (run (trackStep {} sampleUuid5) Dict.empty
      filledInputs) lateReport).get? "k").map (·.status) = some .submitted := by decide +kernel
  exact ⟨hbefore, hafter, not_absorbing {} sampleUuid5 "k" hbefore hafter rfl rfl⟩

end OpenTrader.Worker
