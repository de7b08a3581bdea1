import OpenTrader.Worker.Step

/-!
# Fill conservation in the lifecycle worker

Library `Worker`. `services/workers/execution_lifecycle.py:448-493`. The high-water mark
`reported_filled_quantity` is advanced by every event, the fills emit only its growth, and a
`filled` report without growth emits the rest of the requested quantity. The runs in which the
fills add up to the high-water mark are exactly those without two kinds of snapshot.
-/

namespace OpenTrader.Worker
open Base Oms

/-- For each tracked order the fills it has emitted sum to its reported filled quantity. -/
def Conserved (a : AuditedWorker) : Prop :=
  ∀ key order, a.orders.get? key = some order →
    ((a.log key).map fillQuantity).sum = order.reportedFilledQuantity

/-- A report other than a fill whose filled total has grown: the growth is marked as reported
and never emitted. -/
def LosesFill (order : TrackedLifecycleOrder) (snapshot : LifecycleStatusSnapshot) : Prop :=
  (readStatus snapshot.status).any (!·.isFill) ∧
    order.reportedFilledQuantity < snapshot.filledQuantityTotal

/-- A `filled` report that is news, of an order with a rest, whose filled total has not grown:
the rest is emitted and not marked as reported. -/
def InventsFill (order : TrackedLifecycleOrder) (snapshot : LifecycleStatusSnapshot) : Prop :=
  readStatus snapshot.status = some .filled ∧
    snapshot.filledQuantityTotal ≤ order.reportedFilledQuantity ∧
    order.reportedFilledQuantity < order.requestedQuantity ∧
    (order.status ≠ .filled ∨ order.reportedFeeTotal < snapshot.feeTotal.getD 0)

instance (order : TrackedLifecycleOrder) (snapshot : LifecycleStatusSnapshot) :
    Decidable (LosesFill order snapshot) := inferInstanceAs (Decidable (_ ∧ _))

instance (order : TrackedLifecycleOrder) (snapshot : LifecycleStatusSnapshot) :
    Decidable (InventsFill order snapshot) := inferInstanceAs (Decidable (_ ∧ _))

/-- A snapshot of a tracked order is neither of the two. -/
def KeepsFills (a : AuditedWorker) (input : WorkerInput) : Prop :=
  match input with
  | .snapshot snapshot _ _ =>
    ∀ e ∈ resolveOrder a.orders snapshot, ¬ LosesFill e.2 snapshot ∧ ¬ InventsFill e.2 snapshot
  | _ => True

instance (a : AuditedWorker) (input : WorkerInput) : Decidable (KeepsFills a input) :=
  match input with
  | .snapshot snapshot _ _ =>
    inferInstanceAs (Decidable (∀ e ∈ resolveOrder a.orders snapshot, _))
  | .intent _ _ => .isTrue trivial
  | .evict _ => .isTrue trivial

/-! ### One snapshot -/

private theorem emission_of_inventsFill {order : TrackedLifecycleOrder}
    {snapshot : LifecycleStatusSnapshot} (h : InventsFill order snapshot) :
    emission order snapshot =
      some (.filled, order.requestedQuantity - order.reportedFilledQuantity) := by
  obtain ⟨hs, hstale, hrest, hnews⟩ := h
  rw [emission_filled_stale hs hstale, if_neg]
  rintro (⟨hsame, hfee⟩ | hdone)
  · rcases hnews with hnews | hnews
    · exact hnews hsame
    · exact absurd hfee (not_le.mpr hnews)
  · exact absurd hdone (not_le.mpr hrest)

variable {status : LifecycleStatus}

/-- A fill report whose total has not grown emits nothing unless it invents a fill. -/
theorem emission_stale {order : TrackedLifecycleOrder} {snapshot : LifecycleStatusSnapshot}
    (hs : readStatus snapshot.status = some status) (hfill : status.isFill)
    (hstale : snapshot.filledQuantityTotal ≤ order.reportedFilledQuantity)
    (h : ¬ InventsFill order snapshot) : emission order snapshot = none := by
  cases status with
  | partiallyFilled => exact emission_partial_stale hs hstale
  | filled =>
    rw [emission_filled_stale hs hstale, ite_eq_left_iff]
    intro hemits
    obtain ⟨hnews, hrest⟩ := not_or.mp hemits
    rw [not_and_or, not_le] at hnews
    exact absurd ⟨hs, hstale, not_le.mp hrest, hnews⟩ h
  | submitted | canceled | rejected | expired => cases hfill

private def fillOf (event : Option PublishedEvent) : ℚ := (event.map fillQuantity).getD 0

section

variable (uuid5 : Uuid5) (clock : Clock) (source : SnapshotSource)
  {order : TrackedLifecycleOrder} {snapshot : LifecycleStatusSnapshot}

private theorem applyToOrder_silent (h : emission order snapshot = none) :
    (applyToOrder uuid5 clock source order snapshot).1.reportedFilledQuantity =
        order.reportedFilledQuantity ∧
      fillOf (applyToOrder uuid5 clock source order snapshot).2 = 0 := by
  rw [applyToOrder_of_none uuid5 clock source h]
  exact ⟨rfl, rfl⟩

private theorem applyToOrder_emits {quantity : ℚ}
    (h : emission order snapshot = some (status, quantity)) :
    (applyToOrder uuid5 clock source order snapshot).1.reportedFilledQuantity =
        max order.reportedFilledQuantity snapshot.filledQuantityTotal ∧
      fillOf (applyToOrder uuid5 clock source order snapshot).2 =
        if status.isFill then quantity else 0 := by
  refine ⟨reported_of_emission uuid5 clock source h, ?_⟩
  rw [applyToOrder_of_some uuid5 clock source h]
  simp only [publish, fillOf, Option.map_some, Option.getD_some, fillQuantity_lifecycleEnvelope]

private def Balanced (order : TrackedLifecycleOrder) (snapshot : LifecycleStatusSnapshot) : Prop :=
  (applyToOrder uuid5 clock source order snapshot).1.reportedFilledQuantity =
    order.reportedFilledQuantity + fillOf (applyToOrder uuid5 clock source order snapshot).2

private theorem balanced_of_silent (h : emission order snapshot = none) :
    Balanced uuid5 clock source order snapshot := by
  obtain ⟨hr, hf⟩ := applyToOrder_silent uuid5 clock source h
  rw [Balanced, hr, hf, add_zero]

private theorem balanced_other_iff (hs : readStatus snapshot.status = some status)
    (hfill : status.isFill = false) :
    Balanced uuid5 clock source order snapshot ↔
      snapshot.filledQuantityTotal ≤ order.reportedFilledQuantity := by
  have he : emission order snapshot = _ := emission_other hs hfill
  split at he
  · next h => exact iff_of_true (balanced_of_silent uuid5 clock source he) h.2.1
  · obtain ⟨hr, hf⟩ := applyToOrder_emits uuid5 clock source he
    rw [Balanced, hr, hf, hfill, if_neg Bool.false_ne_true, add_zero, max_eq_left_iff]

private theorem not_balanced_of_inventsFill (h : InventsFill order snapshot) :
    ¬ Balanced uuid5 clock source order snapshot := by
  obtain ⟨hr, hf⟩ := applyToOrder_emits uuid5 clock source (emission_of_inventsFill h)
  obtain ⟨-, hstale, hrest, -⟩ := h
  rw [Balanced, hr, hf, max_eq_left hstale]
  simp only [LifecycleStatus.isFill, if_true]
  intro heq
  linarith

private theorem balanced_iff :
    Balanced uuid5 clock source order snapshot ↔
      ¬ LosesFill order snapshot ∧ ¬ InventsFill order snapshot := by
  cases hs : readStatus snapshot.status with
  | none =>
    refine iff_of_true (balanced_of_silent uuid5 clock source (emission_unknown hs)) ?_
    simp [LosesFill, InventsFill, hs]
  | some status =>
    cases hfill : status.isFill with
    | false =>
      have hne : status ≠ .filled := by rintro rfl; cases hfill
      rw [balanced_other_iff uuid5 clock source hs hfill]
      simp [LosesFill, InventsFill, hs, hfill, hne]
    | true =>
      have hkeeps : ¬ LosesFill order snapshot := by simp [LosesFill, hs, hfill]
      rw [and_iff_right hkeeps]
      rcases lt_or_ge order.reportedFilledQuantity snapshot.filledQuantityTotal with hg | hstale
      · obtain ⟨hr, hf⟩ := applyToOrder_emits uuid5 clock source (emission_grown hs hfill hg)
        refine iff_of_true ?_ fun hi => absurd hi.2.1 (not_le.mpr hg)
        rw [Balanced, hr, hf, hfill, if_pos rfl, max_eq_right hg.le]
        ring
      · by_cases hi : InventsFill order snapshot
        · exact iff_of_false (not_balanced_of_inventsFill uuid5 clock source hi) (not_not.mpr hi)
        · exact iff_of_true (balanced_of_silent uuid5 clock source
            (emission_stale hs hfill hstale hi)) hi

end

/-! ### Runs -/

private theorem sum_append_event (events : List PublishedEvent) (event : Option PublishedEvent) :
    ((events ++ event.toList).map fillQuantity).sum =
      (events.map fillQuantity).sum + fillOf event := by
  cases event <;> simp [fillOf]

private theorem conserved_record_iff {config : WorkerConfig} {uuid5 : Uuid5} {a : AuditedWorker}
    {input : WorkerInput} (h : Conserved a) :
    Conserved (record config uuid5 a input) ↔ KeepsFills a input := by
  constructor
  · intro h'
    cases input with
    | intent | evict => trivial
    | snapshot snapshot source clock =>
      rintro ⟨key, order⟩ hr
      rw [Option.mem_def] at hr
      obtain ⟨hg, hlog⟩ := record_resolved config uuid5 source clock hr
      have hsum := h' key _ hg
      rw [hlog, sum_append_event, h key order (get?_of_resolveOrder hr)] at hsum
      have hbalanced : Balanced uuid5 clock source order snapshot := hsum.symm
      exact (balanced_iff uuid5 clock source).mp hbalanced
  · intro hkeep key order' hget'
    obtain ⟨event, hstep, hlog⟩ := record_keyStep hget'
    rw [hlog]
    generalize hold : a.orders.get? key = old at hstep ⊢
    cases hstep with
    | kept => simpa using h key _ hold
    | created _ _ _ hi => exact (isFresh_of_intentOrder hi).reported_eq.symm
    | amended _ _ order _ _ _ _ hafter => simpa [hafter, amend] using h key order hold
    | reported snapshot source clock order _ _ hr happly =>
      have hbalanced := (balanced_iff uuid5 clock source).mpr (hkeep _ hr)
      rw [Balanced, happly] at hbalanced
      rw [Option.isNone_some, if_neg Bool.false_ne_true, sum_append_event, h key order hold,
        ← hbalanced]

/-- The fills of every tracked order sum to its reported filled quantity throughout a run
exactly when no snapshot of the run loses or invents a fill. -/
theorem conserved_iff_keepsFills (config : WorkerConfig) (uuid5 : Uuid5)
    (inputs : List WorkerInput) :
    Throughout (record config uuid5) Conserved {} inputs ↔
      Along (record config uuid5) KeepsFills {} inputs :=
  throughout_iff_along_of_step (fun _ _ h => conserved_record_iff h) inputs
    (by rintro key order ⟨⟩)

private theorem not_conserved {a : AuditedWorker} {key : String} {reported : ℚ}
    (hg : (a.orders.get? key).map (·.reportedFilledQuantity) = some reported)
    (hsum : ((a.log key).map fillQuantity).sum ≠ reported) : ¬ Conserved a := by
  intro h
  obtain ⟨order, ho, hr⟩ := Option.map_eq_some_iff.mp hg
  exact hsum ((h key order ho).trans hr)

/-- An order of one unit that is canceled with 2/5 filled. -/
def canceledRun : AuditedWorker :=
  run (record {} sampleUuid5) {}
    [.intent (sampleIntent "BUY" 1 none (some "x")) 0,
      .snapshot (sampleSnapshot "canceled" (2 / 5) none (some "x")) .privateStream sampleClock]

/-- The 2/5 are marked as reported and no fill is emitted. -/
theorem canceled_partial_fill_is_dropped :
    (canceledRun.orders.get? "k").map (·.reportedFilledQuantity) = some (2 / 5) ∧
      ((canceledRun.log "k").map fillQuantity).sum = 0 ∧ ¬ Conserved canceledRun := by
  have hget : (canceledRun.orders.get? "k").map (·.reportedFilledQuantity) = some (2 / 5) := by
    decide +kernel
  have hsum : ((canceledRun.log "k").map fillQuantity).sum = 0 := by decide +kernel
  exact ⟨hget, hsum, not_conserved hget (by rw [hsum]; norm_num)⟩

end OpenTrader.Worker
