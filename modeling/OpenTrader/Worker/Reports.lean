import OpenTrader.Worker.Feed

/-!
# Fill reports of one order

Library `Worker`. `services/workers/execution_lifecycle.py:418-510`. One tracked order under
the fill reports of its exchange, whose filled totals are cumulative and grow from report to
report. Every such report is published with the growth of the total, except for a first report
without any fill.
-/

namespace OpenTrader.Worker
open Base Oms

/-- A snapshot of one order, with its source and the clock when it is applied. -/
structure Report where
  snapshot : LifecycleStatusSnapshot
  source : SnapshotSource
  clock : Clock

/-- A tracked order with the events it has published and the last snapshot applied to it. -/
structure ReportedOrder where
  order : TrackedLifecycleOrder
  log : List PublishedEvent := []
  last : Option LifecycleStatusSnapshot := none

/-- The filled total the exchange last reported. -/
def ReportedOrder.total (s : ReportedOrder) : ℚ := (s.last.map (·.filledQuantityTotal)).getD 0

/-- One report applied to the order. -/
def report (uuid5 : Uuid5) (s : ReportedOrder) (x : Report) : ReportedOrder :=
  let result := applyToOrder uuid5 x.clock x.source s.order x.snapshot
  { order := result.1, log := s.log ++ result.2.toList, last := some x.snapshot }

/-- A fill report whose filled total exceeds that of the report before it. -/
def IsProgress (s : ReportedOrder) (x : Report) : Prop :=
  (readStatus x.snapshot.status).any (·.isFill) ∧ 0 ≤ x.snapshot.filledQuantityTotal ∧
    ∀ last ∈ s.last, last.filledQuantityTotal < x.snapshot.filledQuantityTotal

instance (s : ReportedOrder) (x : Report) : Decidable (IsProgress s x) :=
  inferInstanceAs (Decidable (_ ∧ _ ∧ _))

/-- The worker has reported what the exchange has, and nothing before the first report. -/
structure InStep (s : ReportedOrder) : Prop where
  reported_eq : s.order.reportedFilledQuantity = s.total
  fresh : s.last = none → IsFresh s.order ∧ s.log = []

/-- A fresh order is in step with its exchange. -/
theorem inStep_of_isFresh {order : TrackedLifecycleOrder} (h : IsFresh order) :
    InStep { order } where
  reported_eq := h.reported_eq
  fresh := fun _ => ⟨h, rfl⟩

section

variable {uuid5 : Uuid5} {s : ReportedOrder} {x : Report}

/-- What a fill report leads to: the growth of the total, or at a first report without any
fill, the whole requested quantity for `filled` and nothing otherwise. -/
inductive ProgressCase (s : ReportedOrder) (x : Report) : Prop where
  | grown (status : LifecycleStatus) : status.isFill →
      readStatus x.snapshot.status = some status → s.total < x.snapshot.filledQuantityTotal →
      emission s.order x.snapshot = some (status, x.snapshot.filledQuantityTotal - s.total) →
      ProgressCase s x
  | whole : s.last = none → readStatus x.snapshot.status = some .filled →
      x.snapshot.filledQuantityTotal = 0 →
      emission s.order x.snapshot = some (.filled, s.order.requestedQuantity) → ProgressCase s x
  | silent : s.last = none → readStatus x.snapshot.status = some .partiallyFilled →
      x.snapshot.filledQuantityTotal = 0 → emission s.order x.snapshot = none → ProgressCase s x

/-- Every fill report that makes progress is one of the three cases. -/
theorem progress_cases (h : InStep s) (hp : IsProgress s x) : ProgressCase s x := by
  obtain ⟨hf, hnonneg, hlast⟩ := hp
  cases hs : readStatus x.snapshot.status with
  | none => simp [hs] at hf
  | some status =>
    rw [hs, Option.any_some] at hf
    rcases lt_or_ge s.total x.snapshot.filledQuantityTotal with hgrown | hstale
    · have he := emission_grown hs hf (h.reported_eq ▸ hgrown)
      rw [h.reported_eq] at he
      exact .grown status hf hs hgrown he
    · -- Only a first report can fail to exceed what was reported before it.
      have hn : s.last = none := by
        cases hl : s.last with
        | none => rfl
        | some last =>
          simp only [ReportedOrder.total, hl, Option.map_some, Option.getD_some] at hstale
          exact absurd (hlast last hl) (not_lt.mpr hstale)
      obtain ⟨hfresh, -⟩ := h.fresh hn
      have hrep : x.snapshot.filledQuantityTotal ≤ s.order.reportedFilledQuantity := by
        rwa [h.reported_eq]
      have hz : x.snapshot.filledQuantityTotal = 0 :=
        le_antisymm (hfresh.reported_eq ▸ hrep) hnonneg
      cases status with
      | filled =>
        have he := emission_filled_stale hs hrep
        rw [hfresh.status_eq, hfresh.reported_eq, if_neg, sub_zero] at he
        · exact .whole hn hs hz he
        · simpa using s.order.requested_pos
      | partiallyFilled => exact .silent hn hs hz (emission_partial_stale hs hrep)
      | submitted | canceled | rejected | expired => cases hf

/-- A report keeps the order in step with its exchange. -/
theorem inStep_report (h : InStep s) (hp : IsProgress s x) : InStep (report uuid5 s x) := by
  refine ⟨?_, nofun⟩
  have htotal : (report uuid5 s x).total = x.snapshot.filledQuantityTotal := rfl
  rw [htotal, report]
  cases progress_cases h hp with
  | grown status _ _ hgrown he =>
    rw [reported_of_emission uuid5 x.clock x.source he, h.reported_eq, max_eq_right hgrown.le]
  | whole hn _ hz he =>
    rw [reported_of_emission uuid5 x.clock x.source he, (h.fresh hn).1.reported_eq, hz,
      max_self]
  | silent hn _ hz he =>
    rw [applyToOrder_of_none uuid5 x.clock x.source he, hz]
    exact (h.fresh hn).1.reported_eq

end

/-- An order of one unit tracked by its exchange id. -/
def sampleOrder : TrackedLifecycleOrder :=
  (intentOrder (sampleIntent "BUY" 1 none (some "x"))).toOption.join.get (by decide +kernel)

/-- The order is the one its intent is tracked as. -/
theorem intentOrder_sampleOrder :
    intentOrder (sampleIntent "BUY" 1 none (some "x")) = .ok (some sampleOrder) := by
  have hsome : (intentOrder (sampleIntent "BUY" 1 none (some "x"))).toOption.join =
      some sampleOrder := Option.some_get _ |>.symm
  cases hi : intentOrder (sampleIntent "BUY" 1 none (some "x")) with
  | error raw => rw [hi] at hsome; cases hsome
  | ok order => rw [hi] at hsome; exact congrArg Except.ok hsome

end OpenTrader.Worker
