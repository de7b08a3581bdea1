import Mathlib.Algebra.Order.Ring.Rat
import Mathlib.Data.List.Sort
import OpenTrader.Base.Dict
import OpenTrader.Base.Trace

/-!
# Daily portfolio rollup

Library `Tasks`. `services/tasks/workloads.py:18-128`, from the open connection on. The task sums up
the snapshots of a day and stores the result as a further snapshot, at the midnight the day starts
with, so that it is among the snapshots of the next run. Times are microseconds; rows of one time
come in the order of the table.
-/

namespace OpenTrader.Tasks
open Base

/-! ### The task -/

/-- A row of `portfolio_snapshots`. -/
structure SnapshotRow where
  mode : Option String
  strategyId : Option String
  equityUsd : Option ℚ
  realizedPnl : Option ℚ
  unrealizedPnl : Option ℚ
  totalExposureUsd : Option ℚ
  createdAt : ℤ
  deriving DecidableEq

/-- What the task reads of a row. -/
structure Snapshot where
  equityUsd : ℚ
  realizedPnl : ℚ
  unrealizedPnl : ℚ
  totalExposure : ℚ
  deriving DecidableEq

/-- An entry of `summaries`. -/
structure DailySummary where
  date : ℤ
  mode : String
  strategyId : String
  openingEquityUsd : ℚ
  closingEquityUsd : ℚ
  maxEquityUsd : ℚ
  minEquityUsd : ℚ
  realizedPnlUsd : ℚ
  unrealizedPnlUsd : ℚ
  snapshotCount : ℕ
  deriving DecidableEq

/-- The mode and strategy of a row; `workloads.py:63`. -/
def SnapshotRow.key (row : SnapshotRow) : String × String :=
  let strategyId := row.strategyId.getD ""
  (row.mode.getD "None", if strategyId = "" then "default" else strategyId)

/-- The numbers of a row; a missing one counts as zero; `workloads.py:64-72`. -/
def SnapshotRow.snapshot (row : SnapshotRow) : Snapshot where
  equityUsd := row.equityUsd.getD 0
  realizedPnl := row.realizedPnl.getD 0
  unrealizedPnl := row.unrealizedPnl.getD 0
  totalExposure := row.totalExposureUsd.getD 0

/-- The groups of the snapshots so far. -/
abbrev Groups := Dict (String × String) (List Snapshot)

/-- A row joins its group. -/
def addRow (groups : Groups) (row : SnapshotRow) : Groups :=
  groups.set row.key ((groups.get? row.key).getD [] ++ [row.snapshot])

/-- The rows of the day, by time; `workloads.py:40-52`. -/
def dayRows (today : ℤ) (table : List SnapshotRow) : List SnapshotRow :=
  (table.filter (today ≤ ·.createdAt)).insertionSort (·.createdAt ≤ ·.createdAt)

/-- The snapshots of the day by mode and strategy; `workloads.py:60-72`. -/
def rollupGroups (today : ℤ) (table : List SnapshotRow) : Groups :=
  (dayRows today table).foldl addRow Dict.empty

/-- The last snapshot of a group; a group has at least one. -/
def lastSnapshot (snapshots : List Snapshot) : Snapshot := snapshots.getLast?.getD ⟨0, 0, 0, 0⟩

/-- The summary of a group; `workloads.py:76-94`. -/
def summary (today : ℤ) (group : (String × String) × List Snapshot) : DailySummary :=
  let equities := group.2.map (·.equityUsd)
  let last := lastSnapshot group.2
  { date := today
    mode := group.1.1
    strategyId := group.1.2
    openingEquityUsd := equities.head?.getD 0
    closingEquityUsd := last.equityUsd
    maxEquityUsd := equities.max?.getD 0
    minEquityUsd := equities.min?.getD 0
    realizedPnlUsd := last.realizedPnl
    unrealizedPnlUsd := last.unrealizedPnl
    snapshotCount := group.2.length }

/-- The row that is stored for a group; `workloads.py:99-114`. -/
def rollupRow (today : ℤ) (group : (String × String) × List Snapshot) : SnapshotRow :=
  let last := lastSnapshot group.2
  { mode := some group.1.1
    strategyId := some group.1.2
    equityUsd := some last.equityUsd
    realizedPnl := some last.realizedPnl
    unrealizedPnl := some last.unrealizedPnl
    totalExposureUsd := some last.totalExposure
    createdAt := today }

section

variable (accepts : List SnapshotRow → SnapshotRow → Bool) (today : ℤ)

/-- The row of a group is inserted, or the database refuses it and the insert is rolled back;
`workloads.py:97-117`. -/
def storeRollup (table : List SnapshotRow) (group : (String × String) × List Snapshot) :
    List SnapshotRow :=
  let row := rollupRow today group
  if accepts table row then table ++ [row] else table

/-- `daily_portfolio_rollup`: the summaries it returns and the table it leaves;
`workloads.py:18-128`. -/
def dailyPortfolioRollup (table : List SnapshotRow) : List DailySummary × List SnapshotRow :=
  let groups := (rollupGroups today table).entries
  (groups.map (summary today), run (storeRollup accepts today) table groups)

/-- What run `n + 1` of the task returns, with nothing else writing to the table. -/
def rollupRun (table : List SnapshotRow) (n : ℕ) : List DailySummary :=
  (dailyPortfolioRollup accepts today
    ((fun table => (dailyPortfolioRollup accepts today table).2)^[n] table)).1

end

/-- Mode and strategy with the opening, closing, largest and smallest equity and the count. -/
def DailySummary.figures (s : DailySummary) : (String × String) × (ℚ × ℚ × ℚ × ℚ) × ℕ :=
  ((s.mode, s.strategyId),
    (s.openingEquityUsd, s.closingEquityUsd, s.maxEquityUsd, s.minEquityUsd), s.snapshotCount)

/-! ### What a run adds to the day -/

section

variable {accepts : List SnapshotRow → SnapshotRow → Bool} {today : ℤ}

private def total (groups : Groups) : ℤ :=
  (groups.entries.map fun group => (group.2.length : ℤ)).sum

private def dayCount (today : ℤ) (table : List SnapshotRow) : ℕ :=
  (table.filter (today ≤ ·.createdAt)).length

private theorem total_addRow (groups : Groups) (row : SnapshotRow) :
    total (addRow groups row) = total groups + 1 := by
  have hset := groups.sum_set row.key ((groups.get? row.key).getD [] ++ [row.snapshot])
    (f := fun _ snapshots => (snapshots.length : ℤ)) (fun _ _ _ => rfl)
  rw [total, addRow, hset, total]
  cases groups.get? row.key with
  | none => simp
  | some snapshots =>
    simp only [Option.getD_some, Option.map_some, List.length_append, List.length_singleton]
    omega

private theorem total_rollupGroups (today : ℤ) (table : List SnapshotRow) :
    total (rollupGroups today table) = dayCount today table := by
  have hfold (rows : List SnapshotRow) (groups : Groups) :
      total (rows.foldl addRow groups) = total groups + rows.length := by
    induction rows generalizing groups with
    | nil => simp
    | cons row rows ih =>
      rw [List.foldl_cons, ih, total_addRow, List.length_cons]
      omega
  rw [rollupGroups, hfold, dayRows, List.length_insertionSort]
  exact zero_add _

private theorem dayCount_storeRollup (table : List SnapshotRow)
    (group : (String × String) × List Snapshot) :
    dayCount today (storeRollup accepts today table group) =
      dayCount today table + if accepts table (rollupRow today group) then 1 else 0 := by
  unfold storeRollup dayCount
  dsimp only
  split
  · simp [rollupRow]
  · rfl

private theorem run_storeRollup_of_refused {table : List SnapshotRow}
    {groups : List ((String × String) × List Snapshot)}
    (h : Along (storeRollup accepts today)
      (fun table group => accepts table (rollupRow today group) = false) table groups) :
    run (storeRollup accepts today) table groups = table := by
  induction groups with
  | nil => rfl
  | cons group groups ih =>
    have hkept : storeRollup accepts today table group = table := by simp [storeRollup, h.1]
    rw [run_cons, hkept]
    refine ih ?_
    have hrest := h.2
    rwa [hkept] at hrest

/-- **Rollup.** Every run of the task on a day returns the same figures for each mode and strategy
exactly when the database refuses every row that the first run inserts: when there is no snapshot of
the day, there is nothing to insert. -/
theorem rollup_idempotent_iff (accepts : List SnapshotRow → SnapshotRow → Bool) (today : ℤ)
    (table : List SnapshotRow) :
    (∀ n, ((rollupRun accepts today table n).map DailySummary.figures).Perm
      ((rollupRun accepts today table 0).map DailySummary.figures)) ↔
      Along (storeRollup accepts today)
        (fun table group => accepts table (rollupRow today group) = false) table
        (rollupGroups today table).entries := by
  constructor
  · intro h
    -- the counts of the second run add up to the rows of the day that the first one leaves
    have hcounts := ((h 1).map fun figures => (figures.2.2 : ℤ)).sum_eq
    have htotal (table : List SnapshotRow) :
        (((dailyPortfolioRollup accepts today table).1.map DailySummary.figures).map
          fun figures => (figures.2.2 : ℤ)).sum = dayCount today table := by
      rw [← total_rollupGroups, dailyPortfolioRollup, List.map_map, List.map_map]
      rfl
    rw [rollupRun, rollupRun, htotal, htotal, Nat.cast_inj] at hcounts
    have hle (table : List SnapshotRow) (group : (String × String) × List Snapshot) (_ : True) :
        dayCount today table ≤ dayCount today (storeRollup accepts today table group) := by
      rw [dayCount_storeRollup]
      exact Nat.le_add_right _ _
    refine (run_eq_iff_along (fun _ _ _ => trivial) hle ?_ _ trivial).mp hcounts
    intro table group _
    rw [dayCount_storeRollup]
    cases accepts table (rollupRow today group) <;> simp
  · intro h n
    have hkept : (dailyPortfolioRollup accepts today table).2 = table :=
      run_storeRollup_of_refused h
    have hsame := Function.iterate_fixed
      (f := fun table => (dailyPortfolioRollup accepts today table).2) hkept n
    rw [rollupRun, rollupRun, hsame, Function.iterate_zero_apply]

/-- Two snapshots of a day, an equity of 100 and one of 110. -/
def twoSnapshots : List SnapshotRow :=
  [⟨some "MOCK", some "s-1", some 100, none, none, none, 3600000000⟩,
    ⟨some "MOCK", some "s-1", some 110, none, none, none, 7200000000⟩]

/-- The second run starts from the row of the first one: it opens at 110 and counts three. -/
theorem second_rollup_differs :
    (rollupRun (fun _ _ => true) 0 twoSnapshots 0).map DailySummary.figures =
        [(("MOCK", "s-1"), (100, 110, 110, 100), 2)] ∧
      (rollupRun (fun _ _ => true) 0 twoSnapshots 1).map DailySummary.figures =
        [(("MOCK", "s-1"), (110, 110, 110, 100), 3)] := by
  exact ⟨by decide +kernel, by decide +kernel⟩

end

end OpenTrader.Tasks
