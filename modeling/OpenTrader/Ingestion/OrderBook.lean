import Mathlib.Data.List.ReduceOption
import OpenTrader.Agent.Context
import OpenTrader.Base.Dict
import OpenTrader.Base.Fallible
import OpenTrader.Base.Writes

/-!
# Order-book synchronization

Library `Ingestion`. The levels and snapshots of `services/market_ingestion/contracts.py:7-54` and
the engine of `services/market_ingestion/order_book_sync.py:18-88`. Prices and amounts are exact.
The engine threads its state through every call, so that a call that raises shows what it leaves.
-/

namespace OpenTrader.Ingestion
open Base Market Agent

/-! ### Levels -/

/-- `OrderBookSnapshot`. -/
structure OrderBookSnapshot where
  exchange : String
  symbol : String
  sequence : Option ℤ
  timestampMs : Option ℤ
  bids : List OrderBookLevel
  asks : List OrderBookLevel

/-- `float(value)`; an entry of a row is a number or what `float` refuses. -/
def readFloat : NumField → Except NumField ℚ
  | .num value => .ok value
  | entry => .error entry

variable (allowZero : Bool) (levels : List OrderBookLevel)

/-- The amounts `parse_levels` skips. -/
def skipped (amount : ℚ) : Bool := amount < 0 || (amount == 0 && !allowZero)

/-- One row of `parse_levels`; a short row and one whose amount is skipped give no level. -/
def parseRow : List NumField → Except NumField (Option OrderBookLevel)
  | price :: amount :: _ => do
    let price ← readFloat price
    let amount ← readFloat amount
    return if skipped allowZero amount then none else some ⟨price, amount⟩
  | _ => .ok none

/-- The order of the levels of a side, best price first. -/
def levelOrder (side : BookSide) (a b : OrderBookLevel) : Prop :=
  side.better b.price a.price = false

instance (side : BookSide) : DecidableRel (levelOrder side) :=
  fun _ _ => inferInstanceAs (Decidable (_ = _))

/-- `parse_levels`; `contracts.py:34-54`. The sort is stable on both sides. -/
def parseLevels (side : BookSide) (allowZero : Bool) (levels : List (List NumField)) :
    Except NumField (List OrderBookLevel) := do
  let normalized ← levels.mapM (parseRow allowZero)
  return normalized.reduceOption.insertionSort (levelOrder side)

instance (side : BookSide) : IsTrans OrderBookLevel (levelOrder side) where
  trans a b c hab hbc := by
    cases side <;> simp only [levelOrder, BookSide.better, decide_eq_false_iff_not, not_lt] at *
    · exact hbc.trans hab
    · exact hab.trans hbc

instance (side : BookSide) : Std.Total (levelOrder side) where
  total a b := by
    cases side <;> simp only [levelOrder, BookSide.better, decide_eq_false_iff_not, not_lt]
    · exact le_total _ _
    · exact le_total _ _

variable (book : Dict ℚ ℚ) (updates : List OrderBookLevel) (level : OrderBookLevel)

/-- A level as the exchange sends it. -/
def levelRow : List NumField :=
  [.num level.price, .num level.amount]

private theorem mapM_parseRow :
    (levels.map levelRow).mapM (parseRow allowZero) =
      .ok (levels.map fun l => if skipped allowZero l.amount then none else some l) := by
  induction levels with
  | nil => rfl
  | cons level levels ih =>
    rw [List.map_cons, List.mapM_cons, ih]
    rfl

private theorem reduceOption_usable :
    (levels.map fun level =>
        if skipped allowZero level.amount then none else some level).reduceOption =
      levels.filter fun level => !skipped allowZero level.amount := by
  induction levels with
  | nil => rfl
  | cons level levels ih =>
    rw [List.map_cons, List.filter_cons]
    cases skipped allowZero level.amount with
    | true =>
      simp only [if_true, Bool.not_true, Bool.false_eq_true, if_false]
      rw [List.reduceOption_cons_of_none, ih]
    | false =>
      simp only [Bool.false_eq_true, if_false, Bool.not_false, if_true]
      rw [List.reduceOption_cons_of_some, ih]

/-- Rows of numbers always parse: the levels that are not skipped are sorted. -/
theorem parseLevels_rows (side : BookSide) (allowZero : Bool) (levels : List OrderBookLevel) :
    parseLevels side allowZero (levels.map levelRow) =
      .ok ((levels.filter fun level => !skipped allowZero level.amount).insertionSort
        (levelOrder side)) := by
  rw [parseLevels, mapM_parseRow]
  change Except.ok _ = _
  rw [reduceOption_usable]

/-! ### The engine -/

/-- What the engine raises. -/
inductive OrderBookSyncError where
  | notInitialized
  | sequenceGap (expected received : ℤ)
  | scope
  deriving DecidableEq

/-- Message text of a synchronization error. -/
def OrderBookSyncError.message : OrderBookSyncError → String
  | .notInitialized => "Call load_snapshot before apply_delta"
  | .sequenceGap expected received =>
    "Expected sequence " ++ toString expected ++ " but received " ++ toString received
  | .scope => "Delta/snapshot scope does not match engine scope"

/-- `OrderBookSyncEngine`. -/
structure OrderBookSyncEngine where
  exchange : String
  symbol : String
  sequence : Option ℤ := none
  bids : Dict ℚ ℚ := Dict.empty
  asks : Dict ℚ ℚ := Dict.empty
  initialized : Bool := false

/-- The dictionary of the levels with an amount; a later level of a price replaces an earlier one.
-/
def levelDict : Dict ℚ ℚ :=
  (levels.filter (0 < ·.amount)).foldl (fun book level => book.set level.price level.amount)
    Dict.empty

/-- `_apply_side_updates`; `order_book_sync.py:82-88`. -/
def applySideUpdates : Dict ℚ ℚ :=
  updates.foldl (fun book level =>
    if level.amount ≤ 0 then book.erase level.price else book.set level.price level.amount) book

namespace OrderBookSyncEngine

variable (e : OrderBookSyncEngine)

/-- A side of the book. -/
def side : BookSide → Dict ℚ ℚ
  | .bid => e.bids
  | .ask => e.asks

/-- `_validate_scope`; `order_book_sync.py:78-80`. -/
def validateScope (exchange symbol : String) : Except OrderBookSyncError Unit :=
  if exchange ≠ e.exchange ∨ symbol ≠ e.symbol then .error .scope else .ok ()

/-- `load_snapshot`; `order_book_sync.py:35-40`. -/
def loadSnapshot (snapshot : OrderBookSnapshot) :
    OrderBookSyncEngine × Except OrderBookSyncError Unit :=
  match e.validateScope snapshot.exchange snapshot.symbol with
  | .error error => (e, .error error)
  | .ok () =>
    ({ e with
        bids := levelDict snapshot.bids
        asks := levelDict snapshot.asks
        sequence := snapshot.sequence
        initialized := true }, .ok ())

/-- The end of `apply_delta`: the sequence is set and the updates of both sides are applied. -/
def update (sequence : Option ℤ) (delta : OrderBookDelta) : OrderBookSyncEngine :=
  { e with
    sequence
    bids := applySideUpdates e.bids delta.bids
    asks := applySideUpdates e.asks delta.asks }

/-- `apply_delta`; `order_book_sync.py:42-65`. -/
def applyDelta (delta : OrderBookDelta) : OrderBookSyncEngine × Except OrderBookSyncError Bool :=
  if e.initialized = false then (e, .error .notInitialized)
  else
    match e.validateScope delta.exchange delta.symbol with
    | .error error => (e, .error error)
    | .ok () =>
      match e.sequence, delta.sequenceStart, delta.sequenceEnd with
      | some sequence, some start, some last =>
        let expected := sequence + 1
        if last < expected then (e, .ok false)
        else if start > expected then (e, .error (.sequenceGap expected start))
        else (e.update (some last) delta, .ok true)
      | _, _, some last => (e.update (some last) delta, .ok true)
      | _, _, none => (e.update e.sequence delta, .ok true)

/-- A side of `materialize_snapshot`; `order_book_sync.py:67-76`. -/
def materializeSide (side : BookSide) (depth : ℕ) : List OrderBookLevel :=
  (((e.side side).entries.map fun item => ⟨item.1, item.2⟩).insertionSort
    (levelOrder side)).take depth

end OrderBookSyncEngine

/-! ### Lookups -/

/-- What a level writes under its price. -/
def levelWrite : ℚ × Option ℚ :=
  (level.price, if level.amount ≤ 0 then none else some level.amount)

/-- Applied updates are written one after the other. -/
theorem get?_applySideUpdates :
    (applySideUpdates book updates).get? = writeAll book.get? (updates.map levelWrite) := by
  induction updates generalizing book with
  | nil => rfl
  | cons level updates ih =>
    have hstep : (if level.amount ≤ 0 then book.erase level.price
        else book.set level.price level.amount).get? =
          Function.update book.get? (levelWrite level).1 (levelWrite level).2 := by
      funext price
      unfold levelWrite
      split
      · rw [Dict.get?_erase]
        by_cases hprice : price = level.price
        · rw [if_pos hprice, hprice, Function.update_self]
        · rw [if_neg hprice, Function.update_of_ne hprice]
      · rw [Dict.get?_set]
        by_cases hprice : level.price = price
        · rw [if_pos hprice, ← hprice, Function.update_self]
        · rw [if_neg hprice, Function.update_of_ne (Ne.symm hprice)]
    rw [List.map_cons, writeAll_cons, ← hstep, ← ih]
    rfl

/-- The levels of a snapshot with an amount are written to an empty side. -/
theorem get?_levelDict :
    (levelDict levels).get? =
      writeAll (fun _ => none) ((levels.filter (0 < ·.amount)).map levelWrite) := by
  have hfold : levelDict levels =
      applySideUpdates Dict.empty (levels.filter (0 < ·.amount)) := by
    unfold levelDict applySideUpdates
    apply List.foldl_ext
    intro book level hlevel
    have hpos : 0 < level.amount := by simpa using (List.mem_filter.mp hlevel).2
    rw [if_neg (not_le.mpr hpos)]
  rw [hfold, get?_applySideUpdates]
  rfl

/-- Sorting the levels does not change what they write. -/
theorem writeAll_insertionSort (f : ℚ → Option ℚ) (side : BookSide) (levels : List OrderBookLevel) :
    writeAll f ((levels.insertionSort (levelOrder side)).map levelWrite) =
      writeAll f (levels.map levelWrite) := by
  funext price
  have hfilter (levels : List OrderBookLevel) : (levels.map levelWrite).filter (·.1 = price) =
      (levels.filter (·.price = price)).map levelWrite := List.filter_map
  rw [← writeAll_filter, ← writeAll_filter f (levels.map levelWrite), hfilter, hfilter,
    filter_insertionSort]
  intro a b ha hb
  have hprice : a.price = b.price := (of_decide_eq_true ha).trans (of_decide_eq_true hb).symm
  cases side <;> simp [levelOrder, BookSide.better, hprice]

/-! ### The top of the book -/

variable {side : BookSide}

theorem eq_of_not_better {price other : ℚ} (h : side.better price other = false)
    (h' : side.better other price = false) : price = other := by
  cases side <;> simp only [BookSide.better, decide_eq_false_iff_not, not_lt] at h h'
  · exact le_antisymm h h'
  · exact le_antisymm h' h

/-- Parsed levels are sorted, the best one first. -/
theorem sorted_of_parseLevels {allowZero : Bool} {rows : List (List NumField)}
    {levels : List OrderBookLevel} (h : parseLevels side allowZero rows = .ok levels) :
    levels.Pairwise (levelOrder side) := by
  obtain ⟨normalized, -, hsort⟩ := bind_eq_ok_iff.mp h
  rw [← pure_eq_ok_iff.mp hsort]
  exact List.pairwise_insertionSort _ _

/-- The levels of a snapshot have an amount. -/
theorem pos_of_parseLevels {rows : List (List NumField)} {levels : List OrderBookLevel}
    (h : parseLevels side false rows = .ok levels) : ∀ level ∈ levels, 0 < level.amount := by
  intro level hlevel
  obtain ⟨normalized, hmap, hsort⟩ := bind_eq_ok_iff.mp h
  rw [← pure_eq_ok_iff.mp hsort, List.mem_insertionSort, List.reduceOption_mem_iff] at hlevel
  obtain ⟨row, -, hrow⟩ := exists_of_mapM_eq_ok hmap _ hlevel
  unfold parseRow at hrow
  split at hrow
  · simp only [bind_eq_ok_iff, pure_eq_ok_iff] at hrow
    obtain ⟨price, -, amount, -, hkept⟩ := hrow
    split at hkept
    · cases hkept
    · next hskipped =>
      cases hkept
      simp only [skipped, Bool.not_false, Bool.and_true, Bool.or_eq_true, decide_eq_true_eq,
        beq_iff_eq, not_or, not_lt] at hskipped
      exact lt_of_le_of_ne hskipped.1 (Ne.symm hskipped.2)
  · cases hrow

private theorem mem_sortedLevels {e : OrderBookSyncEngine} {side : BookSide}
    (level : OrderBookLevel) :
    level ∈ ((e.side side).entries.map fun item =>
      (⟨item.1, item.2⟩ : OrderBookLevel)).insertionSort (levelOrder side) ↔
        (e.side side).get? level.price = some level.amount := by
  rw [List.mem_insertionSort, Dict.get?_eq_some_iff, List.mem_map]
  constructor
  · rintro ⟨item, hitem, rfl⟩
    exact hitem
  · exact fun hitem => ⟨(level.price, level.amount), hitem, rfl⟩

/-- The first level that is materialized is the best one of its side. -/
theorem OrderBookSyncEngine.materializeSide_head?_iff {e : OrderBookSyncEngine} {depth : ℕ}
    (hdepth : 0 < depth) (level : OrderBookLevel) :
    (e.materializeSide side depth).head? = some level ↔
      (e.side side).get? level.price = some level.amount ∧
        ∀ price amount, (e.side side).get? price = some amount →
          side.better price level.price = false := by
  have hm := @mem_sortedLevels e side
  have hsorted := List.pairwise_insertionSort (levelOrder side)
    ((e.side side).entries.map fun item => (⟨item.1, item.2⟩ : OrderBookLevel))
  rw [materializeSide, List.head?_take, if_neg hdepth.ne']
  cases hlevels : ((e.side side).entries.map fun item =>
      (⟨item.1, item.2⟩ : OrderBookLevel)).insertionSort (levelOrder side) with
  | nil =>
    rw [hlevels] at hm
    refine iff_of_false (by simp) ?_
    exact fun h => List.not_mem_nil ((hm level).mpr h.1)
  | cons first rest =>
    rw [hlevels] at hm hsorted
    have hbest : ∀ price amount, (e.side side).get? price = some amount →
        side.better price first.price = false := by
      intro price amount hg
      rcases List.mem_cons.mp ((hm ⟨price, amount⟩).mpr hg) with heq | hrest
      · rw [← heq]
        cases side <;> simp [BookSide.better]
      · exact List.rel_of_pairwise_cons hsorted hrest
    have hfst := (hm first).mp List.mem_cons_self
    rw [List.head?_cons, Option.some.injEq]
    constructor
    · rintro rfl
      exact ⟨hfst, hbest⟩
    · rintro ⟨hg, hlevel⟩
      have hprice := eq_of_not_better (hlevel _ _ hfst) (hbest _ _ hg)
      rw [hprice, hg] at hfst
      cases first
      cases level
      simp_all

end OpenTrader.Ingestion
