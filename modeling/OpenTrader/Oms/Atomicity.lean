import OpenTrader.Oms.OrderLedger

/-!
# Steps that raise half-way

Library `Oms`. `services/workers/oms_lifecycle.py:84-205`. The runner writes the history and the
record of an order before the position engine and the snapshot engine get to refuse the update:
`services/oms/position_engine.py:109-145`, `services/oms/portfolio_snapshot.py:51-69`. What raises
before the first write is what the envelope itself does not allow to read. A quantity, price or fee
may also be infinite or NaN, which `json` lets through: but for a NaN quantity a fill is in the
history before anything is computed with it, and whether the decimal arithmetic then raises is left
open.
-/

namespace OpenTrader.Oms
open Base

/-! ### What the runner completes -/

/-- The position engine takes the fill of the update, if it brings one: the fill is no dust, its
side is known, and the position held in its symbol has its mode. -/
def Bookable (s : RunnerState) (u : OrderUpdate) : Prop :=
  ∀ fill ∈ u.positionFill, (∃ signed, signedQuantity fill = .ok signed) ∧
    ∀ p ∈ s.positions.get? u.symbol, p.mode = u.mode

/-- The snapshot engine takes every position that the update does not replace. -/
def OthersMarkable (s : RunnerState) (u : OrderUpdate) : Prop :=
  ∀ symbol, ∀ p ∈ s.positions.get? symbol, (u.positionFill.isSome → symbol ≠ u.symbol) →
    Markable (upper (strip u.mode)) s.markPrices p

/-- Neither engine refuses the update. -/
def Completes (s : RunnerState) (u : OrderUpdate) : Prop := Bookable s u ∧ OthersMarkable s u

section

variable {base : ℚ} {now : String} {s : RunnerState} {envelope : OrderEnvelope} {u : OrderUpdate}

private theorem recordSnapshot_isOk_iff {order : ReconciliationOrder} :
    (∃ processed, (recordSnapshot base now s envelope u order).2 = .ok processed) ↔
      ∀ symbol, ∀ p ∈ s.positions.get? symbol, Markable (upper (strip u.mode)) s.markPrices p := by
  have hvalues : (∀ symbol, ∀ p ∈ s.positions.get? symbol,
        Markable (upper (strip u.mode)) s.markPrices p) ↔
      ∀ p ∈ s.positions.positions.values, Markable (upper (strip u.mode)) s.markPrices p := by
    constructor
    · intro h p hp
      obtain ⟨symbol, hg⟩ := (Dict.mem_values_iff _ p).mp hp
      exact h symbol p hg
    · intro h symbol p hp
      exact h p ((Dict.mem_values_iff _ p).mpr ⟨symbol, hp⟩)
  rw [hvalues, ← @buildSnapshot_isOk_iff now u.mode base 0 _ _
    (some (s.positions.positions.values.map (·.realizedPnl)).sum) none]
  unfold recordSnapshot
  dsimp only
  split
  · next e he => simp [he]
  · next snapshot hs => simp [hs]

private theorem markable_store {fill : PositionFill} {book : PositionBook}
    (hf : u.positionFill = some fill) (hbook : s.positions.apply now fill = .ok book) :
    (∀ symbol, ∀ p ∈ book.get? symbol,
        Markable (upper (strip u.mode)) (s.markPrices.set u.symbol fill.price) p) ↔
      OthersMarkable s u := by
  obtain ⟨raw, -, rfl⟩ := Option.map_eq_some_iff.mp hf
  obtain ⟨update, hupdate, rfl⟩ := PositionBook.apply_eq_ok hbook
  obtain ⟨-, -, -, hmode, hsym, -, -⟩ := PositionBook.applyFill_get? hupdate
  have hg (symbol : String) : (s.positions.store hupdate).get? symbol =
      if u.symbol = symbol then some update.current else s.positions.get? symbol :=
    PositionBook.get?_store hupdate symbol
  have hmark {p : PositionState} (hp : p.symbol ≠ u.symbol) :
      Markable (upper (strip u.mode)) (s.markPrices.set u.symbol raw.price) p ↔
        Markable (upper (strip u.mode)) s.markPrices p := by
    rw [Markable, Markable, Dict.get?_set_of_ne _ _ hp.symm]
  constructor
  · intro h symbol p hp hother
    have hne : symbol ≠ u.symbol := hother (by rw [hf]; rfl)
    have hnamed : p.symbol ≠ u.symbol := by
      rw [(s.positions.settled symbol p hp).1]
      exact hne
    refine (hmark hnamed).mp (h symbol p ?_)
    rw [hg, if_neg hne.symm]
    exact hp
  · intro h symbol p hp
    rw [hg] at hp
    split at hp
    · cases hp
      refine ⟨by rw [hmode]; rfl, .inr ?_⟩
      have hset : update.current.symbol = u.symbol := hsym
      rw [hset]
      exact Option.isSome_iff_exists.mpr ⟨_, Dict.get?_set_self _ _ _⟩
    · next hne =>
      have hnamed : p.symbol ≠ u.symbol := by
        rw [(s.positions.settled symbol p hp).1]
        exact Ne.symm hne
      exact (hmark hnamed).mpr (h symbol p hp fun _ => Ne.symm hne)

/-- The position engine takes a fill exactly when the ledger has a next book. -/
theorem bookable_iff_of_fill (now : String) {fill : PositionFill}
    (hfill : u.positionFill = some fill) :
    Bookable s u ↔ ∃ book, s.positions.apply now fill = .ok book := by
  have hsame : fill.symbol = u.symbol ∧ fill.mode = u.mode := by
    obtain ⟨raw, -, rfl⟩ := Option.map_eq_some_iff.mp hfill
    exact ⟨rfl, rfl⟩
  rw [PositionBook.apply_isOk_iff, hsame.1, hsame.2, Bookable, hfill]
  simp

/-- An update that was read is processed without raising exactly when neither engine refuses it. -/
theorem runOnce_isOk_iff (base : ℚ) (s : RunnerState)
    (hread : readUpdate now envelope = .ok (some u)) :
    (∃ processed, (runOnce base now s envelope).2 = .ok processed) ↔ Completes s u := by
  have hkeep : (reconciledState s u).positions = s.positions := rfl
  rw [runOnce, hread]
  dsimp only
  rw [writeUpdate_eq]
  unfold bookFill
  cases hf : u.positionFill with
  | none =>
    have hbookable : Bookable s u := by
      rw [Bookable, hf]
      rintro fill ⟨⟩
    rw [recordSnapshot_isOk_iff, Completes, and_iff_right hbookable, OthersMarkable, hf]
    constructor
    · exact fun h symbol p hp _ => h symbol p hp
    · exact fun h symbol p hp => h symbol p hp fun hsome => absurd hsome Bool.false_ne_true
  | some fill =>
    have hbookable : Bookable s u ↔ ∃ book, s.positions.apply now fill = .ok book :=
      bookable_iff_of_fill now hf
    dsimp only
    rw [hkeep]
    cases hbook : s.positions.apply now fill with
    | error e =>
      refine iff_of_false (by rintro ⟨processed, ⟨⟩⟩) fun h => ?_
      obtain ⟨book, hok⟩ := hbookable.mp h.1
      rw [hbook] at hok
      cases hok
    | ok book =>
      dsimp only
      rw [recordSnapshot_isOk_iff, Completes, and_iff_right (hbookable.mpr ⟨book, hbook⟩)]
      exact markable_store hf hbook

end

/-! ### All or nothing -/

/-- The orders, their history, the positions and the mark prices are the same. -/
structure SameLedgers (s t : RunnerState) : Prop where
  orders : t.orders = s.orders
  lifecycleEvents : t.lifecycleEvents = s.lifecycleEvents
  positions : t.positions = s.positions
  markPrices : t.markPrices = s.markPrices

/-- An entry that `float` and `Decimal` take and that is no finite number. -/
inductive NonFinite where
  | infinite
  | nan
  deriving DecidableEq

/-- An update as it comes: the quantity, the price and the fee that are read from its payload may
not be finite, in the place of what the envelope holds. -/
structure WireEnvelope where
  envelope : OrderEnvelope
  quantity : Option NonFinite := none
  price : Option NonFinite := none
  fee : Option NonFinite := none

namespace WireEnvelope

variable (wire : WireEnvelope)

/-- The envelope with a number in the place of each entry that is not finite. -/
def readable : OrderEnvelope :=
  { wire.envelope with
    payload := wire.envelope.payload.map fun payload =>
      { payload with
        quantity := if wire.quantity.isSome then .num 1 else payload.quantity
        fillPrice := if wire.price.isSome then .num 1 else payload.fillPrice
        feePaid := if wire.fee.isSome then .num 1 else payload.feePaid } }

/-- A number of the fill that the update brings is not finite. -/
def inexact (u : OrderUpdate) : Bool :=
  u.event.toLifecycleEvent.fill.isSome &&
    (wire.quantity.isSome || wire.price.isSome || wire.fee.isSome)

end WireEnvelope

section

variable (arithmetic : RunnerState → OrderUpdate → Bool) (base : ℚ) (now : String)
  (s : RunnerState)

/-- `run_once`: the ledgers it leaves, and whether it raises. The comparison of a NaN quantity
raises at once. A fill with another number that is not finite is in the history by then, where no
state of exact numbers has it; `arithmetic` tells whether the rest of the step raises. -/
def wireRunOnce (wire : WireEnvelope) : Option RunnerState × Bool :=
  let step := runOnce base now s wire.readable
  let exact := (some step.1, step.2.toOption.isNone)
  match readUpdate now wire.readable with
  | .ok (some u) =>
    if wire.quantity = some .nan then (some s, true)
    else if wire.inexact u then (none, arithmetic s u)
    -- without a fill an infinite quantity is what a new order asks for, and nothing else
    else if wire.quantity.isSome ∧ (s.orders.get? u.orderId).isNone then (none, exact.2)
    else exact
  | _ => exact

/-- An envelope of finite numbers is run as it is. -/
theorem wireRunOnce_of_finite (envelope : OrderEnvelope) :
    wireRunOnce arithmetic base now s { envelope } =
      (some (runOnce base now s envelope).1, (runOnce base now s envelope).2.toOption.isNone) := by
  have hreadable : WireEnvelope.readable { envelope } = envelope := by
    obtain ⟨_, _, _, _, _, _, _ | payload⟩ := envelope <;> rfl
  unfold wireRunOnce
  rw [hreadable]
  split <;> simp [WireEnvelope.inexact]

/-- If the step raises, it leaves the ledgers as they were. -/
def AllOrNothing (wire : WireEnvelope) : Prop :=
  (wireRunOnce arithmetic base now s wire).2 = true →
    ∃ t ∈ (wireRunOnce arithmetic base now s wire).1, SameLedgers s t

end

section

variable {base : ℚ} {now : String} {s : RunnerState} {envelope : OrderEnvelope} {u : OrderUpdate}

private theorem not_sameLedgers (hr : readUpdate now envelope = .ok (some u)) :
    ¬ SameLedgers s (runOnce base now s envelope).1 := by
  intro h
  have hevs := (runOnce_orderLedger base s hr).2
  have hlonger : s.lifecycleEvents.get? u.orderId = some (eventsForOrder s u) := by
    rw [← h.lifecycleEvents, hevs, Dict.get?_set_self]
  have hself : eventsForOrder s u = eventsForOrder s u ++ [u.event] := by
    nth_rewrite 1 [eventsForOrder]
    rw [hlonger, Option.getD_some]
  have hlen := congrArg List.length hself
  simp at hlen

private theorem isNone_toOption_iff (hr : readUpdate now envelope = .ok (some u)) :
    (runOnce base now s envelope).2.toOption.isNone = true ↔ ¬ Completes s u := by
  rw [← runOnce_isOk_iff base s hr]
  cases (runOnce base now s envelope).2 <;> simp [Except.toOption]

end

end OpenTrader.Oms
