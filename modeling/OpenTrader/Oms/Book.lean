import OpenTrader.Base.Dict
import OpenTrader.Oms.Position

/-!
# Position book

Library `Oms`. The positions of the in-memory runner, `_positions` of
`services/workers/oms_lifecycle.py:80,150-167`, one per symbol. The record carries what the
engine guarantees of every position it stores: it stands under its own symbol and is either
flat or above the dust threshold.
-/

namespace OpenTrader.Oms
open Base

/-- Positions by symbol, each settled and under its own symbol. -/
structure PositionBook where
  positions : Dict String PositionState
  settled : ∀ symbol p, positions.get? symbol = some p →
    p.symbol = symbol ∧ snap p.quantity = p.quantity

namespace PositionBook

/-- The book without positions. -/
def empty : PositionBook := ⟨Dict.empty, fun _ _ h => nomatch h⟩

/-- Position held in a symbol. -/
def get? (b : PositionBook) (symbol : String) : Option PositionState := b.positions.get? symbol

/-- Signed quantity held in a symbol, zero when there is no position. -/
def quantity (b : PositionBook) (symbol : String) : ℚ :=
  ((b.get? symbol).map (·.quantity)).getD 0

/-- Nothing is held in the empty book. -/
@[simp] theorem quantity_empty (symbol : String) : empty.quantity symbol = 0 := rfl

private theorem snap_quantity (b : PositionBook) (symbol : String) :
    snap (b.quantity symbol) = b.quantity symbol := by
  unfold quantity
  cases h : b.get? symbol with
  | none => exact (snap_eq_self_iff 0).mpr (.inl rfl)
  | some p => exact (b.settled symbol p h).2

/-- The average entry price held in a symbol, zero when there is no position. -/
def average (b : PositionBook) (symbol : String) : ℚ :=
  ((b.get? symbol).map (·.averageEntryPrice)).getD 0

variable {now : String} {b b' : PositionBook} {fill : PositionFill} {update : PositionUpdate}

private theorem previous_quantity :
    ((b.get? fill.symbol).getD (emptyPosition now fill.mode fill.symbol)).quantity =
      b.quantity fill.symbol := by
  unfold quantity
  cases b.get? fill.symbol <;> rfl

private theorem previous_average :
    ((b.get? fill.symbol).getD (emptyPosition now fill.mode fill.symbol)).averageEntryPrice =
      b.average fill.symbol := by
  unfold average
  cases b.get? fill.symbol <;> rfl

/-- An admitted fill updates the held position by the netting arithmetic. -/
theorem applyFill_get? (h : applyFill now (b.get? fill.symbol) fill = .ok update) :
    ∃ s, signedQuantity fill = .ok s ∧ epsilon < |s| ∧
      update.current.mode = fill.mode ∧ update.current.symbol = fill.symbol ∧
      update.current.quantity = (net (b.quantity fill.symbol) (b.average fill.symbol) s
        fill.price).quantity ∧
      update.current.averageEntryPrice = (net (b.quantity fill.symbol) (b.average fill.symbol) s
        fill.price).average := by
  obtain ⟨side, hside, hq, -, rfl⟩ := (applyFill_eq_ok_iff _ _ _ _).mp h
  refine ⟨side.sign * |fill.quantity|,
    (signedQuantity_eq_ok_iff _ _).mpr ⟨hq, side, hside, rfl⟩, ?_, rfl, rfl, ?_, ?_⟩
  · rwa [Side.abs_sign_mul, abs_abs]
  · simp only [fillUpdate, previous_quantity, previous_average]
  · simp only [fillUpdate, previous_quantity, previous_average]

/-- Store the position an admitted fill leads to. -/
def store (b : PositionBook) (h : applyFill now (b.get? fill.symbol) fill = .ok update) :
    PositionBook where
  positions := b.positions.set fill.symbol update.current
  settled := by
    intro symbol p hp
    rw [Dict.get?_set] at hp
    split at hp
    · next hs =>
      cases hp
      obtain ⟨s, -, hs', -, hsymbol, hq, -⟩ := applyFill_get? h
      refine ⟨hsymbol.trans hs, ?_⟩
      rw [hq, net_quantity _ _ (b.snap_quantity _) hs', snap_snap]
    · exact b.settled symbol p hp

/-- Storing changes the position of the fill's symbol alone. -/
theorem get?_store (h : applyFill now (b.get? fill.symbol) fill = .ok update) (symbol : String) :
    (b.store h).get? symbol =
      if fill.symbol = symbol then some update.current else b.get? symbol :=
  Dict.get?_set _ _ _ _

/-- Apply a fill to the position of its symbol; `oms_lifecycle.py:150-167`. -/
def apply (now : String) (b : PositionBook) (fill : PositionFill) :
    Except PositionEngineError PositionBook :=
  match h : applyFill now (b.get? fill.symbol) fill with
  | .error e => .error e
  | .ok _ => .ok (b.store h)

/-- A fill that the book takes is one the engine admits, and its result is stored. -/
theorem apply_eq_ok (h : b.apply now fill = .ok b') :
    ∃ update, ∃ hu : applyFill now (b.get? fill.symbol) fill = .ok update, b' = b.store hu := by
  unfold apply at h
  split at h
  · cases h
  · next update hu => exact ⟨update, hu, (Except.ok.inj h).symm⟩

/-- A fill that the book refuses is one the engine refuses. -/
theorem apply_eq_error {error : PositionEngineError} (h : b.apply now fill = .error error) :
    applyFill now (b.get? fill.symbol) fill = .error error := by
  unfold apply at h
  split at h
  · next e he => rw [he, Except.error.inj h]
  · cases h

/-- The book takes a fill exactly when it is no dust, its side is known and the position held
in its symbol, if any, has its mode. -/
theorem apply_isOk_iff (now : String) (b : PositionBook) (fill : PositionFill) :
    (∃ b', b.apply now fill = .ok b') ↔
      (∃ s, signedQuantity fill = .ok s) ∧ ∀ p ∈ b.get? fill.symbol, p.mode = fill.mode := by
  constructor
  · rintro ⟨b', h⟩
    obtain ⟨update, hu, -⟩ := apply_eq_ok h
    obtain ⟨side, hside, hq, hmode, -⟩ := (applyFill_eq_ok_iff _ _ _ _).mp hu
    exact ⟨⟨_, (signedQuantity_eq_ok_iff _ _).mpr ⟨hq, side, hside, rfl⟩⟩,
      fun p hp => (hmode p hp).1⟩
  · rintro ⟨⟨s, hs⟩, hmode⟩
    obtain ⟨hq, side, hside, -⟩ := (signedQuantity_eq_ok_iff _ _).mp hs
    have hu := (applyFill_eq_ok_iff now (b.get? fill.symbol) fill _).mpr
      ⟨side, hside, hq, fun p hp => ⟨hmode p hp, (b.settled _ p hp).1⟩, rfl⟩
    unfold apply
    split
    · next he => rw [he] at hu; cases hu
    · exact ⟨_, rfl⟩

/-- A fill the book takes moves the quantity held in its symbol by its signed quantity, up to
a dropped dust remainder, and no other. -/
theorem quantity_of_apply {s : ℚ} (h : b.apply now fill = .ok b')
    (hs : signedQuantity fill = .ok s) (symbol : String) :
    b'.quantity symbol =
      if fill.symbol = symbol then snap (b.quantity symbol + s) else b.quantity symbol := by
  obtain ⟨update, hu, rfl⟩ := apply_eq_ok h
  obtain ⟨s', hs', hpos, -, -, hq, -⟩ := applyFill_get? hu
  obtain rfl : s' = s := Except.ok.inj (hs'.symm.trans hs)
  rw [quantity, get?_store]
  split
  · next hk =>
    rw [Option.map_some, Option.getD_some, hq, net_quantity _ _ (b.snap_quantity _) hpos, hk]
  · rfl

/-- A fill leaves the positions of other symbols alone. -/
theorem get?_of_apply {symbol : String} (h : b.apply now fill = .ok b')
    (hother : fill.symbol ≠ symbol) : b'.get? symbol = b.get? symbol := by
  obtain ⟨update, hu, rfl⟩ := apply_eq_ok h
  rw [get?_store, if_neg hother]

/-- The position a fill leaves in its symbol has the mode of the fill. -/
theorem mode_of_apply (h : b.apply now fill = .ok b') :
    ∀ p ∈ b'.get? fill.symbol, p.mode = fill.mode := by
  obtain ⟨update, hu, rfl⟩ := apply_eq_ok h
  obtain ⟨-, -, -, hmode, -⟩ := applyFill_get? hu
  intro p hp
  rw [get?_store, if_pos rfl, Option.mem_some_iff] at hp
  rw [← hp, hmode]

/-- The book after a fill, unchanged by one it refuses. -/
def book (now : String) (b : PositionBook) (fill : PositionFill) : PositionBook :=
  match b.apply now fill with
  | .error _ => b
  | .ok b' => b'

/-! ### Realized profit -/

/-- Realized profit of the position in a symbol, zero when there is none. -/
def realizedPnl (b : PositionBook) (symbol : String) : ℚ :=
  ((b.get? symbol).map (·.realizedPnl)).getD 0

private theorem previous_realizedPnl :
    ((b.get? fill.symbol).getD (emptyPosition now fill.mode fill.symbol)).realizedPnl =
      b.realizedPnl fill.symbol := by
  unfold realizedPnl
  cases b.get? fill.symbol <;> rfl

/-- Profit, before fees, of the part of a position that a fill closes. A refused fill closes
nothing. -/
def grossProfit (now : String) (b : PositionBook) (fill : PositionFill) : ℚ :=
  match b.apply now fill, signedQuantity fill with
  | .ok _, .ok signed =>
    (net (b.quantity fill.symbol) (b.average fill.symbol) signed fill.price).realized
  | _, _ => 0

/-- A booked fill adds the profit of what it closes to the realized profit, and takes off its
fee. -/
theorem realizedPnl_book_of_ok (h : b.apply now fill = .ok b') :
    (b.book now fill).realizedPnl fill.symbol =
      b.realizedPnl fill.symbol + b.grossProfit now fill - |fill.fee| := by
  obtain ⟨update, hu, rfl⟩ := apply_eq_ok h
  obtain ⟨side, hside, hq, -, rfl⟩ := (applyFill_eq_ok_iff _ _ _ _).mp hu
  have hsigned : signedQuantity fill = .ok (side.sign * |fill.quantity|) :=
    (signedQuantity_eq_ok_iff _ _).mpr ⟨hq, side, hside, rfl⟩
  rw [book, h, grossProfit, h, hsigned, realizedPnl, get?_store, if_pos rfl, Option.map_some,
    Option.getD_some]
  simp only [fillUpdate, previous_realizedPnl, previous_quantity, previous_average]
  ring

/-- A refused fill realizes nothing. -/
theorem grossProfit_of_error {error : PositionEngineError} (h : b.apply now fill = .error error) :
    b.grossProfit now fill = 0 := by
  rw [grossProfit, h]

/-! ### Marked value of the book -/

/-- Recorded price of a symbol, zero when there is none. -/
def markOf (marks : Dict String ℚ) (symbol : String) : ℚ := (marks.get? symbol).getD 0

/-- Marked profit of the positions of a book. -/
def openPnl (b : PositionBook) (marks : Dict String ℚ) : ℚ :=
  (b.positions.entries.map fun e =>
    (markOf marks e.1 - e.2.averageEntryPrice) * e.2.quantity).sum

/-- A fill that leaves no dust and becomes the mark of its symbol changes the marked profit by
the revaluation of the old position, less the profit it realizes. -/
theorem openPnl_of_apply {s : ℚ} (marks : Dict String ℚ) (h : b.apply now fill = .ok b')
    (hs : signedQuantity fill = .ok s)
    (hq : snap (b.quantity fill.symbol + s) = b.quantity fill.symbol + s) :
    b'.openPnl (marks.set fill.symbol fill.price) = b.openPnl marks +
      b.quantity fill.symbol * (fill.price - markOf marks fill.symbol) -
      closedProfit (b.quantity fill.symbol) (b.average fill.symbol) s fill.price := by
  obtain ⟨update, hu, rfl⟩ := apply_eq_ok h
  obtain ⟨s', hs', hpos, -, -, hquantity, havg⟩ := applyFill_get? hu
  obtain rfl : s' = s := Except.ok.inj (hs'.symm.trans hs)
  have hother : ∀ (j : String) (p : PositionState), j ≠ fill.symbol →
      (markOf (marks.set fill.symbol fill.price) j - p.averageEntryPrice) * p.quantity =
        (markOf marks j - p.averageEntryPrice) * p.quantity := by
    intro j p hj
    rw [markOf, markOf, Dict.get?_set_of_ne _ _ hj.symm]
  have hself : markOf (marks.set fill.symbol fill.price) fill.symbol = fill.price := by
    rw [markOf, Dict.get?_set_self, Option.getD_some]
  have hold : ((b.positions.get? fill.symbol).map fun p =>
      (markOf marks fill.symbol - p.averageEntryPrice) * p.quantity).getD 0 =
      (markOf marks fill.symbol - b.average fill.symbol) * b.quantity fill.symbol := by
    unfold average quantity get?
    cases b.positions.get? fill.symbol <;> simp
  have hvalue := net_value (b.average fill.symbol) fill.price fill.price
    (b.snap_quantity fill.symbol) hpos hq
  have hrealized := net_realized (b.average fill.symbol) fill.price
    (b.snap_quantity fill.symbol) hpos
  have hsum := Dict.sum_set b.positions fill.symbol update.current hother
  unfold openPnl
  refine hsum.trans ?_
  rw [hold, hself, hquantity, havg, ← hrealized]
  linarith

end PositionBook
end OpenTrader.Oms
