import OpenTrader.Oms.Position

/-!
# Positions from a history of fills

Library `Oms`. `services/oms/position_engine.py:48-106` applied fill by fill, each to the position
the one before left. The marked value of the position accounts for every fill and fee as long as
no net position is dropped as dust; the quantity drifts by one dust threshold at most with every
fill that leaves it flat.
-/

namespace OpenTrader.Oms
open Base

/-- A fill with the clock text of the moment it is applied. -/
structure TimedFill where
  now : String
  fill : PositionFill
  deriving DecidableEq

/-- `apply_fill` on each fill in turn. -/
def applyFills : Option PositionState → List TimedFill →
    Except PositionEngineError (Option PositionState)
  | position, [] => .ok position
  | position, f :: fills => do
    let update ← applyFill f.now position f.fill
    applyFills (some update.current) fills

/-- How many fills of a history leave the position flat. -/
def flattenings : Option PositionState → List TimedFill → ℕ
  | _, [] => 0
  | position, f :: fills =>
    match applyFill f.now position f.fill with
    | .error _ => 0
    | .ok update =>
      (if update.current.quantity = 0 then 1 else 0) + flattenings (some update.current) fills

/-! ### Entries of a position that may be missing -/

/-- Quantity of a position, zero when there is none. -/
def heldQuantity (position : Option PositionState) : ℚ := (position.map (·.quantity)).getD 0

/-- Average entry price of a position, zero when there is none. -/
def heldAverage (position : Option PositionState) : ℚ :=
  (position.map (·.averageEntryPrice)).getD 0

/-- Realized profit of a position, zero when there is none. -/
def heldPnl (position : Option PositionState) : ℚ := (position.map (·.realizedPnl)).getD 0

/-- Realized profit and marked value of a position together. -/
def markedValue (mark : ℚ) (position : Option PositionState) : ℚ :=
  heldPnl position + heldQuantity position * (mark - heldAverage position)

variable {update : PositionUpdate} {fill : PositionFill} {now : String} {side : Side}

/-- An admitted fill nets what is held with its signed quantity. -/
theorem current_of_applyFill {position : Option PositionState}
    (h : applyFill now position fill = .ok update) (hside : parseSide fill.side = some side) :
    let netted := net (heldQuantity position) (heldAverage position) (side.sign * |fill.quantity|)
      fill.price
    epsilon < |(side.sign * |fill.quantity|)| ∧
      (update.current.mode = fill.mode ∧ update.current.symbol = fill.symbol) ∧
      update.current.quantity = netted.quantity ∧
      update.current.averageEntryPrice = netted.average ∧
      update.current.realizedPnl = heldPnl position + (netted.realized - |fill.fee|) := by
  obtain ⟨side', hside', hd, -, rfl⟩ := (applyFill_eq_ok_iff _ _ _ _).mp h
  obtain rfl : side = side' := Option.some.inj (hside.symm.trans hside')
  refine ⟨by rwa [Side.abs_sign_mul, abs_abs], ⟨rfl, rfl⟩, ?_⟩
  cases position <;> exact ⟨rfl, rfl, rfl⟩

/-- An admitted fill moves a settled position by its signed quantity, up to dust. -/
theorem quantity_of_applyFill {position : Option PositionState}
    (h : applyFill now position fill = .ok update) (hside : parseSide fill.side = some side)
    (hsettled : snap (heldQuantity position) = heldQuantity position) :
    update.current.quantity = snap (heldQuantity position + side.sign * |fill.quantity|) := by
  obtain ⟨hd, -, hq, -, -⟩ := current_of_applyFill h hside
  rw [hq, net_quantity _ _ hsettled hd]

/-! ### Valid fills -/

variable {mode symbol : String}

/-- A fill of a mode and symbol that is no dust and whose side is known. -/
structure ValidFill (mode symbol : String) extends TimedFill where
  side : Side
  mode_eq : fill.mode = mode
  symbol_eq : fill.symbol = symbol
  side_eq : parseSide fill.side = some side
  not_dust : epsilon < |fill.quantity|

/-- Signed quantity of a valid fill. -/
def ValidFill.signed (f : ValidFill mode symbol) : ℚ := f.side.sign * |f.fill.quantity|

variable (fills : List (ValidFill mode symbol))

/-- The fills as they are handed to the engine. -/
def timedFills : List TimedFill :=
  fills.map (·.toTimedFill)

/-- Sum of the signed quantities. -/
def netQuantity : ℚ := (fills.map (·.signed)).sum

/-- Value of the fills at a mark price, `∑ sᵢ (mark - priceᵢ)`. -/
def fillsValue (mark : ℚ) (fills : List (ValidFill mode symbol)) : ℚ :=
  (fills.map fun f => f.signed * (mark - f.fill.price)).sum

/-- Sum of the fees, each taken as a cost. -/
def totalFees : ℚ := (fills.map fun f => |f.fill.fee|).sum

/-- A position of the mode and symbol that the engine can hold. -/
structure Tradable (mode symbol : String) (position : Option PositionState) : Prop where
  named : ∀ p ∈ position, p.mode = mode ∧ p.symbol = symbol
  settled : snap (heldQuantity position) = heldQuantity position

/-- No net position on the way from `quantity` is dust. -/
def NoDust (quantity : ℚ) : List (ValidFill mode symbol) → Prop
  | [] => True
  | f :: fills => snap (quantity + f.signed) = quantity + f.signed ∧
      NoDust (quantity + f.signed) fills

/-! ### One fill -/

section

variable {position : Option PositionState}

/-- A valid fill is admitted, moves the position by its signed quantity, up to dust, and leaves it
tradable. -/
theorem applyFill_valid (h : Tradable mode symbol position) (f : ValidFill mode symbol) :
    ∃ update, applyFill f.now position f.fill = .ok update ∧
      Tradable mode symbol (some update.current) ∧
      update.current.quantity = snap (heldQuantity position + f.signed) ∧
      (snap (heldQuantity position + f.signed) = heldQuantity position + f.signed → ∀ mark,
        markedValue mark (some update.current) =
          markedValue mark position + f.signed * (mark - f.fill.price) - |f.fill.fee|) := by
  have hnamed : ∀ p ∈ position, p.mode = f.fill.mode ∧ p.symbol = f.fill.symbol := by
    rw [f.mode_eq, f.symbol_eq]
    exact h.named
  obtain ⟨update, hok⟩ : ∃ update, applyFill f.now position f.fill = .ok update :=
    ⟨_, (applyFill_eq_ok_iff f.now position f.fill _).mpr
      ⟨f.side, f.side_eq, f.not_dust, hnamed, rfl⟩⟩
  obtain ⟨hd, ⟨hmode, hsym⟩, hnet, havg, hpnl⟩ := current_of_applyFill hok f.side_eq
  have hq := quantity_of_applyFill hok f.side_eq h.settled
  refine ⟨update, hok, ⟨?_, ?_⟩, hq, ?_⟩
  · rintro p ⟨⟩
    exact ⟨hmode.trans f.mode_eq, hsym.trans f.symbol_eq⟩
  · change snap update.current.quantity = update.current.quantity
    rw [hq, snap_snap]
  · intro hsettled mark
    have hvalue := net_value (heldAverage position) f.fill.price mark h.settled hd hsettled
    change update.current.realizedPnl +
      update.current.quantity * (mark - update.current.averageEntryPrice) = _
    rw [hnet, havg, hpnl, markedValue, ValidFill.signed]
    linarith

end

/-! ### Whole histories -/

private theorem applyFills_valid {position : Option PositionState}
    (h : Tradable mode symbol position) :
    ∃ final, applyFills position (timedFills fills) = .ok final ∧
      (NoDust (heldQuantity position) fills → ∀ mark,
        markedValue mark final =
          markedValue mark position + fillsValue mark fills - totalFees fills) ∧
      |heldQuantity final - (heldQuantity position + netQuantity fills)| ≤
        epsilon * flattenings position (timedFills fills) := by
  induction fills generalizing position with
  | nil =>
    refine ⟨position, rfl, fun _ mark => ?_, ?_⟩
    · simp [fillsValue, totalFees]
    · simp [netQuantity, timedFills, flattenings]
  | cons f fills ih =>
    obtain ⟨update, hok, htradable, hq, hvalue⟩ := applyFill_valid h f
    obtain ⟨final, hfinal, hrest, hdrift⟩ := ih htradable
    have hheld : heldQuantity (some update.current) = update.current.quantity := rfl
    refine ⟨final, ?_, ?_, ?_⟩
    · change (applyFill f.now position f.fill >>= _) = _
      rw [hok]
      exact hfinal
    · rintro ⟨hsettled, hnoDust⟩ mark
      rw [hheld, hq, hsettled] at hrest
      have hfills := hrest hnoDust mark
      have hf := hvalue hsettled mark
      simp only [fillsValue, totalFees, List.map_cons, List.sum_cons] at hfills ⊢
      linarith
    · have hcount : flattenings position (timedFills (f :: fills)) =
          (if update.current.quantity = 0 then 1 else 0) +
            flattenings (some update.current) (timedFills fills) := by
        simp only [timedFills, List.map_cons, flattenings, hok]
      have hnet : netQuantity (f :: fills) = f.signed + netQuantity fills := by
        simp [netQuantity]
      have hsnap := abs_snap_sub_le (heldQuantity position + f.signed)
      rw [← hq] at hsnap
      rw [hheld] at hdrift
      rw [hcount, hnet]
      calc |heldQuantity final - (heldQuantity position + (f.signed + netQuantity fills))|
          = |(heldQuantity final - (update.current.quantity + netQuantity fills)) +
              (update.current.quantity - (heldQuantity position + f.signed))| := by ring_nf
        _ ≤ |heldQuantity final - (update.current.quantity + netQuantity fills)| +
              |update.current.quantity - (heldQuantity position + f.signed)| := abs_add_le _ _
        _ ≤ epsilon * flattenings (some update.current) (timedFills fills) +
              if update.current.quantity = 0 then epsilon else 0 := add_le_add hdrift hsnap
        _ = epsilon * ((if update.current.quantity = 0 then 1 else 0) +
              flattenings (some update.current) (timedFills fills) : ℕ) := by
            split <;> push_cast <;> ring

/-- A flat position of a mode and symbol, or none. -/
structure FlatPosition (mode symbol : String) where
  position : Option PositionState
  named : ∀ p ∈ position, p.mode = mode ∧ p.symbol = symbol
  flat : heldQuantity position = 0

/-- Valid fills applied from a flat position are all admitted. As long as no net position is dust,
realized profit and marked value are those of the fills less the fees; in any case the quantity is
the sum of the signed fills up to one dust threshold for each fill that left the position flat. -/
theorem accounting_of_validFills (start : FlatPosition mode symbol)
    (fills : List (ValidFill mode symbol)) :
    ∃ final, applyFills start.position (timedFills fills) = .ok final ∧
      (NoDust 0 fills → ∀ mark,
        heldPnl final - heldPnl start.position +
            heldQuantity final * (mark - heldAverage final) =
          fillsValue mark fills - totalFees fills) ∧
      |heldQuantity final - netQuantity fills| ≤
        epsilon * flattenings start.position (timedFills fills) := by
  have htradable : Tradable mode symbol start.position :=
    { named := start.named
      settled := by rw [start.flat]; exact (snap_eq_self_iff 0).mpr (.inl rfl) }
  obtain ⟨final, hfinal, hvalue, hdrift⟩ := applyFills_valid fills htradable
  rw [start.flat] at hvalue hdrift
  rw [zero_add] at hdrift
  refine ⟨final, hfinal, fun hnoDust mark => ?_, hdrift⟩
  have hmarked := hvalue hnoDust mark
  simp only [markedValue, start.flat, zero_mul] at hmarked
  linarith

end OpenTrader.Oms
