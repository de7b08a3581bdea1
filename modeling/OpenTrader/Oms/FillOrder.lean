import OpenTrader.Base.Fallible
import OpenTrader.Oms.EntryPrice

/-!
# Fills of one side in any order

Library `Oms`. `services/oms/position_engine.py:59-106` over a list of fills of one side. Fills that
open or add to a position keep an account of what it cost, fills that reduce it leave the average
alone. In both cases quantity, cost and marked value are sums over the fills, so that their order
leaves no trace.
-/

namespace OpenTrader.Oms
open Base

variable {mode symbol : String}

/-- What fills leave of a position when no dust is dropped. -/
structure Booked (position : Option PositionState) (fills : List (ValidFill mode symbol))
    (final : Option PositionState) : Prop where
  applied : applyFills position (timedFills fills) = .ok final
  quantity : heldQuantity final = heldQuantity position + netQuantity fills
  value : markedValue 0 final = markedValue 0 position + fillsValue 0 fills - totalFees fills

/-- The status of a position says whether it is open. -/
def StatusFits (position : Option PositionState) : Prop :=
  ∀ p ∈ position, p.status = if |p.quantity| > epsilon then .opened else .closed

private theorem booked_nil (position : Option PositionState) :
    Booked position ([] : List (ValidFill mode symbol)) position where
  applied := rfl
  quantity := by simp [netQuantity]
  value := by simp [fillsValue, totalFees]

section
variable {position : Option PositionState}

private theorem exists_booked_cons (h : Tradable mode symbol position) (f : ValidFill mode symbol)
    (hkept : snap (heldQuantity position + f.signed) = heldQuantity position + f.signed) :
    ∃ next, (Tradable mode symbol (some next) ∧ StatusFits (some next)) ∧
      heldQuantity (some next) = heldQuantity position + f.signed ∧
      heldAverage (some next) =
        entryPrice (heldQuantity position) (heldAverage position) f.signed f.fill.price ∧
      ∀ fills final, Booked (some next) fills final → Booked position (f :: fills) final := by
  obtain ⟨update, hok, htradable, hq, havg, hstat, hvalue⟩ :=
    applyFill_entryPrice h f
  refine ⟨update.current, ⟨htradable, ?_⟩, hq.trans hkept, havg, ?_⟩
  · rintro p ⟨⟩
    exact hstat
  · intro fills final hbooked
    have hheld : heldQuantity (some update.current) = heldQuantity position + f.signed :=
      hq.trans hkept
    refine ⟨?_, ?_, ?_⟩
    · change (applyFill f.now position f.fill >>= _) = _
      rw [hok]
      exact hbooked.applied
    · rw [hbooked.quantity, hheld]
      simp only [netQuantity, List.map_cons, List.sum_cons]
      ring
    · rw [hbooked.value, hvalue hkept 0]
      simp only [fillsValue, totalFees, List.map_cons, List.sum_cons]
      ring

end

/-! ### Sizes -/

section
variable {side : Side}

private theorem sign_mul_signed {f : ValidFill mode symbol} (h : f.side = side) :
    side.sign * f.signed = |f.fill.quantity| := by
  rw [ValidFill.signed, h]
  cases side <;> simp [Side.sign]

private theorem sign_mul_netQuantity {fills : List (ValidFill mode symbol)}
    (h : ∀ f ∈ fills, f.side = side) :
    0 ≤ side.sign * netQuantity fills ∧ (fills ≠ [] → 0 < side.sign * netQuantity fills) := by
  induction fills with
  | nil => simp [netQuantity]
  | cons f fills ih =>
    obtain ⟨hrest, -⟩ := ih fun g hg => h g (List.mem_cons_of_mem f hg)
    have hpos : 0 < side.sign * netQuantity (f :: fills) := by
      simp only [netQuantity, List.map_cons, List.sum_cons, mul_add] at hrest ⊢
      rw [sign_mul_signed (h f List.mem_cons_self)]
      exact add_pos_of_pos_of_nonneg (epsilon_pos.trans f.not_dust) hrest
    exact ⟨hpos.le, fun _ => hpos⟩

private theorem abs_eq_abs_sign_mul (side : Side) (q : ℚ) : |q| = |side.sign * q| :=
  (side.abs_sign_mul q).symm

private theorem mul_eq_sign_mul (side : Side) (q x : ℚ) :
    q * x = side.sign * q * (side.sign * x) := by
  have hsquare : side.sign * side.sign = 1 := by cases side <;> simp [Side.sign]
  rw [mul_mul_mul_comm, hsquare, one_mul]

end

/-! ### Fills that add to a position -/

variable {f : ValidFill mode symbol} {q : ℚ}

-- Such a fill is averaged in, or it opens the position, at no cost so far.
private theorem entryPrice_mul_of_adding {side : Side} (a : ℚ) (hside : f.side = side)
    (hsign : 0 ≤ side.sign * q) :
    epsilon < |q + f.signed| ∧ 0 ≤ side.sign * (q + f.signed) ∧
      (q + f.signed) * entryPrice q a f.signed f.fill.price = q * a + f.signed * f.fill.price := by
  have hsize := sign_mul_signed hside
  have hd : epsilon < side.sign * (q + f.signed) := by
    rw [mul_add, hsize]
    linarith [f.not_dust]
  have hpos := epsilon_pos
  have hlarge : epsilon < |q + f.signed| := by
    rw [abs_eq_abs_sign_mul side]
    exact lt_of_lt_of_le hd (le_abs_self _)
  have hne : q + f.signed ≠ 0 := abs_pos.mp (hpos.trans hlarge)
  refine ⟨hlarge, (hpos.trans hd).le, ?_⟩
  by_cases hflat : q = 0
  · rw [entryPrice_of_flips hlarge (by rw [hflat, zero_mul]), hflat]
    ring
  · have hq : 0 < side.sign * q := by
      refine lt_of_le_of_ne hsign (Ne.symm ?_)
      cases side <;> simpa [Side.sign] using hflat
    have hadds : 0 < q * f.signed := by
      rw [mul_eq_sign_mul side, hsize]
      exact mul_pos hq (hpos.trans f.not_dust)
    have hkeeps : 0 < q * (q + f.signed) := by
      rw [mul_eq_sign_mul side]
      exact mul_pos hq (hpos.trans hd)
    rw [entryPrice_of_adds hlarge hkeeps hadds, mul_div_cancel₀ _ hne]

private theorem exists_booked_adding {side : Side} (fills : List (ValidFill mode symbol))
    (hside : ∀ f ∈ fills, f.side = side) {position : Option PositionState}
    (h : Tradable mode symbol position) (hstat : StatusFits position)
    (hsign : 0 ≤ side.sign * heldQuantity position) :
    ∃ final, Booked position fills final ∧ StatusFits final ∧
      heldQuantity final * heldAverage final =
        heldQuantity position * heldAverage position - fillsValue 0 fills := by
  induction fills generalizing position with
  | nil => exact ⟨position, booked_nil position, hstat, by simp [fillsValue]⟩
  | cons f fills ih =>
    obtain ⟨hlarge, hnextSign, hcost⟩ :=
      entryPrice_mul_of_adding (heldAverage position) (hside f List.mem_cons_self) hsign
    obtain ⟨next, ⟨hnext, hnextStatus⟩, hq, havg, hbooks⟩ :=
      exists_booked_cons h f ((snap_eq_self_iff _).mpr (.inr hlarge))
    obtain ⟨final, hbooked, hfinal, hrest⟩ :=
      ih (fun g hg => hside g (List.mem_cons_of_mem f hg)) hnext hnextStatus
        (by rw [hq]; exact hnextSign)
    refine ⟨final, hbooks fills final hbooked, hfinal, ?_⟩
    rw [hrest, hq, havg, hcost]
    simp only [fillsValue, List.map_cons, List.sum_cons]
    ring

/-! ### Fills that reduce a position -/

private theorem lt_neg_epsilon_of_kept {side : Side} {left : ℚ} (hsign : side.sign * q < 0)
    (hdirection : sameDirection q left) (hlarge : epsilon < |left|) :
    side.sign * left < -epsilon := by
  cases side with
  | buy =>
    simp only [Side.sign, one_mul] at hsign ⊢
    rcases hdirection with ⟨hpos, -⟩ | ⟨-, hneg⟩
    · linarith
    · rw [abs_of_neg hneg] at hlarge
      linarith
  | sell =>
    simp only [Side.sign, neg_one_mul, Left.neg_neg_iff] at hsign ⊢
    rcases hdirection with ⟨-, hpos⟩ | ⟨hneg, -⟩
    · rw [abs_of_pos hpos] at hlarge
      linarith
    · linarith

-- The position after the fill is between the one before and the one after all of them.
private theorem reducing_step {side : Side} {rest : ℚ} (hside : f.side = side)
    (hsign : side.sign * q < 0) (hrest : 0 ≤ side.sign * rest)
    (hleft : side.sign * (q + (f.signed + rest)) < -epsilon) :
    epsilon < |q + f.signed| ∧ side.sign * (q + f.signed) < 0 ∧ 0 < q * (q + f.signed) ∧
      q * f.signed ≤ 0 := by
  have hsize := sign_mul_signed hside
  have hpos := epsilon_pos
  have hafter : side.sign * (q + f.signed) < -epsilon := by
    rw [mul_add, mul_add] at hleft
    rw [mul_add]
    linarith
  have hneg : side.sign * (q + f.signed) < 0 := by linarith
  refine ⟨?_, hneg, ?_, ?_⟩
  · rw [abs_eq_abs_sign_mul side, abs_of_neg hneg]
    linarith
  · rw [mul_eq_sign_mul side]
    exact mul_pos_of_neg_of_neg hsign hneg
  · rw [mul_eq_sign_mul side, hsize]
    exact mul_nonpos_of_nonpos_of_nonneg hsign.le (abs_nonneg _)

private theorem exists_booked_reducing {side : Side} (fills : List (ValidFill mode symbol))
    (hside : ∀ f ∈ fills, f.side = side) {position : Option PositionState}
    (h : Tradable mode symbol position) (hstat : StatusFits position)
    (hsign : side.sign * heldQuantity position < 0)
    (hleft : side.sign * (heldQuantity position + netQuantity fills) < -epsilon) :
    ∃ final, Booked position fills final ∧ StatusFits final ∧
      heldAverage final = heldAverage position := by
  induction fills generalizing position with
  | nil => exact ⟨position, booked_nil position, hstat, rfl⟩
  | cons f fills ih =>
    have hsides : ∀ g ∈ fills, g.side = side := fun g hg => hside g (List.mem_cons_of_mem f hg)
    have hnet : netQuantity (f :: fills) = f.signed + netQuantity fills := by simp [netQuantity]
    rw [hnet] at hleft
    obtain ⟨hlarge, hnextSign, hkeeps, hreduces⟩ := reducing_step (hside f List.mem_cons_self)
      hsign (sign_mul_netQuantity hsides).1 hleft
    obtain ⟨next, ⟨hnext, hnextStatus⟩, hq, havg, hbooks⟩ :=
      exists_booked_cons h f ((snap_eq_self_iff _).mpr (.inr hlarge))
    obtain ⟨final, hbooked, hfinal, hrest⟩ := ih hsides hnext hnextStatus
      (by rw [hq]; exact hnextSign) (by rw [hq, add_assoc]; exact hleft)
    refine ⟨final, hbooks fills final hbooked, hfinal, ?_⟩
    rw [hrest, havg, entryPrice_of_reduces hlarge hkeeps hreduces]

/-! ### Permuted fills -/

section
variable {position final final' : Option PositionState}
  {fills fills' : List (ValidFill mode symbol)}

private theorem sums_perm (h : fills.Perm fills') :
    netQuantity fills = netQuantity fills' ∧ totalFees fills = totalFees fills' ∧
      fillsValue 0 fills = fillsValue 0 fills' :=
  ⟨(h.map _).sum_eq, (h.map _).sum_eq, (h.map _).sum_eq⟩

private theorem isSome_of_applyFills {fills : List TimedFill}
    (hopened : position.isSome = true ∨ fills ≠ []) (h : applyFills position fills = .ok final) :
    final.isSome = true := by
  induction fills generalizing position with
  | nil =>
    cases h
    exact hopened.resolve_right fun hne => hne rfl
  | cons f fills ih =>
    change (applyFill f.now position f.fill >>= _) = _ at h
    obtain ⟨update, -, hrest⟩ := bind_eq_ok_iff.mp h
    exact ih (.inl rfl) hrest

private theorem isSome_of_booked (h : Booked position fills final) (hne : fills ≠ []) :
    ∃ p, final = some p := by
  have hfills : timedFills fills ≠ [] := fun hnil => hne (List.map_eq_nil_iff.mp hnil)
  exact Option.isSome_iff_exists.mp (isSome_of_applyFills (.inr hfills) h.applied)

private theorem quantity_of_booked (hperm : fills.Perm fills')
    (hbooked : Booked position fills final) (hbooked' : Booked position fills' final') :
    heldQuantity final = heldQuantity final' := by
  rw [hbooked.quantity, hbooked'.quantity, (sums_perm hperm).1]

private theorem rel_of_booked (hperm : fills.Perm fills') (hne : fills ≠ [])
    (hbooked : Booked position fills final) (hbooked' : Booked position fills' final')
    (hstat : StatusFits final) (hstat' : StatusFits final')
    (havg : heldAverage final = heldAverage final') :
    Option.Rel PositionState.Agrees final final' := by
  have hne' : fills' ≠ [] := fun h => hne (List.perm_nil.mp (h ▸ hperm))
  obtain ⟨p, rfl⟩ := isSome_of_booked hbooked hne
  obtain ⟨p', rfl⟩ := isSome_of_booked hbooked' hne'
  have hq : p.quantity = p'.quantity := quantity_of_booked hperm hbooked hbooked'
  have hvalue : markedValue 0 (some p) = markedValue 0 (some p') := by
    rw [hbooked.value, hbooked'.value, (sums_perm hperm).2.1, (sums_perm hperm).2.2]
  refine .some ⟨hq, havg, realizedPnl_eq_of_markedValue_eq hq havg hvalue, ?_⟩
  rw [hstat p rfl, hstat' p' rfl, hq]

private theorem open_of_adding {side : Side} (hside : ∀ f ∈ fills, f.side = side)
    (hsign : 0 ≤ side.sign * heldQuantity position) (hne : fills ≠ [])
    (hbooked : Booked position fills final) : heldQuantity final ≠ 0 := by
  rw [hbooked.quantity]
  intro hflat
  have hadded := (sign_mul_netQuantity hside).2 hne
  have hz : side.sign * (heldQuantity position + netQuantity fills) = 0 := by
    rw [hflat, mul_zero]
  rw [mul_add] at hz
  linarith

private theorem statusFits_of_entered {history : List (ValidFill mode symbol)}
    (h : ∀ p ∈ position, Entered history p) : StatusFits position := by
  intro p hp
  rcases h p hp with ⟨hclosed, hflat, -⟩ | ⟨hopened, hlarge, -⟩
  · rw [hclosed, hflat, abs_zero, if_neg (not_lt.mpr epsilon_pos.le)]
  · rw [hopened, if_pos hlarge]

end

/-- **Order of fills.** From a position that valid fills lead to, fills of one side give the same
quantity, average entry price, realized profit and status in any order, when the position is flat or
on that side, or when the fills leave it open on its own side. -/
theorem applyFills_perm {history : List (ValidFill mode symbol)} {position : Option PositionState}
    (hreached : applyFills none (timedFills history) = .ok position) {side : Side}
    {fills fills' : List (ValidFill mode symbol)} (hside : ∀ f ∈ fills, f.side = side)
    (hcase : 0 ≤ side.sign * heldQuantity position ∨
      sameDirection (heldQuantity position) (heldQuantity position + netQuantity fills) ∧
        epsilon < |heldQuantity position + netQuantity fills|)
    (hperm : fills.Perm fills') :
    ∃ final final', applyFills position (timedFills fills) = .ok final ∧
      applyFills position (timedFills fills') = .ok final' ∧
      Option.Rel PositionState.Agrees final final' := by
  obtain ⟨position', hall, htradable, hentered⟩ := exists_entered history
  obtain rfl : position' = position := Except.ok.inj (hall.symm.trans hreached)
  have hstatus := statusFits_of_entered hentered
  have hside' : ∀ f ∈ fills', f.side = side := fun f hf => hside f (hperm.mem_iff.mpr hf)
  by_cases hempty : fills = []
  · subst hempty
    obtain rfl := hperm.nil_eq
    refine ⟨position', position', rfl, rfl, ?_⟩
    cases position' with
    | none => exact .none
    | some p => exact .some ⟨rfl, rfl, rfl, rfl⟩
  by_cases hsign : 0 ≤ side.sign * heldQuantity position'
  · obtain ⟨final, hbooked, hfinal, hcost⟩ :=
      exists_booked_adding fills hside htradable hstatus hsign
    obtain ⟨final', hbooked', hfinal', hcost'⟩ :=
      exists_booked_adding fills' hside' htradable hstatus hsign
    refine ⟨_, _, hbooked.applied, hbooked'.applied, ?_⟩
    apply rel_of_booked hperm hempty hbooked hbooked' hfinal hfinal'
    -- one cost over one quantity
    apply mul_left_cancel₀ (open_of_adding hside hsign hempty hbooked)
    rw [hcost, quantity_of_booked hperm hbooked hbooked', hcost', (sums_perm hperm).2.2]
  · rw [not_le] at hsign
    obtain ⟨hdirection, hlarge⟩ := hcase.resolve_left (not_le.mpr hsign)
    have hleft : side.sign * (heldQuantity position' + netQuantity fills) < -epsilon :=
      lt_neg_epsilon_of_kept hsign hdirection hlarge
    have hleft' : side.sign * (heldQuantity position' + netQuantity fills') < -epsilon := by
      rw [← (sums_perm hperm).1]
      exact hleft
    obtain ⟨final, hbooked, hfinal, haverage⟩ :=
      exists_booked_reducing fills hside htradable hstatus hsign hleft
    obtain ⟨final', hbooked', hfinal', haverage'⟩ :=
      exists_booked_reducing fills' hside' htradable hstatus hsign hleft'
    exact ⟨_, _, hbooked.applied, hbooked'.applied,
      rel_of_booked hperm hempty hbooked hbooked' hfinal hfinal' (haverage.trans haverage'.symm)⟩

private def halfSold : ValidFill "MOCK" "BTC/USDT" := sold (1 / 2) (1 / 4) (by norm_num [epsilon])

private def oneSold : ValidFill "MOCK" "BTC/USDT" := sold 1 (1 / 8) (by norm_num [epsilon])

/-- One and a half of two coins are sold, the half first or last. -/
theorem applyFills_perm_sold : ∃ final final',
    applyFills (some ⟨"MOCK", "BTC/USDT", 2, 100, 0, .opened, "2026-03-01T09:00:00Z"⟩)
        (timedFills [halfSold, oneSold]) = .ok final ∧
      applyFills (some ⟨"MOCK", "BTC/USDT", 2, 100, 0, .opened, "2026-03-01T09:00:00Z"⟩)
        (timedFills [oneSold, halfSold]) = .ok final' ∧
      Option.Rel PositionState.Agrees final final' := by
  have hreached : applyFills none (timedFills [twoBought]) =
      .ok (some ⟨"MOCK", "BTC/USDT", 2, 100, 0, .opened, "2026-03-01T09:00:00Z"⟩) := by
    decide +kernel
  have hside : ∀ f ∈ [halfSold, oneSold], f.side = .sell := by
    intro f hf
    rcases List.mem_pair.mp hf with rfl | rfl
    · rfl
    · rfl
  have hleft : (2 : ℚ) + netQuantity [halfSold, oneSold] = 1 / 2 := by
    norm_num [netQuantity, halfSold, oneSold, sold, ValidFill.signed, Side.sign]
  refine applyFills_perm hreached hside (.inr ?_) (List.Perm.swap _ _ [])
  change sameDirection 2 (2 + netQuantity [halfSold, oneSold]) ∧
    epsilon < |2 + netQuantity [halfSold, oneSold]|
  rw [hleft]
  norm_num [sameDirection, epsilon]

end OpenTrader.Oms
