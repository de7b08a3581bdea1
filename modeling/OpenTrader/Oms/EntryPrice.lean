import Mathlib.Algebra.Order.Field.Basic
import OpenTrader.Oms.PositionHistory

/-!
# The average entry price

Library `Oms`. `services/oms/position_engine.py:61-94` over whole histories. The average entry price
lies within the prices of the fills that built the position up, and a fill can be split without a
trace, across a close or a flip as well.
-/

namespace OpenTrader.Oms
open Base

/-! ### One fill -/

/-- Average entry price after a fill: the fill's own when it opens or flips the position, weighted
when it adds to it and the old one when it reduces it. A flat position has none. -/
def entryPrice (p a s x : ℚ) : ℚ :=
  if |p + s| ≤ epsilon then 0
  else if p * (p + s) ≤ 0 then x
  else if 0 < p * s then (p * a + s * x) / (p + s)
  else a

variable {p s : ℚ}

private theorem sameDirection_iff : sameDirection p s ↔ 0 < p * s := mul_pos_iff.symm

private theorem abs_of_opposite (h : p * s < 0) :
    |p + s| = |(|p| - |s|)| ∧ (p * (p + s) ≤ 0 ↔ |p| ≤ |s|) := by
  rcases mul_neg_iff.mp h with ⟨hp, hs⟩ | ⟨hp, hs⟩
  · rw [abs_of_pos hp, abs_of_neg hs, sub_neg_eq_add]
    refine ⟨rfl, ?_⟩
    rw [← not_lt, mul_pos_iff_of_pos_left hp, not_lt]
    constructor <;> intro h' <;> linarith
  · rw [abs_of_neg hp, abs_of_pos hs]
    refine ⟨?_, ?_⟩
    · rw [← abs_neg]
      ring_nf
    · rw [← not_lt, ← neg_mul_neg, mul_pos_iff_of_pos_left (neg_pos.mpr hp), not_lt]
      constructor <;> intro h' <;> linarith

private theorem net_average (a x : ℚ) (hp : snap p = p) (hs : epsilon < |s|) :
    (net p a s x).average = entryPrice p a s x := by
  rcases (snap_eq_self_iff p).mp hp with rfl | hp
  · rw [net, if_pos (by simpa using epsilon_pos.le), if_pos hs, entryPrice, zero_add,
      if_neg (not_le.mpr hs), if_pos (by simp)]
  have hp0 : p ≠ 0 := abs_pos.mp (epsilon_pos.trans hp)
  have hs0 : s ≠ 0 := abs_pos.mp (epsilon_pos.trans hs)
  rw [net, if_neg (not_le.mpr hp)]
  by_cases hdir : sameDirection p s
  · have hpos : 0 < p * s := sameDirection_iff.mp hdir
    have hsum : |p + s| = |p| + |s| := abs_add_eq_add_abs_iff p s |>.mpr <| by
      rcases hdir with ⟨h₁, h₂⟩ | ⟨h₁, h₂⟩
      · exact .inl ⟨h₁.le, h₂.le⟩
      · exact .inr ⟨h₁.le, h₂.le⟩
    have hkept : ¬ p * (p + s) ≤ 0 := by
      rw [mul_add, not_le]
      exact add_pos (mul_self_pos.mpr hp0) hpos
    have hd : ¬ |p + s| ≤ epsilon := by
      rw [hsum, not_le]
      linarith [abs_nonneg s]
    rw [if_pos hdir, entryPrice, if_neg hd, if_neg hkept, if_pos hpos]
    rcases hdir with ⟨h₁, h₂⟩ | ⟨h₁, h₂⟩
    · simp only [abs_of_pos h₁, abs_of_pos h₂, abs_of_pos (add_pos h₁ h₂)]
    · simp only [abs_of_neg h₁, abs_of_neg h₂, abs_of_neg (add_neg h₁ h₂)]
      rw [← neg_div_neg_eq]
      ring_nf
  · have hneg : p * s < 0 := by
      rw [sameDirection_iff, not_lt] at hdir
      exact lt_of_le_of_ne hdir (mul_ne_zero hp0 hs0)
    obtain ⟨hsize, hside⟩ := abs_of_opposite hneg
    rw [if_neg hdir, entryPrice, if_neg (not_lt.mpr hneg.le)]
    simp only [hsize, hside, gt_iff_lt]
    rcases le_or_gt |p| |s| with hle | hlt
    · -- the fill closes the position, and opens the other side unless dust remains
      rw [min_eq_left hle, abs_sub_comm, abs_of_nonneg (sub_nonneg.mpr hle), if_pos hle]
      by_cases h : epsilon < |s| - |p|
      · rw [if_pos h, if_neg (not_le.mpr h)]
      · rw [if_neg h, if_pos (not_lt.mp h), if_pos (not_lt.mp h)]
    · rw [min_eq_right hlt.le, sub_self, if_neg (not_lt.mpr epsilon_pos.le),
        if_neg (not_le.mpr hlt)]
      by_cases h : |(|p| - |s|)| ≤ epsilon
      · rw [if_pos h, if_pos h]
      · rw [if_neg h, if_neg h]

variable {a : ℚ} {update : PositionUpdate} {x q t : ℚ}

private theorem weighted_between (h : 0 < p * s) (hax : a ≤ x) :
    a ≤ (p * a + s * x) / (p + s) ∧ (p * a + s * x) / (p + s) ≤ x := by
  rcases mul_pos_iff.mp h with ⟨hp, hs⟩ | ⟨hp, hs⟩
  · rw [le_div_iff₀ (add_pos hp hs), div_le_iff₀ (add_pos hp hs)]
    constructor
    · linarith [mul_le_mul_of_nonneg_left hax hs.le]
    · linarith [mul_le_mul_of_nonneg_left hax hp.le]
  · rw [le_div_iff_of_neg (add_neg hp hs), div_le_iff_of_neg (add_neg hp hs)]
    constructor
    · linarith [mul_le_mul_of_nonpos_left hax hs.le]
    · linarith [mul_le_mul_of_nonpos_left hax hp.le]

variable {mode symbol : String}

variable {position : Option PositionState}

/-- A valid fill leaves a tradable position with its entry price, open unless it is flat; the marked
value is carried as long as no dust is dropped. -/
theorem applyFill_entryPrice (h : Tradable mode symbol position) (f : ValidFill mode symbol) :
    ∃ update, applyFill f.now position f.fill = .ok update ∧
      Tradable mode symbol (some update.current) ∧
      update.current.quantity = snap (heldQuantity position + f.signed) ∧
      update.current.averageEntryPrice =
        entryPrice (heldQuantity position) (heldAverage position) f.signed f.fill.price ∧
      update.current.status =
        (if |update.current.quantity| > epsilon then .opened else .closed) ∧
      (snap (heldQuantity position + f.signed) = heldQuantity position + f.signed → ∀ mark,
        markedValue mark (some update.current) =
          markedValue mark position + f.signed * (mark - f.fill.price) - |f.fill.fee|) := by
  obtain ⟨update, hok, htradable, hq, hvalue⟩ := applyFill_valid h f
  obtain ⟨hd, -, -, havg, -⟩ := current_of_applyFill hok f.side_eq
  refine ⟨update, hok, htradable, hq, ?_, ?_, hvalue⟩
  · rw [havg, net_average _ _ h.settled hd]
    rfl
  · obtain ⟨side, -, -, -, rfl⟩ := (applyFill_eq_ok_iff _ _ _ _).mp hok
    rfl

/-! ### The fills that built a position up -/

/-- The fills of a history with the positions they leave. -/
def trail : Option PositionState → List (ValidFill mode symbol) →
    List (ValidFill mode symbol × PositionState)
  | _, [] => []
  | position, f :: fills =>
    match applyFill f.now position f.fill with
    | .error _ => []
    | .ok update => (f, update.current) :: trail (some update.current) fills

/-- The fills since a position of this quantity was last flat or flipped, the latest first: the
position had the direction of the quantity after each of them. -/
def sinceOpened (fills : List (ValidFill mode symbol)) (quantity : ℚ) :
    List (ValidFill mode symbol) :=
  ((trail none fills).reverse.takeWhile fun e => sameDirection e.2.quantity quantity).map (·.1)

/-- Those of them that are on the side of the position. -/
def builders (fills : List (ValidFill mode symbol)) (quantity : ℚ) : List (ValidFill mode symbol) :=
  (sinceOpened fills quantity).filter fun f => sameDirection f.signed quantity

/-- The position is flat, closed and without entry price, or it is open, no dust, and its average
entry price lies within the prices of the fills that built it up. -/
def Entered (fills : List (ValidFill mode symbol)) (p : PositionState) : Prop :=
  (p.status = .closed ∧ p.quantity = 0 ∧ p.averageEntryPrice = 0) ∨
    (p.status = .opened ∧ epsilon < |p.quantity| ∧
      ∃ low ∈ builders fills p.quantity, ∃ high ∈ builders fills p.quantity,
        low.fill.price ≤ p.averageEntryPrice ∧ p.averageEntryPrice ≤ high.fill.price)

variable {fills : List (ValidFill mode symbol)} {f : ValidFill mode symbol}

private theorem applyFills_concat {start : Option PositionState}
    (h : applyFills start (timedFills fills) = .ok position)
    (hf : applyFill f.now position f.fill = .ok update) :
    applyFills start (timedFills (fills ++ [f])) = .ok (some update.current) ∧
      trail start (fills ++ [f]) = trail start fills ++ [(f, update.current)] := by
  induction fills generalizing start with
  | nil =>
    cases h
    constructor
    · change (applyFill f.now position f.fill >>= _) = _
      rw [hf]
      rfl
    · simp only [List.nil_append, trail, hf]
  | cons g fills ih =>
    change (applyFill g.now start g.fill >>= _) = _ at h
    cases hg : applyFill g.now start g.fill with
    | error e =>
      rw [hg] at h
      cases h
    | ok first =>
      rw [hg] at h
      obtain ⟨hall, htrail⟩ := ih h
      constructor
      · change (applyFill g.now start g.fill >>= _) = _
        rw [hg]
        exact hall
      · simp only [List.cons_append, trail, hg, htrail]

private theorem mem_builders_concat {p : PositionState} (h0 : p.quantity ≠ 0)
    (htrail : trail none (fills ++ [f]) = trail none fills ++ [(f, p)])
    (hside : sameDirection f.signed p.quantity) : f ∈ builders (fills ++ [f]) p.quantity := by
  have hself : sameDirection p.quantity p.quantity := sameDirection_iff.mpr (mul_self_pos.mpr h0)
  rw [builders, sinceOpened, htrail, List.reverse_concat, List.takeWhile_cons_of_pos (by simpa)]
  simp [hside]

private theorem builders_subset_concat {p : PositionState} {quantity : ℚ}
    (htrail : trail none (fills ++ [f]) = trail none fills ++ [(f, p)])
    (hdir : sameDirection quantity p.quantity) :
    builders fills quantity ⊆ builders (fills ++ [f]) p.quantity := by
  have hsame (q : ℚ) : sameDirection q p.quantity ↔ sameDirection q quantity := by
    unfold sameDirection at hdir ⊢
    grind
  have hself : sameDirection p.quantity p.quantity := (hsame _).mpr (by
    unfold sameDirection at hdir ⊢
    grind)
  intro g hg
  rw [builders, sinceOpened, htrail, List.reverse_concat, List.takeWhile_cons_of_pos (by simpa)]
  simp only [hsame, List.map_cons, List.filter_cons]
  split
  · exact List.mem_cons_of_mem f hg
  · exact hg

private def Within (fills : List (ValidFill mode symbol)) (price : ℚ) : Prop :=
  ∃ low ∈ fills, ∃ high ∈ fills, low.fill.price ≤ price ∧ price ≤ high.fill.price

private theorem within_price (hf : f ∈ fills) : Within fills f.fill.price :=
  ⟨f, hf, f, hf, le_rfl, le_rfl⟩

private theorem Within.mono {fills' : List (ValidFill mode symbol)} {price : ℚ}
    (h : Within fills price) (hsub : fills ⊆ fills') : Within fills' price := by
  obtain ⟨low, hlow, high, hhigh, hle, hge⟩ := h
  exact ⟨low, hsub hlow, high, hsub hhigh, hle, hge⟩

private theorem Within.weighted (h : Within fills a) (hf : f ∈ fills) (hadds : 0 < q * f.signed) :
    Within fills ((q * a + f.signed * f.fill.price) / (q + f.signed)) := by
  obtain ⟨low, hlow, high, hhigh, hle, hge⟩ := h
  rcases le_total a f.fill.price with hax | hax
  · obtain ⟨h₁, h₂⟩ := weighted_between hadds hax
    exact ⟨low, hlow, f, hf, hle.trans h₁, h₂⟩
  · have hadds' : 0 < f.signed * q := by rwa [mul_comm]
    obtain ⟨h₁, h₂⟩ := weighted_between hadds' hax
    rw [add_comm (f.signed * _), add_comm f.signed] at h₁ h₂
    exact ⟨f, hf, high, hhigh, h₁, h₂.trans hge⟩

private theorem within_builders (hentered : ∀ p ∈ position, Entered fills p)
    (h0 : heldQuantity position ≠ 0) :
    Within (builders fills (heldQuantity position)) (heldAverage position) := by
  cases position with
  | none => exact absurd rfl h0
  | some p =>
    rcases hentered p rfl with ⟨-, hz, -⟩ | ⟨-, -, hbuilt⟩
    · exact absurd hz h0
    · exact hbuilt

private theorem entered_concat (hentered : ∀ p ∈ position, Entered fills p)
    (htrail : trail none (fills ++ [f]) = trail none fills ++ [(f, update.current)])
    (hq : update.current.quantity = snap (heldQuantity position + f.signed))
    (havg : update.current.averageEntryPrice =
      entryPrice (heldQuantity position) (heldAverage position) f.signed f.fill.price)
    (hstat : update.current.status =
      if |update.current.quantity| > epsilon then .opened else .closed) :
    Entered (fills ++ [f]) update.current := by
  have hbuilt := within_builders hentered
  generalize heldQuantity position = q at hq havg hbuilt
  generalize heldAverage position = a at havg hbuilt
  by_cases hd : |q + f.signed| ≤ epsilon
  · have hflat : update.current.quantity = 0 := hq.trans (if_pos hd)
    refine .inl ⟨?_, hflat, havg.trans (if_pos hd)⟩
    rw [hstat, hflat, abs_zero, if_neg (not_lt.mpr epsilon_pos.le)]
  · have hkept : update.current.quantity = q + f.signed := hq.trans (if_neg hd)
    have h0 : q + f.signed ≠ 0 := abs_pos.mp (epsilon_pos.trans (not_le.mp hd))
    rw [entryPrice, if_neg hd] at havg
    rw [hkept, if_pos (not_le.mp hd)] at hstat
    refine .inr ⟨hstat, by rw [hkept]; exact not_le.mp hd, ?_⟩
    change Within (builders (fills ++ [f]) update.current.quantity) update.current.averageEntryPrice
    have hm (hside : 0 < f.signed * (q + f.signed)) :
        f ∈ builders (fills ++ [f]) update.current.quantity := by
      apply mem_builders_concat (by rwa [hkept]) htrail
      rw [hkept]
      exact sameDirection_iff.mpr hside
    by_cases hflip : q * (q + f.signed) ≤ 0
    · -- the fill opened or flipped the position
      have hsquare : 0 < (q + f.signed) * (q + f.signed) := mul_self_pos.mpr h0
      rw [havg, if_pos hflip]
      exact within_price (hm (by linarith))
    · have hbuilt : Within (builders (fills ++ [f]) update.current.quantity) a := by
        refine (hbuilt fun hz => hflip (by simp [hz])).mono ?_
        apply builders_subset_concat htrail
        rw [hkept]
        exact sameDirection_iff.mpr (not_le.mp hflip)
      rw [havg, if_neg hflip]
      by_cases hadds : 0 < q * f.signed
      · rw [if_pos hadds]
        have hsquare := mul_self_nonneg f.signed
        exact hbuilt.weighted (hm (by linarith)) hadds
      · rw [if_neg hadds]
        exact hbuilt

/-- The run of a history: every fill is admitted, and the position it leads to is tradable and
entered by its fills. -/
theorem exists_entered (fills : List (ValidFill mode symbol)) :
    ∃ position, applyFills none (timedFills fills) = .ok position ∧
      Tradable mode symbol position ∧ ∀ p ∈ position, Entered fills p := by
  induction fills using List.reverseRecOn with
  | nil =>
    refine ⟨none, rfl, ⟨by simp, ?_⟩, by simp⟩
    exact (snap_eq_self_iff 0).mpr (.inl rfl)
  | append_singleton fills f ih =>
    obtain ⟨position, hall, htradable, hentered⟩ := ih
    obtain ⟨update, hok, hnext, hq, havg, hstat, -⟩ :=
      applyFill_entryPrice htradable f
    obtain ⟨hall', htrail⟩ := applyFills_concat hall hok
    refine ⟨some update.current, hall', hnext, ?_⟩
    rintro p ⟨⟩
    exact entered_concat hentered htrail hq havg hstat

/-- **Entry price.** Valid fills applied from no position are all admitted, and the position they
lead to is flat, closed and without entry price, or open, no dust, with an average entry price
within the prices of the fills on its side since it was last flat or flipped. -/
theorem position_entered (fills : List (ValidFill mode symbol)) :
    ∃ position, applyFills none (timedFills fills) = .ok position ∧
      ∀ p ∈ position, Entered fills p := by
  obtain ⟨position, hall, -, hentered⟩ := exists_entered fills
  exact ⟨position, hall, hentered⟩

/-! ### Split fills -/

/-- A fill and two pieces of it: the same side and price, quantities and fees that add up, and no
piece is dust. -/
structure SplitFill (mode symbol : String) where
  whole : ValidFill mode symbol
  first : ValidFill mode symbol
  second : ValidFill mode symbol
  side_eq : first.side = whole.side ∧ second.side = whole.side
  price_eq : first.fill.price = whole.fill.price ∧ second.fill.price = whole.fill.price
  not_dust_pieces : epsilon < first.fill.quantity ∧ epsilon < second.fill.quantity
  quantity_eq : whole.fill.quantity = first.fill.quantity + second.fill.quantity
  fee_nonneg : 0 ≤ first.fill.fee ∧ 0 ≤ second.fill.fee
  fee_eq : whole.fill.fee = first.fill.fee + second.fill.fee

private theorem SplitFill.signed_eq (f : SplitFill mode symbol) :
    f.whole.signed = f.first.signed + f.second.signed ∧ 0 < f.first.signed * f.second.signed := by
  have hpos := epsilon_pos
  have h₁ : 0 < f.first.fill.quantity := hpos.trans f.not_dust_pieces.1
  have h₂ : 0 < f.second.fill.quantity := hpos.trans f.not_dust_pieces.2
  have hsquare : f.whole.side.sign * f.whole.side.sign = 1 := by
    cases f.whole.side <;> simp [Side.sign]
  unfold ValidFill.signed
  rw [f.side_eq.1, f.side_eq.2, f.quantity_eq, abs_of_pos h₁, abs_of_pos h₂,
    abs_of_pos (add_pos h₁ h₂)]
  refine ⟨by ring, ?_⟩
  rw [mul_mul_mul_comm, hsquare, one_mul]
  exact mul_pos h₁ h₂

private theorem entryPrice_neg (p a s x : ℚ) : entryPrice (-p) a (-s) x = entryPrice p a s x := by
  have hsum : -p + -s = -(p + s) := by ring
  have havg : (-p * a + -s * x) / -(p + s) = (p * a + s * x) / (p + s) := by
    rw [← neg_div_neg_eq]
    ring_nf
  simp only [entryPrice, hsum, abs_neg, neg_mul_neg, havg]

/-- A fill in the direction of the position is averaged in. -/
theorem entryPrice_of_adds (h : epsilon < |p + s|) (hside : 0 < p * (p + s)) (hadds : 0 < p * s) :
    entryPrice p a s x = (p * a + s * x) / (p + s) := by
  rw [entryPrice, if_neg (not_le.mpr h), if_neg (not_le.mpr hside), if_pos hadds]

/-- A fill that opens or flips a position sets its price. -/
theorem entryPrice_of_flips (h : epsilon < |p + s|) (hside : p * (p + s) ≤ 0) :
    entryPrice p a s x = x := by
  rw [entryPrice, if_neg (not_le.mpr h), if_pos hside]

/-- A fill that reduces a position leaves its price. -/
theorem entryPrice_of_reduces (h : epsilon < |p + s|) (hside : 0 < p * (p + s))
    (hadds : p * s ≤ 0) :
    entryPrice p a s x = a := by
  rw [entryPrice, if_neg (not_le.mpr h), if_neg (not_le.mpr hside), if_neg (not_lt.mpr hadds)]

private theorem weighted_self (x : ℚ) (h : q + t ≠ 0) : (q * x + t * x) / (q + t) = x := by
  rw [← add_mul, mul_div_cancel_left₀ x h]

private theorem entryPrice_split_of_pos {p a s t x : ℚ} (hs : 0 < s) (ht : 0 < t)
    (hfst : snap (p + s) = p + s) :
    entryPrice (p + s) (entryPrice p a s x) t x = entryPrice p a (s + t) x := by
  by_cases hd : |p + (s + t)| ≤ epsilon
  · have hdust' : |p + s + t| ≤ epsilon := by rwa [add_assoc]
    rw [entryPrice, if_pos hdust', entryPrice, if_pos hd]
  have hlast : epsilon < |p + (s + t)| := not_le.mp hd
  have hlast' : epsilon < |p + s + t| := by rwa [add_assoc]
  have hnext : p + s ≠ 0 → epsilon < |p + s| := fun h0 =>
    ((snap_eq_self_iff _).mp hfst).resolve_left h0
  rcases lt_or_ge p 0 with hp | hp
  · -- the pieces are bought against a short position: the split can stand on either side of zero
    have hreduces : p * (s + t) ≤ 0 := mul_nonpos_of_nonpos_of_nonneg hp.le (add_pos hs ht).le
    rcases lt_trichotomy (p + s) 0 with hq | hq | hq
    · have hinner : entryPrice p a s x = a := entryPrice_of_reduces (hnext hq.ne)
        (mul_pos_of_neg_of_neg hp hq) (mul_nonpos_of_nonpos_of_nonneg hp.le hs.le)
      rw [hinner]
      rcases lt_or_ge (p + s + t) 0 with hr | hr
      · have hr' : p + (s + t) < 0 := by rwa [← add_assoc]
        rw [entryPrice_of_reduces hlast' (mul_pos_of_neg_of_neg hq hr)
            (mul_nonpos_of_nonpos_of_nonneg hq.le ht.le),
          entryPrice_of_reduces hlast (mul_pos_of_neg_of_neg hp hr') hreduces]
      · have hr' : 0 ≤ p + (s + t) := by rwa [← add_assoc]
        rw [entryPrice_of_flips hlast' (mul_nonpos_of_nonpos_of_nonneg hq.le hr),
          entryPrice_of_flips hlast (mul_nonpos_of_nonpos_of_nonneg hp.le hr')]
    · have hr : 0 ≤ p + (s + t) := by linarith
      rw [entryPrice_of_flips hlast' (by rw [hq]; simp),
        entryPrice_of_flips hlast (mul_nonpos_of_nonpos_of_nonneg hp.le hr)]
    · have hr : 0 < p + s + t := add_pos hq ht
      have hr' : 0 ≤ p + (s + t) := by linarith
      rw [entryPrice_of_flips (hnext hq.ne') (mul_nonpos_of_nonpos_of_nonneg hp.le hq.le),
        entryPrice_of_adds hlast' (mul_pos hq hr) (mul_pos hq ht), weighted_self x hr.ne',
        entryPrice_of_flips hlast (mul_nonpos_of_nonpos_of_nonneg hp.le hr')]
  · have hq : 0 < p + s := by linarith
    have hr : 0 < p + s + t := add_pos hq ht
    rw [entryPrice_of_adds hlast' (mul_pos hq hr) (mul_pos hq ht)]
    rcases hp.eq_or_lt with rfl | hp
    · rw [entryPrice_of_flips (hnext hq.ne') (by simp), weighted_self x hr.ne',
        entryPrice_of_flips hlast (by simp)]
    · have hr' : 0 < p + (s + t) := by linarith
      rw [entryPrice_of_adds (hnext hq.ne') (mul_pos hp hq) (mul_pos hp hs),
        entryPrice_of_adds hlast (mul_pos hp hr') (mul_pos hp (add_pos hs ht)),
        mul_div_cancel₀ _ hq.ne']
      ring_nf

private theorem entryPrice_split (hst : 0 < s * t) (hfst : snap (p + s) = p + s) :
    entryPrice (p + s) (entryPrice p a s x) t x = entryPrice p a (s + t) x := by
  rcases mul_pos_iff.mp hst with ⟨hs, ht⟩ | ⟨hs, ht⟩
  · exact entryPrice_split_of_pos hs ht hfst
  · have hfst' : snap (-p + -s) = -p + -s := by
      rw [snap_eq_self_iff] at hfst ⊢
      rw [← neg_add, neg_eq_zero, abs_neg]
      exact hfst
    have h := @entryPrice_split_of_pos (-p) a (-s) (-t) x (neg_pos.mpr hs) (neg_pos.mpr ht) hfst'
    rwa [← neg_add, entryPrice_neg, entryPrice_neg, ← neg_add, entryPrice_neg] at h

/-- The parts of a position that a fill decides. -/
def PositionState.Agrees (p q : PositionState) : Prop :=
  p.quantity = q.quantity ∧ p.averageEntryPrice = q.averageEntryPrice ∧
    p.realizedPnl = q.realizedPnl ∧ p.status = q.status

/-- The profits agree with the marked values when quantity and entry price do. -/
theorem realizedPnl_eq_of_markedValue_eq {p q : PositionState}
    (hquantity : p.quantity = q.quantity) (haverage : p.averageEntryPrice = q.averageEntryPrice)
    (hvalue : markedValue 0 (some p) = markedValue 0 (some q)) : p.realizedPnl = q.realizedPnl := by
  simp only [markedValue, heldPnl, heldQuantity, heldAverage, Option.map_some, Option.getD_some,
    hquantity, haverage] at hvalue
  linarith

/-- **Split fills.** Applied to a position that valid fills lead to, a fill and its two pieces one
after the other give the same quantity, average entry price, realized profit and status, provided
no net position on the way is dust. -/
theorem applyFills_split {history : List (ValidFill mode symbol)} {position : Option PositionState}
    (hreached : applyFills none (timedFills history) = .ok position) (f : SplitFill mode symbol)
    (hdust : NoDust (heldQuantity position) [f.first, f.second]) :
    ∃ once twice, applyFills position (timedFills [f.whole]) = .ok (some once) ∧
      applyFills position (timedFills [f.first, f.second]) = .ok (some twice) ∧
      once.Agrees twice := by
  obtain ⟨position', hall, htradable, -⟩ := exists_entered history
  obtain rfl : position' = position := Except.ok.inj (hall.symm.trans hreached)
  obtain ⟨hsigned, hdirection⟩ := f.signed_eq
  obtain ⟨hfirst, hsecond, -⟩ := hdust
  have hwhole : snap (heldQuantity position' + f.whole.signed) =
      heldQuantity position' + f.whole.signed := by
    rw [hsigned, ← add_assoc]
    exact hsecond
  obtain ⟨once, hok, -, hq, ha, hs, hvalue⟩ := applyFill_entryPrice htradable f.whole
  obtain ⟨one, hok₁, htradable₁, hq₁, ha₁, -, hvalue₁⟩ := applyFill_entryPrice htradable f.first
  obtain ⟨two, hok₂, -, hq₂, ha₂, hs₂, hvalue₂⟩ := applyFill_entryPrice htradable₁ f.second
  have hheld : heldQuantity (some one.current) = heldQuantity position' + f.first.signed :=
    hq₁.trans hfirst
  have haverage : heldAverage (some one.current) = entryPrice (heldQuantity position')
      (heldAverage position') f.first.signed f.first.fill.price := ha₁
  rw [hheld] at hq₂ ha₂ hvalue₂
  have hquantity : once.current.quantity = two.current.quantity := by
    rw [hq, hq₂, hsigned, add_assoc]
  have hentry : once.current.averageEntryPrice = two.current.averageEntryPrice := by
    rw [ha, ha₂, haverage, hsigned, f.price_eq.1, f.price_eq.2]
    exact (entryPrice_split hdirection hfirst).symm
  have hmarked : markedValue 0 (some once.current) = markedValue 0 (some two.current) := by
    rw [hvalue hwhole 0, hvalue₂ hsecond 0, hvalue₁ hfirst 0, f.price_eq.1, f.price_eq.2, hsigned,
      f.fee_eq, abs_of_nonneg f.fee_nonneg.1, abs_of_nonneg f.fee_nonneg.2,
      abs_of_nonneg (add_nonneg f.fee_nonneg.1 f.fee_nonneg.2)]
    ring
  refine ⟨once.current, two.current, ?_, ?_, hquantity, hentry,
    realizedPnl_eq_of_markedValue_eq hquantity hentry hmarked, ?_⟩
  · change (applyFill f.whole.now position' f.whole.fill >>= _) = _
    rw [hok]
    rfl
  · change (applyFill f.first.now position' f.first.fill >>= fun update =>
      applyFill f.second.now (some update.current) f.second.fill >>= _) = _
    rw [hok₁]
    change (applyFill f.second.now (some one.current) f.second.fill >>= _) = _
    rw [hok₂]
    rfl
  · rw [hs, hs₂, hquantity]

private theorem parseSide_names : parseSide "BUY" = some .buy ∧ parseSide "SELL" = some .sell := by
  decide +kernel

/-- Two coins bought. -/
def twoBought : ValidFill "MOCK" "BTC/USDT" where
  now := "2026-03-01T09:00:00Z"
  fill :=
    { orderId := "o-1", mode := "MOCK", symbol := "BTC/USDT", side := "BUY", quantity := 2,
      price := 100 }
  side := .buy
  mode_eq := rfl
  symbol_eq := rfl
  side_eq := parseSide_names.1
  not_dust := by norm_num [epsilon]

/-- A quantity of coins sold at 110. -/
def sold (quantity fee : ℚ) (h : epsilon < |quantity|) : ValidFill "MOCK" "BTC/USDT" where
  now := "2026-03-01T09:00:01Z"
  fill :=
    { orderId := "o-2", mode := "MOCK", symbol := "BTC/USDT", side := "SELL", quantity,
      price := 110, fee }
  side := .sell
  mode_eq := rfl
  symbol_eq := rfl
  side_eq := parseSide_names.2
  not_dust := h

/-- Three coins sold, in two pieces. -/
def threeSold : SplitFill "MOCK" "BTC/USDT" where
  whole := sold 3 (1 / 2) (by norm_num [epsilon])
  first := sold (3 / 2) (1 / 4) (by norm_num [epsilon])
  second := sold (3 / 2) (1 / 4) (by norm_num [epsilon])
  side_eq := ⟨rfl, rfl⟩
  price_eq := ⟨rfl, rfl⟩
  not_dust_pieces := by norm_num [sold, epsilon]
  quantity_eq := by norm_num [sold]
  fee_nonneg := by norm_num [sold]
  fee_eq := by norm_num [sold]

/-- The position of two coins is closed within the second piece and opened on the other side. -/
theorem applyFills_split_flip : ∃ once twice,
    applyFills (some ⟨"MOCK", "BTC/USDT", 2, 100, 0, .opened, "2026-03-01T09:00:00Z"⟩)
        (timedFills [threeSold.whole]) = .ok (some once) ∧
      applyFills (some ⟨"MOCK", "BTC/USDT", 2, 100, 0, .opened, "2026-03-01T09:00:00Z"⟩)
        (timedFills [threeSold.first, threeSold.second]) = .ok (some twice) ∧
      once.Agrees twice := by
  have hreached : applyFills none (timedFills [twoBought]) =
      .ok (some ⟨"MOCK", "BTC/USDT", 2, 100, 0, .opened, "2026-03-01T09:00:00Z"⟩) := by
    decide +kernel
  apply applyFills_split hreached threeSold
  simp only [NoDust, snap_eq_self_iff]
  norm_num [heldQuantity, threeSold, sold, ValidFill.signed, Side.sign, epsilon]

end OpenTrader.Oms
