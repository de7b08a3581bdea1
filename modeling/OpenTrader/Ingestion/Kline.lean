import Mathlib.Data.Int.ModEq
import Mathlib.Data.List.Sort
import OpenTrader.Base.PyFloat
import OpenTrader.Base.SteppedRange

/-!
# Candle validation

Library `Ingestion`. `services/market_ingestion/kline_validator.py:7-67`. The order of the bars is
checked on the list as it comes, the gaps on a copy sorted by open time, in which bars of one open
time are passed over. The finite prices and volumes are exact; a bar is refused for a comparison
that is true, so one with a NaN in it is refused for none of its comparisons.
-/

namespace OpenTrader.Ingestion
open Base

/-- `KlineBar`. -/
structure KlineBar where
  openTimeMs : ℤ
  openPrice : PyFloat
  high : PyFloat
  low : PyFloat
  close : PyFloat
  volume : PyFloat
  deriving DecidableEq

/-- What a validation can find wrong. -/
inductive KlineError where
  | notIncreasing
  | highLow (openTimeMs : ℤ)
  | volume (openTimeMs : ℤ)
  | interval (prevOpen currOpen : ℤ)
  deriving DecidableEq

/-- Text of an error. -/
def KlineError.text : KlineError → String
  | .notIncreasing => "Kline open times must be strictly monotonic increasing"
  | .highLow openTimeMs => "Kline high/low consistency violated at " ++ toString openTimeMs
  | .volume openTimeMs => "Kline volume must be non-negative at " ++ toString openTimeMs
  | .interval prevOpen currOpen =>
    "Kline interval mismatch between " ++ toString prevOpen ++ " and " ++ toString currOpen

/-- `KlineValidationResult`. -/
structure KlineValidationResult where
  isValid : Bool
  missingOpenTimes : List ℤ
  errors : List KlineError
  deriving DecidableEq

/-- `KlineReconstructionValidator`. Its constructor takes any interval; it is used with a positive
one. -/
structure KlineReconstructionValidator where
  intervalMs : ℤ
  positive : 0 < intervalMs

/-- The errors of the order of the bars; `kline_validator.py:35-38`. -/
def orderErrors (bars : List KlineBar) : List KlineError :=
  if bars.IsChain (fun prev curr => prev.openTimeMs < curr.openTimeMs) then []
  else [.notIncreasing]

variable (bar : KlineBar) (v : KlineReconstructionValidator)

/-- The errors of one bar; `kline_validator.py:40-46`. -/
def barErrors : List KlineError :=
  let maxOc := bar.openPrice.max bar.close
  let minOc := bar.openPrice.min bar.close
  (if bar.high.lt maxOc || minOc.lt bar.low || bar.high.lt bar.low then [.highLow bar.openTimeMs]
    else []) ++
  if bar.volume.lt (.finite 0) then [.volume bar.openTimeMs] else []

/-- The error and the missing open times between two bars; `kline_validator.py:50-60`. -/
def checkGap (intervalMs prevOpen currOpen : ℤ) : List KlineError × List ℤ :=
  let gap := currOpen - prevOpen
  if gap ≤ 0 then ([], [])
  else
    (if gap % intervalMs ≠ 0 then [.interval prevOpen currOpen] else [],
      if gap > intervalMs then steppedRange (prevOpen + intervalMs) currOpen intervalMs else [])

/-- The loop over the open times of the sorted bars. -/
def checkGaps (intervalMs : ℤ) : List ℤ → List KlineError × List ℤ
  | prevOpen :: currOpen :: rest =>
    let pair := checkGap intervalMs prevOpen currOpen
    let later := checkGaps intervalMs (currOpen :: rest)
    (pair.1 ++ later.1, pair.2 ++ later.2)
  | _ => ([], [])

/-- The open times of the sorted copy. -/
def sortedOpenTimes (bars : List KlineBar) : List ℤ :=
  (bars.insertionSort fun a b => a.openTimeMs ≤ b.openTimeMs).map (·.openTimeMs)

/-- `validate`; `kline_validator.py:28-67`. -/
def KlineReconstructionValidator.validate (bars : List KlineBar) : KlineValidationResult :=
  if bars = [] then { isValid := true, missingOpenTimes := [], errors := [] }
  else
    let gaps := checkGaps v.intervalMs (sortedOpenTimes bars)
    let errors := orderErrors bars ++ bars.flatMap barErrors ++ gaps.1
    { isValid := errors.isEmpty && gaps.2.isEmpty
      missingOpenTimes := gaps.2
      errors }

/-! ### Bars -/

/-- `low <= min(open, close)`, `high >= max(open, close)`, and the volume is not negative. -/
def KlineBar.Consistent : Prop :=
  bar.low.le (bar.openPrice.min bar.close) = true ∧
    (bar.openPrice.max bar.close).le bar.high = true ∧ (PyFloat.finite 0).le bar.volume = true

/-- No field is NaN. -/
def KlineBar.NoNan : Prop :=
  ∀ field ∈ [bar.openPrice, bar.high, bar.low, bar.close, bar.volume], field ≠ .nan

private theorem orderErrors_eq_nil_iff (bars : List KlineBar) :
    orderErrors bars = [] ↔ bars.IsChain fun prev curr => prev.openTimeMs < curr.openTimeMs := by
  unfold orderErrors
  split_ifs with h
  · exact iff_of_true rfl h
  · exact iff_of_false (by simp) h

-- A low that is at most the open and a high that is at least it are not the wrong way round.
private theorem barErrors_eq_nil_iff {bar : KlineBar} (h : bar.NoNan) :
    barErrors bar = [] ↔ bar.Consistent := by
  simp only [KlineBar.NoNan, List.forall_mem_cons, PyFloat.ne_nan_iff] at h
  obtain ⟨⟨o, ho⟩, ⟨high, hhigh⟩, ⟨low, hlow⟩, ⟨c, hc⟩, ⟨volume, hvolume⟩, -⟩ := h
  have hmax := PyFloat.extended_max ho hc
  have hmin := PyFloat.extended_min ho hc
  have hzero : (PyFloat.finite 0).extended = some 0 := rfl
  have hdef : barErrors bar = [] ↔ (max o c ≤ high ∧ low ≤ min o c ∧ low ≤ high) ∧ 0 ≤ volume := by
    simp [barErrors, PyFloat.lt_eq hhigh hmax, PyFloat.lt_eq hmin hlow, PyFloat.lt_eq hhigh hlow,
      PyFloat.lt_eq hvolume hzero, and_assoc]
  rw [hdef, KlineBar.Consistent, PyFloat.le_eq hlow hmin, PyFloat.le_eq hmax hhigh,
    PyFloat.le_eq hzero hvolume]
  simp only [decide_eq_true_eq]
  constructor
  · rintro ⟨⟨hupper, hlower, -⟩, hvol⟩
    exact ⟨hlower, hupper, hvol⟩
  · rintro ⟨hlower, hupper, hvol⟩
    have hbetween : min o c ≤ max o c := (min_le_left _ _).trans (le_max_left _ _)
    exact ⟨⟨hupper, hlower, hlower.trans (hbetween.trans hupper)⟩, hvol⟩

/-! ### Gaps -/

section
variable {intervalMs : ℤ}

private theorem steppedRange_eq_nil (hstep : 0 < intervalMs) {start stop : ℤ}
    (h : stop ≤ start) : steppedRange start stop intervalMs = [] := by
  rw [List.eq_nil_iff_forall_not_mem]
  intro t ht
  obtain ⟨hstart, hstop, -⟩ := (mem_steppedRange_iff hstep t).mp ht
  omega

private theorem checkGap_snd (hstep : 0 < intervalMs) (prevOpen currOpen : ℤ) :
    (checkGap intervalMs prevOpen currOpen).2 =
      steppedRange (prevOpen + intervalMs) currOpen intervalMs := by
  unfold checkGap
  dsimp only
  by_cases hback : currOpen - prevOpen ≤ 0
  · rw [if_pos hback, steppedRange_eq_nil hstep (by omega)]
  · rw [if_neg hback]
    dsimp only
    split_ifs with hwide
    · rfl
    · rw [steppedRange_eq_nil hstep (by omega)]

private theorem checkGaps_snd (hstep : 0 < intervalMs) (times : List ℤ) :
    (checkGaps intervalMs times).2 = fillGaps intervalMs times := by
  induction times with
  | nil => rfl
  | cons a rest ih =>
    cases rest with
    | nil => rfl
    | cons b rest =>
      change (checkGap intervalMs a b).2 ++ (checkGaps intervalMs (b :: rest)).2 = _
      rw [checkGap_snd hstep, ih]
      rfl

private theorem checkGap_eq_nil_iff (hstep : 0 < intervalMs) {prevOpen currOpen : ℤ}
    (hlt : prevOpen < currOpen) :
    ((checkGap intervalMs prevOpen currOpen).1 = [] ∧
        (checkGap intervalMs prevOpen currOpen).2 = []) ↔
      currOpen - prevOpen = intervalMs := by
  have herror : (checkGap intervalMs prevOpen currOpen).1 = [] ↔
      intervalMs ∣ currOpen - prevOpen := by
    unfold checkGap
    dsimp only
    rw [if_neg (by omega), Int.dvd_iff_emod_eq_zero]
    dsimp only
    split_ifs with h
    · exact iff_of_false (by simp) h
    · exact iff_of_true rfl (not_not.mp h)
  rw [herror, checkGap_snd hstep, List.eq_nil_iff_forall_not_mem]
  constructor
  · rintro ⟨hdvd, hn⟩
    have hle : intervalMs ≤ currOpen - prevOpen := Int.le_of_dvd (by omega) hdvd
    -- a wider gap would have a bar missing one interval after its first end
    by_contra hne
    refine hn (prevOpen + intervalMs) ?_
    rw [mem_steppedRange_iff hstep, sub_self]
    exact ⟨le_rfl, by omega, dvd_zero _⟩
  · intro hgap
    refine ⟨by rw [hgap], fun t ht => ?_⟩
    obtain ⟨hstart, hstop, -⟩ := (mem_steppedRange_iff hstep t).mp ht
    omega

private theorem checkGaps_eq_nil_iff (hstep : 0 < intervalMs) {times : List ℤ}
    (hincreasing : times.IsChain (· < ·)) :
    ((checkGaps intervalMs times).1 = [] ∧ (checkGaps intervalMs times).2 = []) ↔
      times.IsChain fun prevOpen currOpen => currOpen - prevOpen = intervalMs := by
  induction times with
  | nil => simp [checkGaps]
  | cons a rest ih =>
    cases rest with
    | nil => simp [checkGaps]
    | cons b rest =>
      obtain ⟨hlt, htail⟩ := List.isChain_cons_cons.mp hincreasing
      rw [List.isChain_cons_cons, ← ih htail, ← checkGap_eq_nil_iff hstep hlt]
      simp only [checkGaps, List.append_eq_nil_iff]
      exact and_and_and_comm

end

/-! ### The sorted copy -/

section
variable (bars : List KlineBar)

private theorem pairwise_sortedOpenTimes : (sortedOpenTimes bars).Pairwise (· ≤ ·) := by
  have htotal : Std.Total fun a b : KlineBar => a.openTimeMs ≤ b.openTimeMs :=
    ⟨fun a b => le_total a.openTimeMs b.openTimeMs⟩
  have htrans : IsTrans KlineBar fun a b => a.openTimeMs ≤ b.openTimeMs :=
    ⟨fun _ _ _ => le_trans⟩
  rw [sortedOpenTimes, List.pairwise_map]
  exact List.pairwise_insertionSort (fun a b : KlineBar => a.openTimeMs ≤ b.openTimeMs) bars

private theorem mem_sortedOpenTimes_iff (t : ℤ) :
    t ∈ sortedOpenTimes bars ↔ ∃ bar ∈ bars, bar.openTimeMs = t := by
  simp [sortedOpenTimes]

variable {bars}

private theorem sortedOpenTimes_of_increasing
    (h : bars.IsChain fun prev curr => prev.openTimeMs < curr.openTimeMs) :
    sortedOpenTimes bars = bars.map (·.openTimeMs) := by
  have htrans : IsTrans KlineBar fun prev curr => prev.openTimeMs < curr.openTimeMs :=
    ⟨fun _ _ _ => lt_trans⟩
  have hsorted := (List.isChain_iff_pairwise.mp h).imp fun {_ _} hlt => le_of_lt hlt
  rw [sortedOpenTimes, hsorted.insertionSort_eq]

private theorem leftOut_sortedOpenTimes_iff {intervalMs t : ℤ} :
    LeftOut intervalMs (sortedOpenTimes bars) t ↔
      (∃ bar ∈ bars, bar.openTimeMs < t) ∧ (∃ bar ∈ bars, t < bar.openTimeMs) ∧
        (∀ bar ∈ bars, bar.openTimeMs ≡ t [ZMOD intervalMs]) ∧
        ∀ bar ∈ bars, bar.openTimeMs ≠ t := by
  have hm (bar : KlineBar) (h : bar ∈ bars) : bar.openTimeMs ∈ sortedOpenTimes bars :=
    (mem_sortedOpenTimes_iff bars _).mpr ⟨bar, h, rfl⟩
  constructor
  · rintro ⟨⟨a, ha, hat⟩, ⟨b, hb, htb⟩, hgrid, habsent⟩
    obtain ⟨x, hx, rfl⟩ := (mem_sortedOpenTimes_iff bars a).mp ha
    obtain ⟨y, hy, rfl⟩ := (mem_sortedOpenTimes_iff bars b).mp hb
    exact ⟨⟨x, hx, hat⟩, ⟨y, hy, htb⟩,
      fun bar hbar => Int.modEq_iff_dvd.mpr (hgrid _ (hm bar hbar)),
      fun bar hbar ht => habsent (ht ▸ hm bar hbar)⟩
  · rintro ⟨⟨x, hx, hxt⟩, ⟨y, hy, hty⟩, hgrid, habsent⟩
    refine ⟨⟨_, hm x hx, hxt⟩, ⟨_, hm y hy, hty⟩, ?_, ?_⟩
    · intro a ha
      obtain ⟨bar, hbar, rfl⟩ := (mem_sortedOpenTimes_iff bars a).mp ha
      exact Int.modEq_iff_dvd.mp (hgrid bar hbar)
    · intro ht
      obtain ⟨bar, hbar, heq⟩ := (mem_sortedOpenTimes_iff bars t).mp ht
      exact habsent bar hbar heq

end

/-! ### The validation -/

private theorem isValid_validate_iff (bars : List KlineBar) :
    (v.validate bars).isValid = true ↔
      (bars.IsChain fun prev curr => prev.openTimeMs < curr.openTimeMs) ∧
        (∀ bar ∈ bars, barErrors bar = []) ∧
        (checkGaps v.intervalMs (sortedOpenTimes bars)).1 = [] ∧
        (checkGaps v.intervalMs (sortedOpenTimes bars)).2 = [] := by
  unfold KlineReconstructionValidator.validate
  split_ifs with hempty
  · subst hempty
    simp [sortedOpenTimes, checkGaps]
  · simp only [Bool.and_eq_true, List.isEmpty_iff, List.append_eq_nil_iff,
      orderErrors_eq_nil_iff, List.flatMap_eq_nil_iff, and_assoc]

private theorem missingOpenTimes_validate (bars : List KlineBar) :
    (v.validate bars).missingOpenTimes = fillGaps v.intervalMs (sortedOpenTimes bars) := by
  rw [← checkGaps_snd v.positive]
  unfold KlineReconstructionValidator.validate
  split_ifs with hempty
  · subst hempty
    rfl
  · rfl

private theorem isValid_iff_chain {bars : List KlineBar} (hbars : ∀ bar ∈ bars, bar.NoNan) :
    (v.validate bars).isValid = true ↔
      (bars.IsChain fun prev curr => prev.openTimeMs < curr.openTimeMs ∧
          curr.openTimeMs - prev.openTimeMs = v.intervalMs) ∧
        ∀ bar ∈ bars, bar.Consistent := by
  -- bars in increasing order are their own sorted copy
  have hgaps (h : bars.IsChain fun prev curr => prev.openTimeMs < curr.openTimeMs) :=
    checkGaps_eq_nil_iff v.positive ((List.isChain_map KlineBar.openTimeMs).mpr h)
  rw [isValid_validate_iff, forall₂_congr fun bar hbar => barErrors_eq_nil_iff (hbars bar hbar)]
  constructor
  · rintro ⟨hincreasing, hbars, hn⟩
    rw [sortedOpenTimes_of_increasing hincreasing, hgaps hincreasing, List.isChain_map] at hn
    refine ⟨hn.imp fun prev curr hgap => ⟨?_, hgap⟩, hbars⟩
    have hpos := v.positive
    omega
  · rintro ⟨hchain, hbars⟩
    have hincreasing := hchain.imp fun _ _ h => h.1
    refine ⟨hincreasing, hbars, ?_⟩
    rw [sortedOpenTimes_of_increasing hincreasing, hgaps hincreasing, List.isChain_map]
    exact hchain.imp fun _ _ h => h.2

end OpenTrader.Ingestion
