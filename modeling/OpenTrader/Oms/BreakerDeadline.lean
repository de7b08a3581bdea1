import OpenTrader.Oms.ControlLog

/-!
# How long a trip lasts

Library `Oms`. `services/oms/risk_controls.py:84-130, 185-201`. A trip stores its own end, whatever
end is stored already, and a failure at the threshold trips with the default cooldown. A trip asked
for an hour therefore lasts until the next trip says otherwise.
-/

namespace OpenTrader.Oms
open Base

namespace RiskControlPlane

/-- The gate reports the breaker at every instant before `t`. -/
def BlocksUntil (t : Instant) (p : RiskControlPlane) : Prop :=
  ∀ now < t, RiskControl.circuitBreaker ∈ (p.evaluateOrderAllowed now).1.blockedBy

private theorem circuitBreaker_mem_blockedBy (p : RiskControlPlane) (now : Instant) :
    RiskControl.circuitBreaker ∈ (p.evaluateOrderAllowed now).1.blockedBy ↔
      p.circuitBreakerOpenUntil.any (now < ·) = true := by
  rw [p.evaluateOrderAllowed_fst]
  change _ ↔ p.stops.brokenUntil.any (now < ·) = true
  cases p.stops.killed <;> cases p.stops.brokenUntil.any (now < ·) <;> simp

private theorem blocksUntil_iff {t : Instant} {p : RiskControlPlane} :
    p.BlocksUntil t ↔ ∃ openUntil ∈ p.circuitBreakerOpenUntil, t ≤ openUntil := by
  unfold BlocksUntil
  simp only [circuitBreaker_mem_blockedBy]
  cases p.circuitBreakerOpenUntil with
  | none =>
    constructor
    · intro h
      have hlast := h (t - 1) (Int.sub_one_lt_of_le (le_refl t))
      simp at hlast
    · intro h
      simp at h
  | some openUntil =>
    simp only [Option.any_some, decide_eq_true_eq, Option.mem_def, Option.some.injEq,
      exists_eq_left']
    constructor
    · intro h
      exact Int.le_of_sub_one_lt (h (t - 1) (Int.sub_one_lt_of_le (le_refl t)))
    · intro h now hnow
      exact lt_of_lt_of_le hnow h

end RiskControlPlane

namespace ControlOp

/-- The operation is no explicit reset, and asks for the gate or the status before `t` only. -/
def WithinTrip (t : Instant) : ControlOp → Prop
  | resetCircuitBreaker .. => False
  | snapshot now | evaluateOrderAllowed now => now < t
  | _ => True

instance (t : Instant) : ∀ op : ControlOp, Decidable (op.WithinTrip t)
  | resetCircuitBreaker .. => .isFalse id
  | snapshot now | evaluateOrderAllowed now => inferInstanceAs (Decidable (now < t))
  | enableKillSwitch .. | disableKillSwitch .. | recordFailure .. | recordSuccess
  | tripCircuitBreaker .. | drainEvents => .isTrue trivial

end ControlOp

/-- A cooldown of `seconds` from `now` that is stored ends at `t` or later. -/
def EndsLate (t now : Instant) (seconds : ℤ) : Prop :=
  0 < seconds → now + seconds * 1000000 ≤ datetimeMax → t ≤ now + seconds * 1000000

instance (t now : Instant) (seconds : ℤ) : Decidable (EndsLate t now seconds) :=
  inferInstanceAs (Decidable (_ → _))

/-- A trip, and a failure that reaches the threshold, has a cooldown that ends at `t` or later. -/
def TripEndsLate (t : Instant) (p : RiskControlPlane) : ControlOp → Prop
  | .tripCircuitBreaker _ _ now seconds => EndsLate t now (p.effectiveCooldown seconds)
  | .recordFailure _ _ now =>
    p.threshold ≤ p.consecutiveFailures + 1 → EndsLate t now p.cooldownSeconds
  | _ => True

/-! ### One operation -/

private def ControlCore.OpenUntil (t : Instant) (c : ControlCore) : Prop :=
  ∃ openUntil ∈ c.brokenUntil, t ≤ openUntil

section

variable {t : Instant} {c : ControlCore}

private theorem ControlCore.OpenUntil.trip_iff (h : c.OpenUntil t) (now : Instant)
    (seconds : ℤ) : (c.trip now seconds).OpenUntil t ↔ EndsLate t now seconds := by
  unfold ControlCore.trip
  split
  · next hstored =>
    constructor
    · rintro ⟨openUntil, hopen, hle⟩ - -
      cases hopen
      exact hle
    · intro hlate
      exact ⟨_, rfl, hlate hstored.1 hstored.2⟩
  · next hraised =>
    apply iff_of_true h
    intro hpos hfits
    exact absurd ⟨hpos, hfits⟩ hraised

private theorem ControlCore.OpenUntil.expire (h : c.OpenUntil t) {now : Instant} (hnow : now < t) :
    (c.expire now).OpenUntil t := by
  obtain ⟨openUntil, hopen, hle⟩ := h
  have helapsed : ¬ c.Elapsed now := by
    rintro ⟨stored, hstored, hpast⟩
    obtain rfl : openUntil = stored := Option.some.inj (hopen.symm.trans hstored)
    exact absurd (le_trans hle hpast) (not_le.mpr hnow)
  rw [ControlCore.expire, if_neg helapsed]
  exact ⟨openUntil, hopen, hle⟩

end

private theorem blocksUntil_apply {t : Instant} {p : RiskControlPlane} {op : ControlOp}
    (hop : op.WithinTrip t) (h : p.BlocksUntil t) :
    (op.apply p).BlocksUntil t ↔ TripEndsLate t p op := by
  have hbefore : p.core.OpenUntil t := RiskControlPlane.blocksUntil_iff.mp h
  have hcore := (p.core_apply op).1
  have hafter : (op.apply p).BlocksUntil t ↔
      (p.core.step p.threshold p.cooldownSeconds op).OpenUntil t := by
    rw [← hcore]
    exact RiskControlPlane.blocksUntil_iff
  rw [hafter]
  cases op with
  | tripCircuitBreaker reason actor now seconds =>
    have hcooldown : p.effectiveCooldown seconds =
        if seconds.getD 0 = 0 then (p.cooldownSeconds : ℤ) else seconds.getD 0 := by
      cases seconds <;> rfl
    rw [TripEndsLate, hcooldown]
    exact hbefore.trip_iff now _
  | recordFailure reason actor now =>
    -- the count does not touch the breaker; only the trip at the threshold does
    unfold ControlCore.step TripEndsLate
    dsimp only
    have hrec : ({ p.core with failures := p.core.failures + 1 }).OpenUntil t := hbefore
    split
    · next hreached =>
      rw [hrec.trip_iff]
      exact ⟨fun hlate _ => hlate, fun hlate => hlate hreached⟩
    · next hbelow => exact iff_of_true hrec fun hreached => absurd hreached hbelow
  | snapshot | evaluateOrderAllowed => exact iff_of_true (hbefore.expire hop) trivial
  | resetCircuitBreaker reason actor now => exact absurd hop id
  | enableKillSwitch reason actor now => exact iff_of_true hbefore trivial
  | disableKillSwitch | recordSuccess | drainEvents => exact iff_of_true hbefore trivial

/-! ### Runs of operations -/

/-- A breaker open until `t` blocks until `t` throughout a run without a reset exactly when no trip
of the run, asked for or reached by failures, stores an earlier end. -/
theorem blocksUntil_iff_tripEndsLate {p : RiskControlPlane} {t : Instant}
    (hopen : p.circuitBreakerOpenUntil = some t) {ops : List ControlOp}
    (hops : ∀ op ∈ ops, op.WithinTrip t) :
    Throughout ControlOp.apply (RiskControlPlane.BlocksUntil t) p ops ↔
      Along ControlOp.apply (TripEndsLate t) p ops := by
  have hblocks : p.BlocksUntil t := RiskControlPlane.blocksUntil_iff.mpr ⟨t, hopen, le_refl t⟩
  have hdom : Along ControlOp.apply (fun _ op => op.WithinTrip t) p ops :=
    along_input_iff.mpr hops
  exact @throughout_iff_along _ _ _ (fun _ => True) _ _ _ _ (fun _ op => op.WithinTrip t)
    (fun _ _ _ _ _ => trivial) (fun _ _ _ hop h => blocksUntil_apply hop h) hdom trivial hblocks

private theorem three_pos : 0 < 3 := by decide

private theorem minute_pos : 0 < 60 := by decide

private def hourTrip : RiskControlPlane :=
  ControlOp.apply { threshold_pos := three_pos, cooldownSeconds_pos := minute_pos }
    (.tripCircuitBreaker "outage" "ops" 0 (some 3600))

/-- A longer trip a minute later keeps the first hour. -/
theorem longer_trip_blocks :
    let longer := [ControlOp.tripCircuitBreaker "outage" "ops" 60000000 (some 7200)]
    hourTrip.circuitBreakerOpenUntil = some 3600000000 ∧
      (∀ op ∈ longer, op.WithinTrip 3600000000) ∧
      Throughout ControlOp.apply (RiskControlPlane.BlocksUntil 3600000000) hourTrip longer := by
  have hopen : hourTrip.circuitBreakerOpenUntil = some 3600000000 := by decide +kernel
  have hops : ∀ op ∈ [ControlOp.tripCircuitBreaker "outage" "ops" 60000000 (some 7200)],
      op.WithinTrip 3600000000 := by decide
  have hlate : EndsLate 3600000000 60000000 (hourTrip.effectiveCooldown (some 7200)) := by
    decide +kernel
  exact ⟨hopen, hops, (blocksUntil_iff_tripEndsLate hopen hops).mpr ⟨hlate, trivial⟩⟩

/-- Three failures of the outage cut the hour to a minute: the third trips the breaker for sixty
seconds, and an order in the second minute is let through. -/
theorem failures_cut_trip_short :
    let failures := [ControlOp.recordFailure "timeout" "runner" 1000000,
      .recordFailure "timeout" "runner" 2000000, .recordFailure "timeout" "runner" 3000000]
    let reached := run ControlOp.apply hourTrip failures
    hourTrip.circuitBreakerOpenUntil = some 3600000000 ∧
      (∀ op ∈ failures, op.WithinTrip 3600000000) ∧
      reached.circuitBreakerOpenUntil = some 63000000 ∧
      (reached.evaluateOrderAllowed 64000000).1 = ⟨true, []⟩ ∧
      ¬ reached.BlocksUntil 3600000000 := by
  have hreached : (run ControlOp.apply hourTrip [.recordFailure "timeout" "runner" 1000000,
      .recordFailure "timeout" "runner" 2000000,
      .recordFailure "timeout" "runner" 3000000]).circuitBreakerOpenUntil = some 63000000 := by
    decide +kernel
  refine ⟨by decide +kernel, by decide, hreached, by decide +kernel, ?_⟩
  rw [RiskControlPlane.blocksUntil_iff, hreached]
  rintro ⟨openUntil, hopen, hle⟩
  cases hopen
  exact absurd hle (by decide)

end OpenTrader.Oms
