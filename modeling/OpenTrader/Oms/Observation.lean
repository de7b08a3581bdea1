import OpenTrader.Oms.ControlLog

/-!
# Status reads between control operations

Library `Oms`. `services/oms/risk_controls.py:84-201`, `services/api/state.py:324-337`. A breaker
whose cooldown has elapsed is reset, and its failures forgotten, by the next status read or gate
evaluation; `record_failure` and `trip_circuit_breaker` do not look. A read put before a failure
therefore changes what the failure counts, unless the expiry was noticed before.
-/

namespace OpenTrader.Oms
open Base

namespace ControlOp

/-- The instant of an operation that takes one. -/
def time : ControlOp → Option Instant
  | enableKillSwitch _ _ now | disableKillSwitch _ _ now | recordFailure _ _ now
  | tripCircuitBreaker _ _ now _ | resetCircuitBreaker _ _ now | snapshot now
  | evaluateOrderAllowed now => some now
  | recordSuccess | drainEvents => none

/-- The operation asks for the status or for the gate. -/
def observes : ControlOp → Bool
  | snapshot _ | evaluateOrderAllowed _ => true
  | _ => false

end ControlOp

/-- An operation of a sequence, or one put between them. -/
structure ObservedOp where
  op : ControlOp
  inserted : Bool := false
  deriving DecidableEq

namespace ObservedOp

/-- The operation belongs to the sequence. -/
def kept (x : ObservedOp) : Bool := !x.inserted

/-- One operation, inserted or not. -/
def step (p : RiskControlPlane) (x : ObservedOp) : RiskControlPlane := x.op.apply p

end ObservedOp

/-- A sequence of operations with nondecreasing instants in which only reads are inserted. -/
structure ObservedRun where
  ops : List ObservedOp
  ordered : (ops.filterMap (·.op.time)).Pairwise (· ≤ ·)
  inserted_observes : ∀ x ∈ ops, x.inserted = true → x.op.observes = true

/-- Every gate evaluation of the sequence has the result it has without the inserted reads. -/
def DecisionsUnchanged (p : RiskControlPlane) (ops : List ObservedOp) : Prop :=
  ∀ before x after, ops = before ++ x :: after → x.inserted = false →
    ∀ now, x.op = .evaluateOrderAllowed now →
      ((run ObservedOp.step p before).evaluateOrderAllowed now).1 =
        ((run ObservedOp.step p (before.filter (·.kept))).evaluateOrderAllowed now).1

/-- No failure is recorded while the breaker holds a cooldown that has elapsed, and no trip is
made while it does with failures counted. -/
def ExpiryNoticed (p : RiskControlPlane) (x : ObservedOp) : Prop :=
  match x.op with
  | .recordFailure _ _ now => ¬ p.core.Elapsed now
  | .tripCircuitBreaker _ _ now _ => p.core.Elapsed now → p.consecutiveFailures = 0
  | _ => True

/-! ### A core that has noticed the expiry and one that has not -/

private def Lags (times : List Instant) (c d : ControlCore) : Prop :=
  c = d ∨ c.killed = d.killed ∧ (∀ now ∈ times, c.Elapsed now) ∧ d.failures = 0 ∧
    d.brokenUntil = none

section

variable {times : List Instant} {c d : ControlCore} {now : Instant}

private theorem not_elapsed_of_none (h : d.brokenUntil = none) : ¬ d.Elapsed now := by
  rintro ⟨openUntil, hopen, -⟩
  rw [h] at hopen
  cases hopen

private theorem expire_of_none (h : d.brokenUntil = none) : d.expire now = d :=
  if_neg (not_elapsed_of_none h)

private theorem Elapsed.mono {later : Instant} (h : c.Elapsed now) (hle : now ≤ later) :
    c.Elapsed later := by
  obtain ⟨openUntil, hopen, hends⟩ := h
  exact ⟨openUntil, hopen, le_trans hends hle⟩

private theorem Lags.expire_right (h : Lags (now :: times) c d) (hle : ∀ t ∈ times, now ≤ t) :
    Lags times c (d.expire now) := by
  obtain rfl | ⟨hkilled, helapsed, hfailures, hn⟩ := h
  · by_cases hnow : c.Elapsed now
    · rw [ControlCore.expire, if_pos hnow]
      exact .inr ⟨rfl, fun t ht => Elapsed.mono hnow (hle t ht), rfl, rfl⟩
    · rw [ControlCore.expire, if_neg hnow]
      exact .inl rfl
  · rw [expire_of_none hn]
    exact .inr ⟨hkilled, fun t ht => helapsed t (List.mem_cons_of_mem now ht), hfailures, hn⟩

private theorem Lags.expire_both (h : Lags (now :: times) c d) :
    Lags times (c.expire now) (d.expire now) := by
  obtain rfl | ⟨hkilled, helapsed, hfailures, hn⟩ := h
  · exact .inl rfl
  · rw [expire_of_none hn, ControlCore.expire, if_pos (helapsed now List.mem_cons_self)]
    refine .inl ?_
    cases d
    simp_all

private theorem Lags.trip (h : Lags (now :: times) c d)
    (hnoticed : c.Elapsed now → c.failures = 0) (cooldown : ℤ) :
    Lags times (c.trip now cooldown) (d.trip now cooldown) := by
  obtain rfl | ⟨hkilled, helapsed, hfailures, hn⟩ := h
  · exact .inl rfl
  · have hz := hnoticed (helapsed now List.mem_cons_self)
    unfold ControlCore.trip
    split
    · refine .inl ?_
      rw [hz, hfailures, hkilled]
    · exact .inr ⟨hkilled, fun t ht => helapsed t (List.mem_cons_of_mem _ ht), hfailures, hn⟩

private def timesFrom (op : ControlOp) (times : List Instant) : List Instant :=
  op.time.toList ++ times

private theorem Lags.step (op : ControlOp) (threshold cooldown : ℕ)
    (h : Lags (timesFrom op times) c d)
    (hfailure : ∀ reason actor now, op = .recordFailure reason actor now → ¬ c.Elapsed now)
    (htrip : ∀ reason actor now seconds, op = .tripCircuitBreaker reason actor now seconds →
      c.Elapsed now → c.failures = 0) :
    Lags times (c.step threshold cooldown op) (d.step threshold cooldown op) := by
  cases op with
  | snapshot | evaluateOrderAllowed => exact h.expire_both
  | enableKillSwitch | disableKillSwitch =>
    obtain rfl | ⟨hkilled, helapsed, hfailures, hn⟩ := h
    · exact .inl rfl
    · exact .inr ⟨rfl, fun t ht => helapsed t (List.mem_cons_of_mem _ ht), hfailures, hn⟩
  | recordFailure reason actor now =>
    obtain rfl | ⟨hkilled, helapsed, hfailures, hn⟩ := h
    · exact .inl rfl
    · exact absurd (helapsed now List.mem_cons_self) (hfailure reason actor now rfl)
  | recordSuccess =>
    obtain rfl | ⟨hkilled, helapsed, hfailures, hn⟩ := h
    · exact .inl rfl
    · exact .inr ⟨hkilled, helapsed, rfl, hn⟩
  | tripCircuitBreaker reason actor now seconds =>
    exact Lags.trip h (htrip reason actor now seconds rfl) _
  | resetCircuitBreaker reason actor now =>
    obtain rfl | ⟨hkilled, helapsed, hfailures, hn⟩ := h
    · exact .inl rfl
    · refine .inl ?_
      unfold ControlCore.step
      dsimp only
      rw [hkilled]
  | drainEvents => exact h

private theorem Lags.gate_eq {p q : RiskControlPlane} (h : Lags (now :: times) p.core q.core) :
    (q.evaluateOrderAllowed now).1 = (p.evaluateOrderAllowed now).1 := by
  have hstops : q.stops.killed = p.stops.killed ∧
      q.stops.brokenUntil.any (now < ·) = p.stops.brokenUntil.any (now < ·) := by
    obtain heq | ⟨hkilled, helapsed, -, hn⟩ := h
    · exact ⟨(congrArg ControlCore.killed heq).symm,
        congrArg (fun c => c.brokenUntil.any (now < ·)) heq.symm⟩
    · obtain ⟨openUntil, hopen, hends⟩ := helapsed now List.mem_cons_self
      have hp : p.stops.brokenUntil = some openUntil := hopen
      have hq : q.stops.brokenUntil = none := hn
      refine ⟨hkilled.symm, ?_⟩
      rw [hp, hq, Option.any_none, Option.any_some]
      exact (decide_eq_false (not_lt.mpr hends)).symm
  rw [p.evaluateOrderAllowed_fst, q.evaluateOrderAllowed_fst, hstops.1, hstops.2]

end

/-! ### Both runs side by side -/

/-- The plane of all operations against the plane of those of the sequence. -/
private structure Follows (times : List Instant) (q p : RiskControlPlane) : Prop where
  threshold : q.threshold = p.threshold
  cooldownSeconds : q.cooldownSeconds = p.cooldownSeconds
  lags : Lags times p.core q.core

variable {q p : RiskControlPlane}

private theorem Follows.kept_step {times : List Instant} {x : ObservedOp}
    (h : Follows (timesFrom x.op times) q p) (hnoticed : ExpiryNoticed p x) :
    Follows times (x.op.apply q) (x.op.apply p) := by
  obtain ⟨hq, hqt, hqc⟩ := q.core_apply x.op
  obtain ⟨hp, hpt, hpc⟩ := p.core_apply x.op
  refine ⟨by rw [hqt, hpt, h.threshold], by rw [hqc, hpc, h.cooldownSeconds], ?_⟩
  rw [hq, hp, h.threshold, h.cooldownSeconds]
  apply h.lags.step
  · intro reason actor now hop
    rw [ExpiryNoticed, hop] at hnoticed
    exact hnoticed
  · intro reason actor now seconds hop
    rw [ExpiryNoticed, hop] at hnoticed
    exact hnoticed

private theorem Follows.inserted_step {times : List Instant} {op : ControlOp}
    (h : Follows (timesFrom op times) q p) (hobserves : op.observes = true)
    (hordered : (timesFrom op times).Pairwise (· ≤ ·)) : Follows times (op.apply q) p := by
  obtain ⟨hq, hqt, hqc⟩ := q.core_apply op
  refine ⟨hqt.trans h.threshold, hqc.trans h.cooldownSeconds, ?_⟩
  rw [hq]
  cases op with
  | snapshot | evaluateOrderAllowed => exact h.lags.expire_right (List.pairwise_cons.mp hordered).1
  | _ => cases hobserves

private def SameDecision (s : RiskControlPlane × RiskControlPlane) (x : ObservedOp) : Prop :=
  x.inserted = false → ∀ now, x.op = .evaluateOrderAllowed now →
    (s.1.evaluateOrderAllowed now).1 = (s.2.evaluateOrderAllowed now).1

private theorem sameDecision_of_follows {ops : List ObservedOp}
    (hordered : (ops.filterMap (·.op.time)).Pairwise (· ≤ ·))
    (hinserted : ∀ x ∈ ops, x.inserted = true → x.op.observes = true)
    (hfollows : Follows (ops.filterMap (·.op.time)) q p)
    (hnoticed : Along (beside ObservedOp.step (·.kept))
      (fun s x => x.kept = true → ExpiryNoticed s.2 x) (q, p) ops) :
    Along (beside ObservedOp.step (·.kept)) SameDecision (q, p) ops := by
  induction ops generalizing q p with
  | nil => trivial
  | cons x ops ih =>
    have htimes : (x :: ops).filterMap (·.op.time) =
        timesFrom x.op (ops.filterMap (·.op.time)) := by
      cases htime : x.op.time <;> simp [timesFrom, htime]
    rw [htimes] at hordered hfollows
    have hrest : (ops.filterMap (·.op.time)).Pairwise (· ≤ ·) :=
      (List.pairwise_append.mp hordered).2.1
    have hothers := fun y hy => hinserted y (List.mem_cons_of_mem x hy)
    obtain ⟨hx, hnoticed⟩ := hnoticed
    refine ⟨?_, ?_⟩
    · intro _ now hop
      rw [hop] at hfollows
      exact hfollows.lags.gate_eq
    · by_cases hkept : x.kept = true
      · rw [beside, if_pos hkept] at hnoticed ⊢
        exact ih hrest hothers (hfollows.kept_step (hx hkept)) hnoticed
      · rw [beside, if_neg hkept] at hnoticed ⊢
        have hr : x.op.observes = true :=
          hinserted x List.mem_cons_self (by simpa [ObservedOp.kept] using hkept)
        exact ih hrest hothers (hfollows.inserted_step hr hordered) hnoticed

/-- Reads put between the operations of a sequence change none of its gate evaluations, as long as
no failure or trip of the sequence meets an expiry it has not noticed. -/
theorem decisionsUnchanged_of_expiryNoticed (p : RiskControlPlane) (r : ObservedRun)
    (h : Along ObservedOp.step ExpiryNoticed p (r.ops.filter (·.kept))) :
    DecisionsUnchanged p r.ops := by
  have hsame := sameDecision_of_follows r.ordered r.inserted_observes ⟨rfl, rfl, .inl rfl⟩
    (along_beside_filter.mpr h)
  exact along_beside_iff.mp hsame

/-- A failure, a status read put in, and the gate. -/
def readAfterFailure : ObservedRun where
  ops := [⟨.recordFailure "r" "a" 0, false⟩, ⟨.snapshot 1, true⟩, ⟨.evaluateOrderAllowed 2, false⟩]
  ordered := by decide
  inserted_observes := by decide

theorem readAfterFailure_unchanged :
    Along ObservedOp.step ExpiryNoticed {} (readAfterFailure.ops.filter (·.kept)) ∧
      DecisionsUnchanged {} readAfterFailure.ops := by
  have hnoticed : Along ObservedOp.step ExpiryNoticed {}
      (readAfterFailure.ops.filter (·.kept)) := by
    refine ⟨?_, trivial, trivial⟩
    rintro ⟨openUntil, ⟨⟩, -⟩
  exact ⟨hnoticed, decisionsUnchanged_of_expiryNoticed {} readAfterFailure hnoticed⟩

/-- Three failures trip the breaker for sixty seconds. After that a status read is put in, and the
next failure comes. -/
def readAfterCooldown : ObservedRun where
  ops := [⟨.recordFailure "r" "a" 0, false⟩, ⟨.recordFailure "r" "a" 0, false⟩,
    ⟨.recordFailure "r" "a" 0, false⟩, ⟨.snapshot 61000000, true⟩,
    ⟨.recordFailure "r" "a" 61000000, false⟩, ⟨.evaluateOrderAllowed 62000000, false⟩]
  ordered := by decide
  inserted_observes := by decide

/-- With the read the fourth failure counts as the first and the gate is open; without it the
failure trips the breaker again and the gate is closed. -/
theorem status_read_opens_gate :
    let before := readAfterCooldown.ops.take 5
    ((run ObservedOp.step {} before).evaluateOrderAllowed 62000000).1 = ⟨true, []⟩ ∧
      ((run ObservedOp.step {} (before.filter (·.kept))).evaluateOrderAllowed 62000000).1 =
        ⟨false, [.circuitBreaker]⟩ ∧
      ¬ DecisionsUnchanged {} readAfterCooldown.ops := by
  have hwith : ((run ObservedOp.step {} (readAfterCooldown.ops.take 5)).evaluateOrderAllowed
      62000000).1 = ⟨true, []⟩ := by decide +kernel
  have hwithout : ((run ObservedOp.step {} ((readAfterCooldown.ops.take 5).filter
      (·.kept))).evaluateOrderAllowed 62000000).1 = ⟨false, [.circuitBreaker]⟩ := by
    decide +kernel
  refine ⟨hwith, hwithout, fun hunchanged => ?_⟩
  have hsame := hunchanged (readAfterCooldown.ops.take 5) ⟨.evaluateOrderAllowed 62000000, false⟩
    [] rfl rfl 62000000 rfl
  rw [hwith, hwithout] at hsame
  cases hsame

end OpenTrader.Oms
