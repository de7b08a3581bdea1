import Mathlib.Data.List.Induction
import OpenTrader.Base.Trace
import OpenTrader.Oms.RiskControls

/-!
# The control plane and its event log

Library `Oms`. `services/oms/risk_controls.py:54-224`. Every change of a stop emits one event, so
the stops in force are a fold of the events ever emitted, those already drained included. The
breaker follows the failure counter unless the cooldown of the trip would end after the last
`datetime`: the failure is then counted and the trip raises.
-/

namespace OpenTrader.Oms
open Base

/-- The operations of the control plane, each at its instant. -/
inductive ControlOp where
  | enableKillSwitch (reason actor : String) (now : Instant)
  | disableKillSwitch (reason actor : String) (now : Instant)
  | recordFailure (reason actor : String) (now : Instant)
  | recordSuccess
  | tripCircuitBreaker (reason actor : String) (now : Instant) (cooldownSeconds : Option ℤ)
  | resetCircuitBreaker (reason actor : String) (now : Instant)
  | snapshot (now : Instant)
  | evaluateOrderAllowed (now : Instant)
  | drainEvents
  deriving DecidableEq

namespace ControlOp

/-- The plane after an operation, whether it raises or not: a trip that raises stores nothing. -/
def apply (p : RiskControlPlane) : ControlOp → RiskControlPlane
  | enableKillSwitch reason actor now => p.enableKillSwitch reason actor now
  | disableKillSwitch reason actor now => p.disableKillSwitch reason actor now
  | recordFailure reason actor now => (p.recordFailure reason actor now).1
  | recordSuccess => p.recordSuccess
  | tripCircuitBreaker reason actor now cooldownSeconds =>
    (p.tripCircuitBreaker reason actor now cooldownSeconds).toOption.getD p
  | resetCircuitBreaker reason actor now => p.resetCircuitBreaker reason actor now
  | snapshot now => (p.snapshot now).2
  | evaluateOrderAllowed now => (p.evaluateOrderAllowed now).2
  | drainEvents => p.drainEvents.2

/-- The events an operation hands out. -/
def drained (p : RiskControlPlane) : ControlOp → List RiskControlEvent
  | drainEvents => p.drainEvents.1
  | _ => []

end ControlOp

/-- A control plane with the events drained from it so far. -/
structure AuditedPlane where
  plane : RiskControlPlane
  drained : List RiskControlEvent := []

namespace AuditedPlane

/-- The events ever emitted. -/
def history (a : AuditedPlane) : List RiskControlEvent := a.drained ++ a.plane.events

/-- One operation. -/
def step (a : AuditedPlane) (op : ControlOp) : AuditedPlane where
  plane := op.apply a.plane
  drained := a.drained ++ op.drained a.plane

end AuditedPlane

/-! ### What the log says -/

/-- The event opens or closes the breaker. -/
def RiskEventKind.changesBreaker : RiskEventKind → Bool
  | .tripped .. | .reset | .autoReset => true
  | _ => false

/-- `open_until` of a trip. -/
def RiskEventKind.openUntil : RiskEventKind → Option Instant
  | .tripped _ _ openUntil => some openUntil
  | _ => none

variable (log : List RiskControlEvent) (event : RiskControlEvent)

/-- The last kill-switch event. -/
def lastKillSwitch : Option RiskEventKind :=
  ((log.map (·.kind)).filter (·.control = .killSwitch)).getLast?

/-- The last event that opened or closed the breaker. -/
def lastBreaker : Option RiskEventKind :=
  ((log.map (·.kind)).filter (·.changesBreaker)).getLast?

/-- The gate reports the kill switch exactly when the last kill-switch event enabled it, and the
breaker exactly when the last breaker event is a trip that is still open at `now`. -/
def FollowsLog (gate : RiskControlGate) (now : Instant) (log : List RiskControlEvent) : Prop :=
  (.killSwitch ∈ gate.blockedBy ↔ lastKillSwitch log = some .killSwitchEnabled) ∧
    (.circuitBreaker ∈ gate.blockedBy ↔
      ∃ openUntil ∈ (lastBreaker log).bind (·.openUntil), now < openUntil)

/-- At every instant the gate follows the events emitted before it is asked, and those emitted
once it has answered. -/
def GateFollowsLog (a : AuditedPlane) : Prop :=
  ∀ now, FollowsLog (a.plane.evaluateOrderAllowed now).1 now a.history ∧
    FollowsLog (a.plane.evaluateOrderAllowed now).1 now
      (a.step (.evaluateOrderAllowed now)).history

/-- With as many failures as the threshold the breaker has been tripped and not reset since. -/
def TrippedAtThreshold (a : AuditedPlane) : Prop :=
  a.plane.threshold ≤ a.plane.consecutiveFailures →
    ((lastBreaker a.history).bind (·.openUntil)).isSome

/-- A failure that reaches the threshold while the breaker is not tripped has a cooldown that ends
by the last `datetime`. -/
def TripFits (a : AuditedPlane) : ControlOp → Prop
  | .recordFailure _ _ now =>
    a.plane.threshold ≤ a.plane.consecutiveFailures + 1 →
      a.plane.circuitBreakerOpenUntil = none →
      now + a.plane.cooldownSeconds * 1000000 ≤ datetimeMax
  | _ => True

/-! ### The stops are a fold of the log -/

/-- What one event does to the stops. -/
def Stops.note (s : Stops) (event : RiskControlEvent) : Stops :=
  match event.kind with
  | .killSwitchEnabled => { s with killed := true }
  | .killSwitchDisabled => { s with killed := false }
  | .failureRecorded _ => s
  | .tripped _ _ openUntil => { s with brokenUntil := some openUntil }
  | .reset | .autoReset => { s with brokenUntil := none }

/-- The stops a log leaves in force. -/
def logStops : Stops := log.foldl Stops.note {}

private theorem logStops_concat : logStops (log ++ [event]) = (logStops log).note event := by
  simp [logStops]

private theorem lastKillSwitch_concat :
    lastKillSwitch (log ++ [event]) =
      if event.kind.control = .killSwitch then some event.kind else lastKillSwitch log := by
  by_cases h : event.kind.control = .killSwitch <;> simp [lastKillSwitch, h]

private theorem lastBreaker_concat :
    lastBreaker (log ++ [event]) =
      if event.kind.changesBreaker then some event.kind else lastBreaker log := by
  by_cases h : event.kind.changesBreaker <;> simp [lastBreaker, h]

private theorem killed_logStops :
    (logStops log).killed = true ↔ lastKillSwitch log = some .killSwitchEnabled := by
  induction log using List.reverseRecOn with
  | nil => simp [logStops, lastKillSwitch]
  | append_singleton log event ih =>
    rw [logStops_concat, lastKillSwitch_concat]
    cases hkind : event.kind <;> simp [Stops.note, RiskEventKind.control, hkind, ih]

private theorem brokenUntil_logStops :
    (logStops log).brokenUntil = (lastBreaker log).bind (·.openUntil) := by
  induction log using List.reverseRecOn with
  | nil => rfl
  | append_singleton log event ih =>
    rw [logStops_concat, lastBreaker_concat]
    cases hkind : event.kind <;>
      simp [Stops.note, RiskEventKind.changesBreaker, RiskEventKind.openUntil, hkind, ih]

private def Emits (p p' : RiskControlPlane) : Prop :=
  ∃ new, p'.events = p.events ++ new ∧ p'.stops = new.foldl Stops.note p.stops

private theorem Emits.refl (p : RiskControlPlane) : Emits p p := ⟨[], by simp, rfl⟩

private theorem Emits.trans {p q r : RiskControlPlane} (hpq : Emits p q) (hqr : Emits q r) :
    Emits p r := by
  obtain ⟨new, hevs, hstops⟩ := hpq
  obtain ⟨more, hevs', hstops'⟩ := hqr
  exact ⟨new ++ more, by rw [hevs', hevs, List.append_assoc],
    by rw [hstops', hstops, List.foldl_append]⟩

variable {p' : RiskControlPlane}

private theorem emits_emit {p : RiskControlPlane} (reason actor : String) (now : Instant)
    (kind : RiskEventKind) (hevs : p'.events = p.events)
    (hstops : p'.stops = p.stops.note ⟨kind, reason, actor, now⟩) :
    Emits p (p'.emit reason actor now kind) :=
  ⟨[⟨kind, reason, actor, now⟩], by simp [RiskControlPlane.emit, hevs], hstops⟩

section

variable (p : RiskControlPlane) (reason actor : String) (now : Instant)

private theorem emits_tripCircuitBreaker {cooldownSeconds : Option ℤ}
    (h : p.tripCircuitBreaker reason actor now cooldownSeconds = .ok p') : Emits p p' := by
  unfold RiskControlPlane.tripCircuitBreaker at h
  dsimp only at h
  split at h
  · cases h
  · split at h
    · cases h
    · cases h
      exact emits_emit reason actor now _ rfl rfl

/-- Only a drain does more to the log than to append to it. -/
private theorem emits_apply {op : ControlOp} (h : op ≠ .drainEvents) : Emits p (op.apply p) := by
  cases op with
  | enableKillSwitch reason actor now | disableKillSwitch reason actor now
    | resetCircuitBreaker reason actor now =>
    simp only [ControlOp.apply, RiskControlPlane.enableKillSwitch,
      RiskControlPlane.disableKillSwitch, RiskControlPlane.resetCircuitBreaker]
    split
    · exact Emits.refl p
    · exact emits_emit reason actor now _ rfl rfl
  | recordFailure reason actor now =>
    have hrec : Emits p ({ p with consecutiveFailures := p.consecutiveFailures + 1 }.emit
        reason actor now (.failureRecorded (p.consecutiveFailures + 1))) :=
      emits_emit reason actor now _ rfl rfl
    simp only [ControlOp.apply, RiskControlPlane.recordFailure]
    split
    · split
      · next tripped htrip => exact hrec.trans (emits_tripCircuitBreaker _ _ _ _ htrip)
      · exact hrec
    · exact hrec
  | recordSuccess => exact Emits.refl p
  | tripCircuitBreaker reason actor now cooldownSeconds =>
    rw [ControlOp.apply]
    cases htrip : p.tripCircuitBreaker reason actor now cooldownSeconds with
    | error e => exact Emits.refl p
    | ok tripped => exact emits_tripCircuitBreaker _ _ _ _ htrip
  | snapshot now | evaluateOrderAllowed now =>
    change Emits p (p.autoResetIfExpired now)
    unfold RiskControlPlane.autoResetIfExpired
    split
    · exact Emits.refl p
    · split
      · exact Emits.refl p
      · exact emits_emit _ _ now _ rfl rfl
  | drainEvents => exact absurd rfl h

end

/-- The events emitted so far account for the stops in force. -/
def AuditedPlane.Accounted (a : AuditedPlane) : Prop := a.plane.stops = logStops a.history

variable {a : AuditedPlane}

private theorem accounted_of_emits (h : a.Accounted) (hemits : Emits a.plane p') :
    (AuditedPlane.mk p' a.drained).Accounted := by
  obtain ⟨new, hevs, hstops⟩ := hemits
  have hhistory : (AuditedPlane.mk p' a.drained).history = a.history ++ new := by
    simp [AuditedPlane.history, hevs]
  calc p'.stops = new.foldl Stops.note (logStops a.history) := by rw [hstops, h]
    _ = logStops (AuditedPlane.mk p' a.drained).history := by
      rw [hhistory, logStops, logStops, List.foldl_append]

private theorem AuditedPlane.accounted_step (op : ControlOp) (h : a.Accounted) :
    (a.step op).Accounted := by
  by_cases hdrain : op = .drainEvents
  · -- what leaves the plane stays in the history
    subst hdrain
    have hhistory : (a.step .drainEvents).history = a.history := by
      simp [step, history, ControlOp.drained, ControlOp.apply, RiskControlPlane.drainEvents]
    rw [Accounted, hhistory]
    exact h
  · have hn : op.drained a.plane = [] := by cases op <;> first | rfl | exact absurd rfl hdrain
    rw [step, hn, List.append_nil]
    exact accounted_of_emits h (emits_apply _ hdrain)

/-! ### The gate and the breaker along a run -/

private theorem followsLog_of_stops {p : RiskControlPlane} {now : Instant}
    {log : List RiskControlEvent} (hkilled : p.stops.killed = (logStops log).killed)
    (hbroken : p.stops.brokenUntil.any (now < ·) = (logStops log).brokenUntil.any (now < ·)) :
    FollowsLog (p.evaluateOrderAllowed now).1 now log := by
  rw [p.evaluateOrderAllowed_fst, hkilled, hbroken]
  constructor
  · rw [← killed_logStops]
    cases (logStops log).killed <;> cases (logStops log).brokenUntil.any (now < ·) <;> simp
  · rw [← brokenUntil_logStops]
    have hopen : (∃ openUntil ∈ (logStops log).brokenUntil, now < openUntil) ↔
        (logStops log).brokenUntil.any (now < ·) = true := by
      cases (logStops log).brokenUntil <;> simp
    rw [hopen]
    cases (logStops log).killed <;> cases (logStops log).brokenUntil.any (now < ·) <;> simp

private theorem gateFollowsLog_of_accounted (h : a.Accounted) : GateFollowsLog a := by
  intro now
  have hafter := a.accounted_step (.evaluateOrderAllowed now) h
  have hexpired : (a.step (.evaluateOrderAllowed now)).plane.stops = a.plane.stops.expire now :=
    a.plane.stops_autoResetIfExpired now
  refine ⟨followsLog_of_stops (by rw [h]) (by rw [h]), followsLog_of_stops ?_ ?_⟩
  · rw [← hafter, hexpired]
    rfl
  · rw [← hafter, hexpired, Stops.any_brokenUntil_expire]

private theorem trippedAtThreshold_iff (h : a.Accounted) :
    TrippedAtThreshold a ↔ (a.plane.threshold ≤ a.plane.consecutiveFailures →
      a.plane.circuitBreakerOpenUntil.isSome) := by
  have hbroken : a.plane.circuitBreakerOpenUntil = (lastBreaker a.history).bind (·.openUntil) :=
    (congrArg Stops.brokenUntil h).trans (brokenUntil_logStops a.history)
  rw [TrippedAtThreshold, hbroken]

/-! ### What the operations decide by -/

/-- The part of the plane its decisions are made from: the stops and the failure count. -/
structure ControlCore where
  killed : Bool
  failures : ℕ
  brokenUntil : Option Instant
  deriving DecidableEq

namespace ControlCore

/-- The breaker is opened for `cooldown` seconds, unless it raises. -/
def trip (c : ControlCore) (now : Instant) (cooldown : ℤ) : ControlCore :=
  if 0 < cooldown ∧ now + cooldown * 1000000 ≤ datetimeMax then
    { c with brokenUntil := some (now + cooldown * 1000000) }
  else c

/-- The breaker's cooldown has elapsed by `now`. -/
def Elapsed (c : ControlCore) (now : Instant) : Prop := ∃ openUntil ∈ c.brokenUntil, openUntil ≤ now

instance (c : ControlCore) (now : Instant) : Decidable (c.Elapsed now) :=
  inferInstanceAs (Decidable (∃ openUntil ∈ c.brokenUntil, openUntil ≤ now))

/-- A breaker whose cooldown has elapsed is closed and its failures are forgotten. -/
def expire (c : ControlCore) (now : Instant) : ControlCore :=
  if c.Elapsed now then { c with failures := 0, brokenUntil := none } else c

/-- What an operation does to the core, for a threshold and a default cooldown. -/
def step (threshold cooldownSeconds : ℕ) (c : ControlCore) : ControlOp → ControlCore
  | .enableKillSwitch _ _ _ => { c with killed := true }
  | .disableKillSwitch _ _ _ => { c with killed := false }
  | .recordFailure _ _ now =>
    let recorded := { c with failures := c.failures + 1 }
    if threshold ≤ recorded.failures then recorded.trip now cooldownSeconds else recorded
  | .recordSuccess => { c with failures := 0 }
  | .tripCircuitBreaker _ _ now seconds =>
    c.trip now (if seconds.getD 0 = 0 then cooldownSeconds else seconds.getD 0)
  | .resetCircuitBreaker _ _ _ => { c with failures := 0, brokenUntil := none }
  | .snapshot now | .evaluateOrderAllowed now => c.expire now
  | .drainEvents => c

end ControlCore

namespace RiskControlPlane

variable (p : RiskControlPlane) (reason actor : String) (now : Instant)

/-- The core of a plane. -/
def core : ControlCore :=
  ⟨p.killSwitchEnabled, p.consecutiveFailures, p.circuitBreakerOpenUntil⟩

private theorem core_tripCircuitBreaker (cooldownSeconds : Option ℤ) :
    let tripped := (p.tripCircuitBreaker reason actor now cooldownSeconds).toOption.getD p
    tripped.core = p.core.trip now (p.effectiveCooldown cooldownSeconds) ∧
      tripped.threshold = p.threshold ∧ tripped.cooldownSeconds = p.cooldownSeconds := by
  unfold tripCircuitBreaker ControlCore.trip
  dsimp only
  by_cases hpos : p.effectiveCooldown cooldownSeconds ≤ 0
  · rw [if_pos hpos, if_neg fun h => absurd h.1 (not_lt.mpr hpos)]
    exact ⟨rfl, rfl, rfl⟩
  · rw [if_neg hpos]
    by_cases hover : now + p.effectiveCooldown cooldownSeconds * 1000000 > datetimeMax
    · rw [if_pos hover, if_neg fun h => absurd h.2 (not_le.mpr hover)]
      exact ⟨rfl, rfl, rfl⟩
    · rw [if_neg hover, if_pos ⟨not_le.mp hpos, not_lt.mp hover⟩]
      exact ⟨rfl, rfl, rfl⟩

private theorem core_recordFailure :
    let recorded := (p.recordFailure reason actor now).1
    recorded.core = p.core.step p.threshold p.cooldownSeconds (.recordFailure reason actor now) ∧
      recorded.threshold = p.threshold ∧ recorded.cooldownSeconds = p.cooldownSeconds := by
  have htrip := core_tripCircuitBreaker
    ({ p with consecutiveFailures := p.consecutiveFailures + 1 }.emit reason actor now
      (.failureRecorded (p.consecutiveFailures + 1))) reason actor now none
  unfold recordFailure ControlCore.step
  dsimp only at htrip ⊢
  by_cases hreached : p.threshold ≤ p.consecutiveFailures + 1
  · rw [if_pos hreached, if_pos (show p.threshold ≤ p.core.failures + 1 from hreached)]
    split
    · next tripped heq =>
      rw [heq] at htrip
      exact htrip
    · next e heq =>
      rw [heq] at htrip
      exact htrip
  · rw [if_neg hreached, if_neg (show ¬ p.threshold ≤ p.core.failures + 1 from hreached)]
    exact ⟨rfl, rfl, rfl⟩

private theorem core_autoResetIfExpired :
    (p.autoResetIfExpired now).core = p.core.expire now ∧
      (p.autoResetIfExpired now).threshold = p.threshold ∧
      (p.autoResetIfExpired now).cooldownSeconds = p.cooldownSeconds := by
  unfold autoResetIfExpired ControlCore.expire
  cases h : p.circuitBreakerOpenUntil with
  | none =>
    rw [if_neg (by rintro ⟨openUntil, hopen, -⟩; rw [core, h] at hopen; cases hopen)]
    exact ⟨rfl, rfl, rfl⟩
  | some openUntil =>
    dsimp only
    by_cases hopen : now < openUntil
    · rw [if_pos hopen, if_neg ?_]
      · exact ⟨rfl, rfl, rfl⟩
      · rintro ⟨until', huntil, hle⟩
        obtain rfl : openUntil = until' := Option.some.inj (h.symm.trans huntil)
        exact absurd hle (not_le.mpr hopen)
    · rw [if_neg hopen, if_pos ⟨openUntil, h, not_lt.mp hopen⟩]
      exact ⟨rfl, rfl, rfl⟩

/-- Every operation acts on the core alone, and keeps the configuration. -/
theorem core_apply (op : ControlOp) :
    (op.apply p).core = p.core.step p.threshold p.cooldownSeconds op ∧
      (op.apply p).threshold = p.threshold ∧
      (op.apply p).cooldownSeconds = p.cooldownSeconds := by
  cases op with
  | enableKillSwitch reason actor now =>
    cases h : p.killSwitchEnabled <;>
      simp [ControlOp.apply, enableKillSwitch, core, emit, ControlCore.step, h]
  | disableKillSwitch reason actor now =>
    cases h : p.killSwitchEnabled <;>
      simp [ControlOp.apply, disableKillSwitch, core, emit, ControlCore.step, h]
  | recordFailure reason actor now => exact p.core_recordFailure reason actor now
  | recordSuccess => exact ⟨rfl, rfl, rfl⟩
  | tripCircuitBreaker reason actor now seconds =>
    have hcooldown : p.effectiveCooldown seconds =
        if seconds.getD 0 = 0 then (p.cooldownSeconds : ℤ) else seconds.getD 0 := by
      cases seconds <;> rfl
    have htrip := p.core_tripCircuitBreaker reason actor now seconds
    rw [hcooldown] at htrip
    exact htrip
  | resetCircuitBreaker reason actor now =>
    unfold ControlOp.apply
    dsimp only
    unfold resetCircuitBreaker
    split
    · next h => simp [core, ControlCore.step, h]
    · exact ⟨rfl, rfl, rfl⟩
  | snapshot now | evaluateOrderAllowed now => exact p.core_autoResetIfExpired now
  | drainEvents => exact ⟨rfl, rfl, rfl⟩

end RiskControlPlane

/-! ### The breaker at the threshold -/

private def ControlCore.Guarded (threshold : ℕ) (c : ControlCore) : Prop :=
  threshold ≤ c.failures → c.brokenUntil.isSome

section

variable {threshold : ℕ} {c : ControlCore}

private theorem ControlCore.guarded_of_zero (ht : 0 < threshold) (h : c.failures = 0) :
    c.Guarded threshold := by
  intro hreached
  omega

private theorem ControlCore.Guarded.trip (h : c.Guarded threshold) (now : Instant)
    (cooldown : ℤ) : (c.trip now cooldown).Guarded threshold := by
  unfold ControlCore.trip
  split
  · exact fun _ => rfl
  · exact h

private theorem ControlCore.Guarded.expire (ht : 0 < threshold) (h : c.Guarded threshold)
    (now : Instant) : (c.expire now).Guarded threshold := by
  unfold ControlCore.expire
  split
  · exact guarded_of_zero ht rfl
  · exact h

private theorem ControlCore.guarded_recordFailure {cooldown : ℕ} (hc : 0 < cooldown)
    (reason actor : String) (now : Instant) :
    (c.step threshold cooldown (.recordFailure reason actor now)).Guarded threshold ↔
      (threshold ≤ c.failures + 1 → c.brokenUntil = none →
        now + cooldown * 1000000 ≤ datetimeMax) := by
  unfold ControlCore.step
  dsimp only
  split
  · next hreached =>
    have hpos : (0 : ℤ) < cooldown := by exact_mod_cast hc
    by_cases hends : now + (cooldown : ℤ) * 1000000 ≤ datetimeMax
    · rw [ControlCore.trip, if_pos ⟨hpos, hends⟩]
      exact iff_of_true (fun _ => rfl) fun _ _ => hends
    · rw [ControlCore.trip, if_neg fun h => hends h.2]
      constructor
      · intro h _ hn
        have hsome := h hreached
        rw [hn] at hsome
        cases hsome
      · intro h _
        cases hbroken : c.brokenUntil with
        | none => exact absurd (h hreached hbroken) hends
        | some openUntil => rfl
  · next hbelow => exact iff_of_true (fun h => absurd h hbelow) fun h => absurd h hbelow

end

private theorem trippedAtThreshold_step (op : ControlOp) (h : a.Accounted)
    (htripped : TrippedAtThreshold a) : TrippedAtThreshold (a.step op) ↔ TripFits a op := by
  obtain ⟨hcore, hthreshold, -⟩ := a.plane.core_apply op
  have ht := a.plane.threshold_pos
  have hbefore : a.plane.core.Guarded a.plane.threshold := (trippedAtThreshold_iff h).mp htripped
  have hafter : TrippedAtThreshold (a.step op) ↔
      (a.plane.core.step a.plane.threshold a.plane.cooldownSeconds op).Guarded
        a.plane.threshold := by
    rw [trippedAtThreshold_iff (a.accounted_step op h), ← hcore]
    change (op.apply a.plane).core.Guarded (op.apply a.plane).threshold ↔ _
    rw [hthreshold]
  rw [hafter]
  cases op with
  | recordFailure reason actor now =>
    exact ControlCore.guarded_recordFailure a.plane.cooldownSeconds_pos reason actor now
  | enableKillSwitch | disableKillSwitch => exact iff_of_true hbefore trivial
  | recordSuccess => exact iff_of_true (ControlCore.guarded_of_zero ht rfl) trivial
  | tripCircuitBreaker reason actor now seconds => exact iff_of_true (hbefore.trip _ _) trivial
  | resetCircuitBreaker reason actor now =>
    exact iff_of_true (ControlCore.guarded_of_zero ht rfl) trivial
  | snapshot now | evaluateOrderAllowed now => exact iff_of_true (hbefore.expire ht now) trivial
  | drainEvents => exact iff_of_true hbefore trivial

private theorem create_eq_ok {threshold cooldownSeconds : ℤ} {p : RiskControlPlane}
    (h : RiskControlPlane.create threshold cooldownSeconds = .ok p) :
    p.stops = {} ∧ p.consecutiveFailures = 0 ∧ p.events = [] := by
  unfold RiskControlPlane.create at h
  split at h
  · cases h
  · split at h
    · cases h
    · cases h
      exact ⟨rfl, rfl, rfl⟩

/-- In every run of a new plane the gate is decided by the last events of each control. The breaker
is tripped whenever the failures reach the threshold exactly in the runs where each failure that
reaches it, with no trip in force, has a cooldown that ends by the last `datetime`. -/
theorem gateFollowsLog_and_trippedAtThreshold {threshold cooldownSeconds : ℤ}
    {p : RiskControlPlane} (hnew : RiskControlPlane.create threshold cooldownSeconds = .ok p)
    (ops : List ControlOp) :
    Throughout AuditedPlane.step GateFollowsLog ⟨p, []⟩ ops ∧
      (Throughout AuditedPlane.step TrippedAtThreshold ⟨p, []⟩ ops ↔
        Along AuditedPlane.step TripFits ⟨p, []⟩ ops) := by
  obtain ⟨hstops, hfailures, hevents⟩ := create_eq_ok hnew
  have hstart : (AuditedPlane.mk p []).Accounted := by
    rw [AuditedPlane.Accounted, AuditedPlane.history, hevents]
    exact hstops
  constructor
  · have hlog : Throughout AuditedPlane.step AuditedPlane.Accounted ⟨p, []⟩ ops :=
      throughout_of_step (fun a op h => a.accounted_step op h) ops hstart
    exact hlog.mono fun _ h => gateFollowsLog_of_accounted h
  · have htripped : TrippedAtThreshold ⟨p, []⟩ := by
      intro hreached
      have hpos := p.threshold_pos
      have : p.threshold ≤ p.consecutiveFailures := hreached
      omega
    exact @throughout_iff_along_of_inv _ _ _ AuditedPlane.Accounted _ _ _
      (fun a op h _ => a.accounted_step op h)
      (fun a op h hprop => trippedAtThreshold_step op h hprop) ops hstart htripped

/-- Three failures of a new plane, the last of which trips the breaker. -/
theorem three_failures_trip :
    let failures := List.replicate 3 (ControlOp.recordFailure "r" "a" 0)
    RiskControlPlane.create 3 60 = .ok {} ∧
      Throughout AuditedPlane.step GateFollowsLog ⟨{}, []⟩ failures ∧
      Throughout AuditedPlane.step TrippedAtThreshold ⟨{}, []⟩ failures := by
  have hnew : RiskControlPlane.create 3 60 = .ok {} := rfl
  have hends : (0 : ℤ) + 60 * 1000000 ≤ datetimeMax := by decide
  obtain ⟨hgate, htripped⟩ := gateFollowsLog_and_trippedAtThreshold hnew
    (List.replicate 3 (.recordFailure "r" "a" 0))
  exact ⟨hnew, hgate, htripped.mpr ⟨fun _ _ => hends, fun _ _ => hends, fun _ _ => hends, trivial⟩⟩

/-- Three failures a second before the last `datetime`: the third raises, and the breaker stays
closed with three failures counted. -/
theorem failures_at_datetimeMax_not_tripped :
    let failure := ControlOp.recordFailure "r" "a" (datetimeMax - 1000000)
    let reached := run AuditedPlane.step ⟨{}, []⟩ (List.replicate 3 failure)
    RiskControlPlane.create 3 60 = .ok {} ∧
      reached.plane.consecutiveFailures = 3 ∧ reached.plane.threshold = 3 ∧
      lastBreaker reached.history = none ∧ ¬ TrippedAtThreshold reached := by
  have hnone : lastBreaker (run AuditedPlane.step ⟨{}, []⟩ (List.replicate 3
      (.recordFailure "r" "a" (datetimeMax - 1000000)))).history = none := by decide +kernel
  refine ⟨rfl, by decide +kernel, by decide +kernel, hnone, fun htripped => ?_⟩
  have hsome := htripped (by decide +kernel)
  rw [hnone] at hsome
  cases hsome

end OpenTrader.Oms
