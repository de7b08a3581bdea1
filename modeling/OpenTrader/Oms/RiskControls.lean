import Mathlib.Data.Int.Order.Basic
import Mathlib.Data.List.Basic

/-!
# Kill switch and circuit breaker

Library `Oms`. `services/oms/risk_controls.py:9-224`. The control plane holds the two stop
controls and a log of what changed them. Instants are microseconds since the epoch, the
resolution of `datetime`.
-/

namespace OpenTrader.Oms

/-- A `datetime` in UTC, in microseconds since the epoch. -/
abbrev Instant := ℤ

/-- `datetime.max`. -/
def datetimeMax : Instant := 253402300799999999

/-- The stop controls. -/
inductive RiskControl where
  | killSwitch
  | circuitBreaker
  deriving DecidableEq

/-- Text of a control. -/
def RiskControl.name : RiskControl → String
  | .killSwitch => "kill_switch"
  | .circuitBreaker => "circuit_breaker"

/-- What a control event reports, with the metadata of its kind. -/
inductive RiskEventKind where
  | killSwitchEnabled
  | killSwitchDisabled
  | failureRecorded (consecutiveFailures : ℕ)
  | tripped (consecutiveFailures threshold : ℕ) (openUntil : Instant)
  | reset
  | autoReset
  deriving DecidableEq

/-- `event_type`. -/
def RiskEventKind.eventType : RiskEventKind → String
  | .killSwitchEnabled => "risk.kill_switch.enabled"
  | .killSwitchDisabled => "risk.kill_switch.disabled"
  | .failureRecorded _ => "risk.circuit_breaker.failure_recorded"
  | .tripped .. => "risk.circuit_breaker.tripped"
  | .reset => "risk.circuit_breaker.reset"
  | .autoReset => "risk.circuit_breaker.auto_reset"

/-- `control`. -/
def RiskEventKind.control : RiskEventKind → RiskControl
  | .killSwitchEnabled | .killSwitchDisabled => .killSwitch
  | _ => .circuitBreaker

/-- `status`. -/
def RiskEventKind.status : RiskEventKind → String
  | .killSwitchEnabled => "ENABLED"
  | .killSwitchDisabled => "DISABLED"
  | .failureRecorded _ => "FAILURE_RECORDED"
  | .tripped .. => "OPEN"
  | .reset | .autoReset => "CLOSED"

/-- `RiskControlEvent`. -/
structure RiskControlEvent where
  kind : RiskEventKind
  reason : String
  actor : String
  occurredAt : Instant
  deriving DecidableEq

/-- `RiskControlGate`. -/
structure RiskControlGate where
  allowed : Bool
  blockedBy : List RiskControl
  deriving DecidableEq

/-- `RiskControlState`. -/
structure RiskControlState where
  killSwitchEnabled : Bool
  circuitBreakerOpen : Bool
  consecutiveFailures : ℕ
  circuitBreakerOpenUntil : Option Instant

/-- What a control operation can raise. -/
inductive ControlError where
  | valueError (message : String)
  | overflowError
  | runtimeError (message : String)
  deriving DecidableEq

/-- `RiskControlPlane`; its constructor refuses a threshold or cooldown that is not positive. -/
structure RiskControlPlane where
  threshold : ℕ := 3
  cooldownSeconds : ℕ := 60
  killSwitchEnabled : Bool := false
  consecutiveFailures : ℕ := 0
  circuitBreakerOpenUntil : Option Instant := none
  events : List RiskControlEvent := []
  threshold_pos : 0 < threshold := by decide
  cooldownSeconds_pos : 0 < cooldownSeconds := by decide

namespace RiskControlPlane

/-- `__init__`; `risk_controls.py:36-52`. -/
def create (threshold cooldownSeconds : ℤ) : Except ControlError RiskControlPlane :=
  if ht : threshold ≤ 0 then .error (.valueError "circuit_breaker_threshold must be positive")
  else if hc : cooldownSeconds ≤ 0 then
    .error (.valueError "circuit_breaker_cooldown_seconds must be positive")
  else .ok
    { threshold := threshold.toNat
      cooldownSeconds := cooldownSeconds.toNat
      threshold_pos := by omega
      cooldownSeconds_pos := by omega }

variable (p : RiskControlPlane) (reason actor : String) (now : Instant)

/-- `_emit`; `risk_controls.py:203-224`. -/
def emit (kind : RiskEventKind) : RiskControlPlane :=
  { p with events := p.events ++ [⟨kind, reason, actor, now⟩] }

/-- `enable_kill_switch`; `risk_controls.py:54-67`. -/
def enableKillSwitch : RiskControlPlane :=
  if p.killSwitchEnabled then p
  else { p with killSwitchEnabled := true }.emit reason actor now .killSwitchEnabled

/-- `disable_kill_switch`; `risk_controls.py:69-82`. -/
def disableKillSwitch : RiskControlPlane :=
  if !p.killSwitchEnabled then p
  else { p with killSwitchEnabled := false }.emit reason actor now .killSwitchDisabled

/-- `cooldown_seconds or self._cooldown_seconds`: a cooldown of zero counts as none. -/
def effectiveCooldown (cooldownSeconds : Option ℤ) : ℤ :=
  match cooldownSeconds with
  | some seconds => if seconds = 0 then p.cooldownSeconds else seconds
  | none => p.cooldownSeconds

/-- `trip_circuit_breaker`; `risk_controls.py:103-130`. An end beyond the last `datetime` overflows
before anything is stored. -/
def tripCircuitBreaker (cooldownSeconds : Option ℤ) : Except ControlError RiskControlPlane :=
  let cooldown := p.effectiveCooldown cooldownSeconds
  let openUntil := now + cooldown * 1000000
  if cooldown ≤ 0 then .error (.valueError "cooldown_seconds must be positive")
  else if openUntil > datetimeMax then .error .overflowError
  else .ok ({ p with circuitBreakerOpenUntil := some openUntil }.emit reason actor now
    (.tripped p.consecutiveFailures p.threshold openUntil))

/-- `record_failure`; `risk_controls.py:84-98`. The failure stays recorded when the trip it leads to
raises. -/
def recordFailure : RiskControlPlane × Except ControlError Unit :=
  let failures := p.consecutiveFailures + 1
  let recorded := { p with consecutiveFailures := failures }.emit reason actor now
    (.failureRecorded failures)
  if failures ≥ p.threshold then
    match recorded.tripCircuitBreaker reason actor now none with
    | .ok tripped => (tripped, .ok ())
    | .error error => (recorded, .error error)
  else (recorded, .ok ())

/-- `record_success`; `risk_controls.py:100-101`. -/
def recordSuccess : RiskControlPlane := { p with consecutiveFailures := 0 }

/-- `reset_circuit_breaker`; `risk_controls.py:132-146`. -/
def resetCircuitBreaker : RiskControlPlane :=
  if p.circuitBreakerOpenUntil = none ∧ p.consecutiveFailures = 0 then p
  else { p with circuitBreakerOpenUntil := none, consecutiveFailures := 0 }.emit reason actor now
    .reset

/-- `_is_circuit_breaker_open`; `risk_controls.py:180-183`. -/
def isCircuitBreakerOpen : Bool := p.circuitBreakerOpenUntil.any (now < ·)

/-- `_auto_reset_if_expired`; `risk_controls.py:185-201`. -/
def autoResetIfExpired : RiskControlPlane :=
  match p.circuitBreakerOpenUntil with
  | none => p
  | some openUntil =>
    if now < openUntil then p
    else { p with circuitBreakerOpenUntil := none, consecutiveFailures := 0 }.emit
      "cooldown elapsed" "system" now .autoReset

/-- `evaluate_order_allowed`; `risk_controls.py:148-158`. -/
def evaluateOrderAllowed : RiskControlGate × RiskControlPlane :=
  let p := p.autoResetIfExpired now
  let blocked :=
    (if p.killSwitchEnabled then [.killSwitch] else []) ++
      if p.isCircuitBreakerOpen now then [.circuitBreaker] else []
  (⟨blocked.isEmpty, blocked⟩, p)

/-- `snapshot`; `risk_controls.py:160-173`. -/
def snapshot : RiskControlState × RiskControlPlane :=
  let p := p.autoResetIfExpired now
  (⟨p.killSwitchEnabled, p.isCircuitBreakerOpen now, p.consecutiveFailures,
    p.circuitBreakerOpenUntil⟩, p)

/-- `drain_events`; `risk_controls.py:175-178`. -/
def drainEvents : List RiskControlEvent × RiskControlPlane :=
  (p.events, { p with events := [] })

end RiskControlPlane

/-! ### What the controls stop -/

/-- The stops in force: the kill switch, and the end of the breaker's cooldown. -/
structure Stops where
  killed : Bool := false
  brokenUntil : Option Instant := none
  deriving DecidableEq

namespace Stops

variable (s : Stops) (now : Instant)

/-- An order at `now` is stopped. -/
def Blocks : Prop :=
  s.killed = true ∨ s.brokenUntil.any (now < ·) = true

instance (s : Stops) (now : Instant) : Decidable (s.Blocks now) :=
  inferInstanceAs (Decidable (_ ∨ _))

/-- A cooldown that has elapsed by `now` is over for good. -/
def expire : Stops :=
  { s with brokenUntil := s.brokenUntil.filter (now < ·) }

@[simp] theorem expire_expire : (s.expire now).expire now = s.expire now := by
  cases h : s.brokenUntil with
  | none => simp [expire, h]
  | some openUntil => by_cases hopen : now < openUntil <;> simp [expire, Option.filter, h, hopen]

/-- Expiry at `now` changes nothing for a breaker still open at `now`. -/
@[simp] theorem any_brokenUntil_expire :
    (s.expire now).brokenUntil.any (now < ·) = s.brokenUntil.any (now < ·) := by
  cases h : s.brokenUntil with
  | none => simp [expire, h]
  | some openUntil => by_cases hopen : now < openUntil <;> simp [expire, Option.filter, h, hopen]

end Stops

namespace RiskControlPlane

variable (p : RiskControlPlane) (reason actor : String) (now : Instant)

/-- The stops a control plane has in force. -/
def stops : Stops := ⟨p.killSwitchEnabled, p.circuitBreakerOpenUntil⟩

/-- No operation changes the configured cooldown. -/
@[simp] theorem cooldownSeconds_enableKillSwitch :
    (p.enableKillSwitch reason actor now).cooldownSeconds = p.cooldownSeconds := by
  unfold enableKillSwitch
  split <;> rfl

@[simp] theorem cooldownSeconds_disableKillSwitch :
    (p.disableKillSwitch reason actor now).cooldownSeconds = p.cooldownSeconds := by
  unfold disableKillSwitch
  split <;> rfl

@[simp] theorem cooldownSeconds_resetCircuitBreaker :
    (p.resetCircuitBreaker reason actor now).cooldownSeconds = p.cooldownSeconds := by
  unfold resetCircuitBreaker
  split <;> rfl

@[simp] theorem cooldownSeconds_autoResetIfExpired :
    (p.autoResetIfExpired now).cooldownSeconds = p.cooldownSeconds := by
  unfold autoResetIfExpired
  split
  · rfl
  · split <;> rfl

@[simp] theorem stops_enableKillSwitch :
    (p.enableKillSwitch reason actor now).stops = { p.stops with killed := true } := by
  cases h : p.killSwitchEnabled <;> simp [enableKillSwitch, stops, emit, h]

@[simp] theorem stops_disableKillSwitch :
    (p.disableKillSwitch reason actor now).stops = { p.stops with killed := false } := by
  cases h : p.killSwitchEnabled <;> simp [disableKillSwitch, stops, emit, h]

@[simp] theorem stops_resetCircuitBreaker :
    (p.resetCircuitBreaker reason actor now).stops = { p.stops with brokenUntil := none } := by
  unfold resetCircuitBreaker
  split
  · next h => simp [stops, h.1]
  · rfl

/-- A trip with a positive cooldown either overflows or opens the breaker until its end. -/
theorem tripCircuitBreaker_of_pos {cooldownSeconds : Option ℤ}
    (hpos : 0 < p.effectiveCooldown cooldownSeconds) :
    p.tripCircuitBreaker reason actor now cooldownSeconds =
      if datetimeMax < now + p.effectiveCooldown cooldownSeconds * 1000000 then
        .error .overflowError
      else .ok ({ p with
        circuitBreakerOpenUntil :=
          some (now + p.effectiveCooldown cooldownSeconds * 1000000) }.emit reason actor now
            (.tripped p.consecutiveFailures p.threshold
              (now + p.effectiveCooldown cooldownSeconds * 1000000))) := by
  simp only [tripCircuitBreaker, if_neg (not_le.mpr hpos), gt_iff_lt]

@[simp] theorem stops_autoResetIfExpired :
    (p.autoResetIfExpired now).stops = p.stops.expire now := by
  unfold autoResetIfExpired
  cases h : p.circuitBreakerOpenUntil with
  | none => simp [stops, Stops.expire, h]
  | some openUntil =>
    by_cases hopen : now < openUntil
    · simp [stops, Stops.expire, Option.filter, h, hopen]
    · simp [stops, Stops.expire, Option.filter, emit, h, hopen]

/-- The gate names the stops in force. -/
theorem evaluateOrderAllowed_fst :
    (p.evaluateOrderAllowed now).1 =
      let blocked := (if p.stops.killed then [.killSwitch] else []) ++
        if p.stops.brokenUntil.any (now < ·) then [.circuitBreaker] else []
      ⟨blocked.isEmpty, blocked⟩ := by
  have hafter := p.stops_autoResetIfExpired now
  have hkilled : (p.autoResetIfExpired now).killSwitchEnabled = p.stops.killed :=
    congrArg Stops.killed hafter
  have hbroken : (p.autoResetIfExpired now).isCircuitBreakerOpen now =
      p.stops.brokenUntil.any (now < ·) := by
    change (p.autoResetIfExpired now).stops.brokenUntil.any (now < ·) = _
    rw [hafter, Stops.any_brokenUntil_expire]
  simp only [evaluateOrderAllowed, hkilled, hbroken]

/-- The gate lets an order through exactly when no stop is in force. -/
theorem allowed_evaluateOrderAllowed :
    (p.evaluateOrderAllowed now).1.allowed = true ↔ ¬ p.stops.Blocks now := by
  simp only [evaluateOrderAllowed_fst, Stops.Blocks]
  cases p.stops.killed <;> cases p.stops.brokenUntil.any (now < ·) <;> simp

end RiskControlPlane

end OpenTrader.Oms
