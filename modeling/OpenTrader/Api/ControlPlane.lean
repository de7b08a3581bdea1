import OpenTrader.Api.Dispatch
import OpenTrader.Oms.RiskControls

/-!
# Risk control endpoints

Library `Api`. The risk part of the control plane state, `services/api/state.py:324-361,801-811`,
and the endpoints that act on it, `services/api/routers/ops.py:336-391`, with the dependencies
they share: the caller's role, `services/api/auth.py:197-211`, and the state of the process,
`services/api/dependencies.py:18-44`, which a configured repository replaces at every request.
-/

namespace OpenTrader.Api
open Base Oms

/-- The risk fields of `ControlPlaneState`. -/
structure ControlPlaneState where
  riskControls : RiskControlPlane := {}
  riskEvents : List RiskControlEvent := []

/-- The operator's actions. -/
inductive ControlAction where
  | enableKillSwitch
  | disableKillSwitch
  | tripCircuitBreaker
  | resetCircuitBreaker
  deriving DecidableEq

/-- The control plane after an action; a trip, which alone reads the cooldown, can raise. -/
def ControlAction.perform (action : ControlAction) (p : RiskControlPlane) (reason actor : String)
    (now : Instant) (cooldownSeconds : Option ℤ) : Except ControlError RiskControlPlane :=
  match action with
  | .enableKillSwitch => .ok (p.enableKillSwitch reason actor now)
  | .disableKillSwitch => .ok (p.disableKillSwitch reason actor now)
  | .tripCircuitBreaker => p.tripCircuitBreaker reason actor now cooldownSeconds
  | .resetCircuitBreaker => .ok (p.resetCircuitBreaker reason actor now)

namespace ControlPlaneState

variable (s : ControlPlaneState)

/-- `_capture_risk_events`; `state.py:807-811`. -/
def captureRiskEvents : List RiskControlEvent × ControlPlaneState :=
  let (drained, riskControls) := s.riskControls.drainEvents
  (drained, { riskControls, riskEvents := s.riskEvents ++ drained })

/-- `_last_risk_event`; `state.py:801-805`. -/
def lastRiskEvent : Except ControlError RiskControlEvent × ControlPlaneState :=
  let (events, s) := s.captureRiskEvents
  match events.getLast? with
  | none => (.error (.runtimeError "risk control action did not emit an event"), s)
  | some event => (.ok event, s)

/-- `trip_circuit_breaker`, `reset_circuit_breaker`, `enable_kill_switch` and `disable_kill_switch`;
`state.py:339-361`. -/
def act (action : ControlAction) (reason actor : String) (now : Instant)
    (cooldownSeconds : Option ℤ) : Except ControlError RiskControlEvent × ControlPlaneState :=
  match action.perform s.riskControls reason actor now cooldownSeconds with
  | .error error => (.error error, s)
  | .ok riskControls => { s with riskControls }.lastRiskEvent

/-- `risk_status`; `state.py:324-337`. -/
def riskStatus (now : Instant) :
    (RiskControlState × RiskControlGate × List RiskControlEvent) × ControlPlaneState :=
  let (snapshot, riskControls) := s.riskControls.snapshot now
  let (gate, riskControls) := riskControls.evaluateOrderAllowed now
  let (recent, s) := { s with riskControls }.captureRiskEvents
  ((snapshot, gate, recent), s)

end ControlPlaneState

/-! ### Requests -/

/-- `UserRole`. -/
inductive UserRole where
  | viewer
  | operator
  | admin
  deriving DecidableEq

/-- `AuthPrincipal`. -/
structure AuthPrincipal where
  userId : String
  role : UserRole

/-- The role an action requires: the breaker is the operators', the kill switch the admins'. -/
def ControlAction.allows : ControlAction → UserRole → Bool
  | .tripCircuitBreaker, role | .resetCircuitBreaker, role => role = .operator ∨ role = .admin
  | .enableKillSwitch, role | .disableKillSwitch, role => role = .admin

/-- What the repository does when the state of a request is looked up: there is none or it fails,
it loads a new state, or it fails in strict mode. -/
inductive Refresh where
  | kept
  | loaded
  | unavailable
  deriving DecidableEq

/-- `get_control_plane_state`; `dependencies.py:18-44`. A loaded state comes with a new control
plane. -/
def getControlPlaneState (refresh : Refresh) (s : ControlPlaneState) :
    Except HttpError ControlPlaneState :=
  match refresh with
  | .kept => .ok s
  | .loaded => .ok {}
  | .unavailable => .error ⟨503, "Control-plane repository unavailable"⟩

/-- A request to a control endpoint; the reason and the cooldown are its body. -/
structure ControlRequest where
  principal : AuthPrincipal
  action : ControlAction
  reason : String
  cooldownSeconds : Option ℤ := none
  refresh : Refresh := .kept

/-- `RiskControlCommandRequest`: a reason, and a cooldown of at least a second if any. -/
def ControlRequest.hasValidBody (request : ControlRequest) : Bool :=
  request.reason ≠ "" ∧ request.cooldownSeconds.all (1 ≤ ·)

/-- The control endpoints; `ops.py:352-391`. An action that raises is an internal error. -/
def handleControl (s : ControlPlaneState) (now : Instant) (request : ControlRequest) :
    Except HttpError RiskControlEvent × ControlPlaneState :=
  if !request.action.allows request.principal.role then (.error ⟨403, "Insufficient role"⟩, s)
  else
    match getControlPlaneState request.refresh s with
    | .error error => (.error error, s)
    | .ok s =>
      if !request.hasValidBody then (.error ⟨422, "invalid request body"⟩, s)
      else
        let (result, s) :=
          s.act request.action request.reason request.principal.userId now request.cooldownSeconds
        (result.mapError fun _ => ⟨500, "Internal Server Error"⟩, s)

/-- `get_risk_status`; `ops.py:336-349`. Every role may read. -/
def handleStatus (s : ControlPlaneState) (now : Instant) (refresh : Refresh) :
    Except HttpError (RiskControlState × RiskControlGate × List RiskControlEvent) ×
      ControlPlaneState :=
  match getControlPlaneState refresh s with
  | .error error => (.error error, s)
  | .ok s =>
    let (status, s) := s.riskStatus now
    (.ok status, s)

/-! ### What a request does to the stops -/

/-- The stops a process has in force. -/
def ControlPlaneState.stops (s : ControlPlaneState) : Stops := s.riskControls.stops

/-- The end of a cooldown the operator asks for: the body's, or the default of a minute. -/
def cooldownEnd (now : Instant) (cooldownSeconds : Option ℤ) : Instant :=
  now + cooldownSeconds.getD 60 * 1000000

/-- What an operator's action means for the stops. A trip whose cooldown would end after the last
`datetime` does nothing. -/
def ControlAction.effect (action : ControlAction) (now : Instant) (cooldownSeconds : Option ℤ)
    (stops : Stops) : Stops :=
  match action with
  | .enableKillSwitch => { stops with killed := true }
  | .disableKillSwitch => { stops with killed := false }
  | .tripCircuitBreaker =>
    if datetimeMax < cooldownEnd now cooldownSeconds then stops
    else { stops with brokenUntil := some (cooldownEnd now cooldownSeconds) }
  | .resetCircuitBreaker => { stops with brokenUntil := none }

/-- What a lookup of the state means for the stops: a loaded state has none. -/
def Refresh.effect (refresh : Refresh) (stops : Stops) : Stops :=
  if refresh = .loaded then {} else stops

/-- What a control request means for the stops. -/
def ControlRequest.effect (request : ControlRequest) (now : Instant) (stops : Stops) : Stops :=
  if !request.action.allows request.principal.role then stops
  else if request.refresh = .unavailable ∨ !request.hasValidBody then request.refresh.effect stops
  else request.action.effect now request.cooldownSeconds (request.refresh.effect stops)

/-- What a status read means for the stops: it ends a cooldown that has elapsed. -/
def statusEffect (refresh : Refresh) (now : Instant) (stops : Stops) : Stops :=
  if refresh = .unavailable then stops else (refresh.effect stops).expire now

/-- The process runs with the default cooldown. -/
def ControlPlaneState.DefaultCooldown (s : ControlPlaneState) : Prop :=
  s.riskControls.cooldownSeconds = 60

namespace ControlPlaneState

variable {s : ControlPlaneState}

private theorem riskControls_lastRiskEvent :
    s.lastRiskEvent.2.riskControls = { s.riskControls with events := [] } := by
  simp only [lastRiskEvent, captureRiskEvents, RiskControlPlane.drainEvents]
  split <;> rfl

/-- Handing out the events does not touch the stops. -/
@[simp] theorem stops_lastRiskEvent : s.lastRiskEvent.2.stops = s.stops := by
  rw [stops, riskControls_lastRiskEvent]
  rfl

private theorem effectiveCooldown_eq (h : s.DefaultCooldown) {cooldownSeconds : Option ℤ}
    (hc : cooldownSeconds.all (1 ≤ ·) = true) :
    s.riskControls.effectiveCooldown cooldownSeconds = cooldownSeconds.getD 60 ∧
      0 < s.riskControls.effectiveCooldown cooldownSeconds := by
  unfold DefaultCooldown at h
  cases cooldownSeconds with
  | none => simp [RiskControlPlane.effectiveCooldown, h]
  | some seconds =>
    have hpos : 1 ≤ seconds := by simpa using hc
    have hne : seconds ≠ 0 := by omega
    simp only [RiskControlPlane.effectiveCooldown, if_neg hne, Option.getD_some, true_and]
    omega

private theorem stops_act (h : s.DefaultCooldown) (action : ControlAction) (reason actor : String)
    (now : Instant) {cooldownSeconds : Option ℤ} (hc : cooldownSeconds.all (1 ≤ ·) = true) :
    (s.act action reason actor now cooldownSeconds).2.stops =
      action.effect now cooldownSeconds s.stops := by
  cases action with
  | enableKillSwitch =>
    exact stops_lastRiskEvent.trans (s.riskControls.stops_enableKillSwitch reason actor now)
  | disableKillSwitch =>
    exact stops_lastRiskEvent.trans (s.riskControls.stops_disableKillSwitch reason actor now)
  | resetCircuitBreaker =>
    exact stops_lastRiskEvent.trans (s.riskControls.stops_resetCircuitBreaker reason actor now)
  | tripCircuitBreaker =>
    obtain ⟨hcooldown, hpos⟩ := effectiveCooldown_eq h hc
    have htrip := s.riskControls.tripCircuitBreaker_of_pos reason actor now hpos
    rw [hcooldown, ← cooldownEnd] at htrip
    by_cases hlate : datetimeMax < cooldownEnd now cooldownSeconds
    · simp [act, ControlAction.perform, htrip, hlate, ControlAction.effect]
    · simp only [act, ControlAction.perform, htrip, hlate, ControlAction.effect, if_false,
        stops_lastRiskEvent]
      rfl

private theorem defaultCooldown_act (h : s.DefaultCooldown) (action : ControlAction)
    (reason actor : String) (now : Instant) (cooldownSeconds : Option ℤ) :
    (s.act action reason actor now cooldownSeconds).2.DefaultCooldown := by
  have hperform : ∀ p, action.perform s.riskControls reason actor now cooldownSeconds = .ok p →
      p.cooldownSeconds = s.riskControls.cooldownSeconds := by
    intro p hp
    cases action <;> simp only [ControlAction.perform] at hp
    case tripCircuitBreaker =>
      simp only [RiskControlPlane.tripCircuitBreaker, guard_eq_ok_iff] at hp
      cases hp.2.2
      rfl
    all_goals cases hp; simp
  unfold act DefaultCooldown
  cases hp : action.perform s.riskControls reason actor now cooldownSeconds with
  | error e => exact h
  | ok p => simpa only [riskControls_lastRiskEvent] using (hperform p hp).trans h

end ControlPlaneState

/-- A control request does to the stops what it means, and leaves the cooldown alone. -/
theorem stops_handleControl {s : ControlPlaneState} (h : s.DefaultCooldown) (now : Instant)
    (request : ControlRequest) :
    (handleControl s now request).2.stops = request.effect now s.stops ∧
      (handleControl s now request).2.DefaultCooldown := by
  unfold handleControl ControlRequest.effect
  split
  · exact ⟨rfl, h⟩
  have hloaded : ControlPlaneState.DefaultCooldown {} := rfl
  have hbody : request.hasValidBody = true → request.cooldownSeconds.all (1 ≤ ·) = true := by
    intro hv
    simp only [ControlRequest.hasValidBody, decide_eq_true_eq] at hv
    exact hv.2
  -- a lookup that succeeds leaves a state on which the body is checked and the action performed
  have hact {s' : ControlPlaneState} (h' : s'.DefaultCooldown) (hv : request.hasValidBody = true) :=
    And.intro
      (ControlPlaneState.stops_act h' request.action request.reason request.principal.userId now
        (hbody hv))
      (ControlPlaneState.defaultCooldown_act h' request.action request.reason
        request.principal.userId now request.cooldownSeconds)
  cases hrefresh : request.refresh <;> cases hv : request.hasValidBody <;>
    simp only [getControlPlaneState, Refresh.effect]
  · exact ⟨rfl, h⟩
  · exact hact h hv
  · exact ⟨rfl, hloaded⟩
  · exact hact hloaded hv
  · exact ⟨rfl, h⟩
  · exact ⟨rfl, h⟩

/-- A status read does to the stops what it means, and leaves the cooldown alone. -/
theorem stops_handleStatus {s : ControlPlaneState} (h : s.DefaultCooldown) (now : Instant)
    (refresh : Refresh) :
    (handleStatus s now refresh).2.stops = statusEffect refresh now s.stops ∧
      (handleStatus s now refresh).2.DefaultCooldown := by
  have hr (s' : ControlPlaneState) (h' : s'.DefaultCooldown) :
      (s'.riskStatus now).2.stops = s'.stops.expire now ∧
        (s'.riskStatus now).2.DefaultCooldown := by
    have hplane : (s'.riskStatus now).2.riskControls =
        { (s'.riskControls.autoResetIfExpired now).autoResetIfExpired now with events := [] } := rfl
    constructor
    · calc (s'.riskStatus now).2.stops
          = ((s'.riskControls.autoResetIfExpired now).autoResetIfExpired now).stops := rfl
        _ = s'.stops.expire now := by simp [ControlPlaneState.stops]
    · rw [ControlPlaneState.DefaultCooldown, hplane]
      simpa [ControlPlaneState.DefaultCooldown] using h'
  unfold handleStatus statusEffect
  cases refresh with
  | kept => exact hr s h
  | loaded => exact hr {} rfl
  | unavailable => exact ⟨rfl, h⟩

end OpenTrader.Api
