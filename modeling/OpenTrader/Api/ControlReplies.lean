import OpenTrader.Api.ControlPlane
import OpenTrader.Base.Trace

/-!
# What the control endpoints answer

Library `Api`. `services/api/state.py:324-361,801-811` over any use of a control plane state. An
action answers with the last event that was not handed out yet. It emits one only when it changes
its control, so the answer to an action that finds its control as requested is left to what failures
recorded before.
-/

namespace OpenTrader.Api
open Base Oms

/-- What is done with a control plane state. -/
inductive ControlPlaneOp where
  | readStatus (now : Instant)
  | recordFailure (reason actor : String) (now : Instant)
  | recordSuccess
  | act (action : ControlAction) (reason actor : String) (now : Instant)
      (cooldownSeconds : Option ℤ)
  deriving DecidableEq

/-- The control an action acts on. -/
def ControlAction.control : ControlAction → RiskControl
  | .enableKillSwitch | .disableKillSwitch => .killSwitch
  | .tripCircuitBreaker | .resetCircuitBreaker => .circuitBreaker

namespace ControlPlaneState

/-- The state after an operation; it keeps what an operation that raises has done. -/
def step (s : ControlPlaneState) : ControlPlaneOp → ControlPlaneState
  | .readStatus now => (s.riskStatus now).2
  | .recordFailure reason actor now =>
    { s with riskControls := (s.riskControls.recordFailure reason actor now).1 }
  | .recordSuccess => { s with riskControls := s.riskControls.recordSuccess }
  | .act action reason actor now cooldownSeconds =>
    (s.act action reason actor now cooldownSeconds).2

/-- The status a control has at `now`, in the words of its events. -/
def controlStatus (s : ControlPlaneState) (now : Instant) : RiskControl → String
  | .killSwitch => if s.riskControls.killSwitchEnabled then "ENABLED" else "DISABLED"
  | .circuitBreaker => if s.riskControls.isCircuitBreakerOpen now then "OPEN" else "CLOSED"

/-- The action does not raise, and its answer names the control and the status it has then. -/
def AnswersHonestly (s : ControlPlaneState) (action : ControlAction) (reason actor : String)
    (now : Instant) (cooldownSeconds : Option ℤ) : Prop :=
  ∃ event, (s.act action reason actor now cooldownSeconds).1 = .ok event ∧
    event.kind.control = action.control ∧
    event.kind.status =
      (s.act action reason actor now cooldownSeconds).2.controlStatus now action.control

end ControlPlaneState

/-- The action finds something to change, and a trip ends before the last `datetime`. -/
def ControlAction.Changes (action : ControlAction) (p : RiskControlPlane) (now : Instant)
    (cooldownSeconds : Option ℤ) : Prop :=
  match action with
  | .enableKillSwitch => p.killSwitchEnabled = false
  | .disableKillSwitch => p.killSwitchEnabled = true
  | .tripCircuitBreaker => 0 < p.effectiveCooldown cooldownSeconds ∧
      now + p.effectiveCooldown cooldownSeconds * 1000000 ≤ datetimeMax
  | .resetCircuitBreaker => p.circuitBreakerOpenUntil ≠ none ∨ p.consecutiveFailures ≠ 0

namespace ControlPlaneState

variable {s : ControlPlaneState}

/-- What is not handed out yet ends in a recorded failure, or in the trip it led to, which holds. -/
def EndsInFailure (s : ControlPlaneState) : Prop :=
  ∀ event ∈ s.riskControls.events.getLast?,
    (∃ failures, event.kind = .failureRecorded failures) ∨
      (∃ failures threshold openUntil, event.kind = .tripped failures threshold openUntil) ∧
        s.riskControls.circuitBreakerOpenUntil ≠ none

private theorem endsInFailure_of_drained (h : s.riskControls.events = []) : s.EndsInFailure := by
  intro event hev
  rw [h] at hev
  cases hev

private theorem events_lastRiskEvent : s.lastRiskEvent.2.riskControls.events = [] := by
  simp only [lastRiskEvent, captureRiskEvents, RiskControlPlane.drainEvents]
  split <;> rfl

private theorem endsInFailure_recordFailure (reason actor : String) (now : Instant) :
    { s with riskControls := (s.riskControls.recordFailure reason actor now).1 }.EndsInFailure := by
  intro event hev
  unfold RiskControlPlane.recordFailure at hev ⊢
  dsimp only at hev ⊢
  split at hev
  · next hthreshold =>
    rw [if_pos hthreshold]
    split at hev
    · next tripped htrip =>
      simp only [RiskControlPlane.tripCircuitBreaker, guard_eq_ok_iff] at htrip
      cases htrip.2.2
      simp only [RiskControlPlane.emit, List.getLast?_concat, Option.mem_some_iff] at hev
      subst hev
      exact .inr ⟨⟨_, _, _, rfl⟩, by simp [RiskControlPlane.emit]⟩
    · simp only [RiskControlPlane.emit, List.getLast?_concat, Option.mem_some_iff] at hev
      subst hev
      exact .inl ⟨_, rfl⟩
  · simp only [RiskControlPlane.emit, List.getLast?_concat, Option.mem_some_iff] at hev
    subst hev
    exact .inl ⟨_, rfl⟩

/-- Reading the status and performing an action hand out what there is; recording does not. -/
theorem EndsInFailure.step (h : s.EndsInFailure) (op : ControlPlaneOp) :
    (s.step op).EndsInFailure := by
  cases op with
  | readStatus now => exact endsInFailure_of_drained rfl
  | recordFailure reason actor now => exact endsInFailure_recordFailure reason actor now
  | recordSuccess => exact h
  | act action reason actor now cooldownSeconds =>
    change (s.act action reason actor now cooldownSeconds).2.EndsInFailure
    unfold act
    cases action.perform s.riskControls reason actor now cooldownSeconds with
    | error error => exact h
    | ok riskControls => exact endsInFailure_of_drained events_lastRiskEvent

section

variable {action : ControlAction} {reason actor : String} {now : Instant}
  {cooldownSeconds : Option ℤ}

private theorem answersHonestly_of_emit {p : RiskControlPlane} {kind : RiskEventKind}
    (hperform : action.perform s.riskControls reason actor now cooldownSeconds =
      .ok (p.emit reason actor now kind))
    (hcontrol : kind.control = action.control)
    (hstat : kind.status = controlStatus ⟨p, []⟩ now action.control) :
    s.AnswersHonestly action reason actor now cooldownSeconds := by
  have hact : s.act action reason actor now cooldownSeconds =
      (.ok ⟨kind, reason, actor, now⟩,
        { riskControls := { p with events := [] }
          riskEvents := s.riskEvents ++ (p.events ++ [⟨kind, reason, actor, now⟩]) }) := by
    simp only [act, hperform, lastRiskEvent, captureRiskEvents, RiskControlPlane.drainEvents,
      RiskControlPlane.emit, List.getLast?_concat]
  unfold AnswersHonestly
  rw [hact]
  refine ⟨_, rfl, hcontrol, hstat.trans ?_⟩
  cases action.control <;> rfl

private theorem mem_getLast?_of_act {event : RiskControlEvent}
    (h : action.perform s.riskControls reason actor now cooldownSeconds = .ok s.riskControls)
    (hact : (s.act action reason actor now cooldownSeconds).1 = .ok event) :
    event ∈ s.riskControls.events.getLast? ∧
      (s.act action reason actor now cooldownSeconds).2.riskControls =
        { s.riskControls with events := [] } := by
  simp only [act, h, lastRiskEvent, captureRiskEvents, RiskControlPlane.drainEvents] at hact ⊢
  cases hlast : s.riskControls.events.getLast? with
  | none => simp [hlast] at hact
  | some last =>
    simp only [hlast, Except.ok.injEq] at hact
    exact ⟨by rw [hact]; rfl, rfl⟩

private theorem EndsInFailure.control (h : s.EndsInFailure) {event : RiskControlEvent}
    (hev : event ∈ s.riskControls.events.getLast?) : event.kind.control = .circuitBreaker := by
  rcases h event hev with ⟨_, hkind⟩ | ⟨⟨_, _, _, hkind⟩, -⟩
  · rw [hkind]
    rfl
  · rw [hkind]
    rfl

private theorem not_answersHonestly_killSwitch (h : s.EndsInFailure)
    (hcontrol : action.control = .killSwitch)
    (hsame : action.perform s.riskControls reason actor now cooldownSeconds =
      .ok s.riskControls) : ¬ s.AnswersHonestly action reason actor now cooldownSeconds := by
  rintro ⟨event, hact, hev, -⟩
  rw [h.control (mem_getLast?_of_act hsame hact).1, hcontrol] at hev
  cases hev

private theorem answersHonestly_tripCircuitBreaker_iff :
    s.AnswersHonestly .tripCircuitBreaker reason actor now cooldownSeconds ↔
      ControlAction.tripCircuitBreaker.Changes s.riskControls now cooldownSeconds := by
  by_cases hfits : ControlAction.tripCircuitBreaker.Changes s.riskControls now cooldownSeconds
  · refine iff_of_true ?_ hfits
    obtain ⟨hpos, hend⟩ := hfits
    have htrip := s.riskControls.tripCircuitBreaker_of_pos reason actor now hpos
    rw [if_neg (not_lt.mpr hend)] at htrip
    have hopen : now < now + s.riskControls.effectiveCooldown cooldownSeconds * 1000000 :=
      lt_add_of_pos_right now (Int.mul_pos hpos (by decide))
    apply @answersHonestly_of_emit s .tripCircuitBreaker reason actor now cooldownSeconds _ _
      htrip rfl
    simp [controlStatus, ControlAction.control, RiskControlPlane.isCircuitBreakerOpen, hopen,
      RiskEventKind.status]
  · refine iff_of_false ?_ hfits
    rintro ⟨event, hact, -⟩
    apply hfits
    unfold act ControlAction.perform at hact
    cases htrip : s.riskControls.tripCircuitBreaker reason actor now cooldownSeconds with
    | error error =>
      rw [htrip] at hact
      cases hact
    | ok tripped =>
      simp only [RiskControlPlane.tripCircuitBreaker, guard_eq_ok_iff] at htrip
      exact ⟨not_le.mp htrip.1, not_lt.mp htrip.2.1⟩

private theorem EndsInFailure.answersHonestly_resetCircuitBreaker_iff (h : s.EndsInFailure) :
    s.AnswersHonestly .resetCircuitBreaker reason actor now cooldownSeconds ↔
      ControlAction.resetCircuitBreaker.Changes s.riskControls now cooldownSeconds := by
  by_cases hclean : s.riskControls.circuitBreakerOpenUntil = none ∧
      s.riskControls.consecutiveFailures = 0
  · have hperform : ControlAction.resetCircuitBreaker.perform s.riskControls reason actor now
        cooldownSeconds = .ok s.riskControls := by
      simp [ControlAction.perform, RiskControlPlane.resetCircuitBreaker, hclean]
    refine iff_of_false ?_ (by simp [ControlAction.Changes, hclean])
    rintro ⟨event, hact, -, hstat⟩
    obtain ⟨hev, hafter⟩ := mem_getLast?_of_act hperform hact
    rcases h event hev with ⟨_, hkind⟩ | ⟨-, hopen⟩
    · simp [controlStatus, hafter, hkind, ControlAction.control,
        RiskControlPlane.isCircuitBreakerOpen, hclean, RiskEventKind.status] at hstat
    · exact hopen hclean.1
  · have hperform : ControlAction.resetCircuitBreaker.perform s.riskControls reason actor now
        cooldownSeconds = .ok ({ s.riskControls with
          circuitBreakerOpenUntil := none, consecutiveFailures := 0 }.emit reason actor now
            .reset) := by
      simp only [ControlAction.perform, RiskControlPlane.resetCircuitBreaker, if_neg hclean]
    exact iff_of_true (answersHonestly_of_emit hperform rfl rfl) (not_and_or.mp hclean)

private theorem EndsInFailure.answersHonestly_iff (h : s.EndsInFailure) :
    s.AnswersHonestly action reason actor now cooldownSeconds ↔
      action.Changes s.riskControls now cooldownSeconds := by
  cases action with
  | enableKillSwitch =>
    cases hon : s.riskControls.killSwitchEnabled with
    | true =>
      refine iff_of_false (not_answersHonestly_killSwitch h rfl ?_) ?_
      · simp [ControlAction.perform, RiskControlPlane.enableKillSwitch, hon]
      · simp [ControlAction.Changes, hon]
    | false =>
      have hperform : ControlAction.enableKillSwitch.perform s.riskControls reason actor now
          cooldownSeconds = .ok ({ s.riskControls with killSwitchEnabled := true }.emit reason
            actor now .killSwitchEnabled) := by
        simp [ControlAction.perform, RiskControlPlane.enableKillSwitch, hon]
      exact iff_of_true (answersHonestly_of_emit hperform rfl rfl) hon
  | disableKillSwitch =>
    cases hon : s.riskControls.killSwitchEnabled with
    | false =>
      refine iff_of_false (not_answersHonestly_killSwitch h rfl ?_) ?_
      · simp [ControlAction.perform, RiskControlPlane.disableKillSwitch, hon]
      · simp [ControlAction.Changes, hon]
    | true =>
      have hperform : ControlAction.disableKillSwitch.perform s.riskControls reason actor now
          cooldownSeconds = .ok ({ s.riskControls with killSwitchEnabled := false }.emit reason
            actor now .killSwitchDisabled) := by
        simp [ControlAction.perform, RiskControlPlane.disableKillSwitch, hon]
      exact iff_of_true (answersHonestly_of_emit hperform rfl rfl) hon
  | tripCircuitBreaker => exact answersHonestly_tripCircuitBreaker_iff
  | resetCircuitBreaker => exact h.answersHonestly_resetCircuitBreaker_iff

end

/-- Whatever was done with the state since its events were last handed out: an action answers
without raising, about its own control and with its status, exactly when it changes the control. -/
theorem control_answer_honest_iff (p : RiskControlPlane) (riskEvents : List RiskControlEvent)
    (ops : List ControlPlaneOp) (action : ControlAction) (reason actor : String) (now : Instant)
    (cooldownSeconds : Option ℤ) :
    (run step { riskControls := { p with events := [] }, riskEvents } ops).AnswersHonestly
        action reason actor now cooldownSeconds ↔
      action.Changes (run step { riskControls := { p with events := [] }, riskEvents }
        ops).riskControls now cooldownSeconds := by
  have hstart : { riskControls := { p with events := [] }, riskEvents : ControlPlaneState
    }.EndsInFailure := endsInFailure_of_drained rfl
  have hpending :=
    (throughout_of_step (fun s op (h : s.EndsInFailure) => h.step op) ops hstart).last
  exact hpending.answersHonestly_iff

/-- Enabling the kill switch again raises, and after a recorded failure it answers about the
breaker. -/
theorem kill_switch_enabled_again :
    let on : ControlPlaneState := run step {} [.act .enableKillSwitch "stop" "ops" 0 none]
    let failed := run step on [.recordFailure "timeout" "oms" 1]
    (on.act .enableKillSwitch "stop" "ops" 2 none).1 =
        .error (.runtimeError "risk control action did not emit an event") ∧
      (failed.act .enableKillSwitch "stop" "ops" 2 none).1 =
        .ok ⟨.failureRecorded 1, "timeout", "oms", 1⟩ := by
  decide +kernel

end ControlPlaneState

end OpenTrader.Api
