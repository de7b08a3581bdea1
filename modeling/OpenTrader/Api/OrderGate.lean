import OpenTrader.Api.ControlPlane
import OpenTrader.Base.Trace

/-!
# Stop controls and order dispatch

Library `Api`. One API process serves the risk control endpoints,
`services/api/routers/ops.py:336-391`, and the dispatch endpoint,
`services/api/routers/internal.py:53-119`. The gate of the control plane is
`services/oms/risk_controls.py:148-158`; the dispatch endpoint does not consult it.
-/

namespace OpenTrader.Api
open Base Oms Execution

/-- A call of an adapter's `create_order`, with the control plane of the process at that
instant. -/
structure CreateCall where
  payload : DispatchPayload
  now : Instant
  riskControls : RiskControlPlane

/-- The state of a process, with the calls of `create_order` it has made. -/
structure ApiProcess where
  control : ControlPlaneState := {}
  calls : List CreateCall := []

/-- The requests a process serves. Every other endpoint of the control plane looks the state up
and does not touch the risk controls. -/
inductive ApiRequest where
  | control (request : ControlRequest)
  | status (refresh : Refresh)
  | other (refresh : Refresh)
  | dispatch (request : DispatchRequest) (exchange : SignedRequest → ExchangeReply)

/-- A request and the instant it is served. -/
structure ApiInput where
  now : Instant
  request : ApiRequest

variable (env : BridgeEnv) (s : ApiProcess) (x : ApiInput)

/-- One request served. -/
def apiStep : ApiProcess :=
  match x.request with
  | .control request => { s with control := (handleControl s.control x.now request).2 }
  | .status refresh => { s with control := (handleStatus s.control x.now refresh).2 }
  | .other refresh =>
    match getControlPlaneState refresh s.control with
    | .error _ => s
    | .ok control => { s with control }
  | .dispatch request exchange =>
    let created := (dispatchExecutionCommand env exchange request).created
    { s with
      calls := s.calls ++
        (created.map fun payload => ⟨payload, x.now, s.control.riskControls⟩).toList }

/-- No call of `create_order` was made while the gate reported itself blocked. -/
def GateRespected : Prop :=
  ∀ call ∈ s.calls, (call.riskControls.evaluateOrderAllowed call.now).1.allowed = true

/-! ### The stops the operators have in force -/

/-- What a request means for the stops. A dispatch means nothing for them. -/
def stopsStep (stops : Stops) (x : ApiInput) : Stops :=
  match x.request with
  | .control request => request.effect x.now stops
  | .status refresh => statusEffect refresh x.now stops
  | .other refresh => refresh.effect stops
  | .dispatch .. => stops

/-- An order the endpoint admits does not come while a stop is in force. -/
def OutsideStops (stops : Stops) (x : ApiInput) : Prop :=
  ∀ request exchange, x.request = .dispatch request exchange → IsAdmittedOrder env request →
    ¬ stops.Blocks x.now

private theorem stops_apiStep (h : s.control.DefaultCooldown) :
    (apiStep env s x).control.stops = stopsStep s.control.stops x ∧
      (apiStep env s x).control.DefaultCooldown := by
  unfold apiStep stopsStep
  cases x.request with
  | control request => exact stops_handleControl h x.now request
  | status refresh => exact stops_handleStatus h x.now refresh
  | other refresh =>
    cases refresh with
    | kept => exact ⟨rfl, h⟩
    | loaded => exact ⟨rfl, rfl⟩
    | unavailable => exact ⟨rfl, h⟩
  | dispatch request exchange => exact ⟨rfl, h⟩

private theorem gateRespected_apiStep (hs : GateRespected s) :
    GateRespected (apiStep env s x) ↔ OutsideStops env s.control.stops x := by
  obtain ⟨now, request⟩ := x
  cases request with
  | control | status => exact ⟨fun _ _ _ h => (nomatch h), fun _ => hs⟩
  | other refresh =>
    refine ⟨fun _ _ _ h => (nomatch h), fun _ => ?_⟩
    cases refresh <;> exact hs
  | dispatch request exchange =>
    have hcreated := created_isSome_iff env exchange request
    have hgate := s.control.riskControls.allowed_evaluateOrderAllowed now
    simp only [apiStep, GateRespected, List.forall_mem_append]
    cases hc : (dispatchExecutionCommand env exchange request).created with
    | none =>
      have hrefused : ¬ IsAdmittedOrder env request := by
        rw [← hcreated, hc]
        exact Bool.false_ne_true
      refine ⟨?_, fun _ => ⟨hs, by simp⟩⟩
      rintro - _ _ ⟨⟩ hadmitted
      exact absurd hadmitted hrefused
    | some payload =>
      have hadmitted : IsAdmittedOrder env request := by
        rw [← hcreated, hc]
        rfl
      constructor
      · rintro ⟨-, hcall⟩ _ _ ⟨⟩ -
        exact hgate.mp (hcall ⟨payload, now, s.control.riskControls⟩ (by simp))
      · intro hout
        refine ⟨hs, ?_⟩
        simpa using hgate.mpr (hout request exchange rfl hadmitted)

/-- In every run of a process, `create_order` is never called while the gate is blocked exactly
when no order the endpoint admits comes while the operators have a stop in force. -/
theorem gateRespected_iff_outsideStops (env : BridgeEnv) (inputs : List ApiInput) :
    Throughout (apiStep env) GateRespected {} inputs ↔
      Along stopsStep (OutsideStops env) {} inputs := by
  have hstops : Along (apiStep env) (fun s x => OutsideStops env s.control.stops x) {} inputs ↔
      Along stopsStep (OutsideStops env) {} inputs :=
    along_simulation (fun s : ApiProcess => s.control.stops)
      (fun s x h => (stops_apiStep env s x h).2) (fun s x h => (stops_apiStep env s x h).1) inputs
      (rfl : ControlPlaneState.DefaultCooldown {})
  have hstart : GateRespected {} := fun _ hcall => absurd hcall List.not_mem_nil
  have hrun := throughout_iff_along_of_step (gateRespected_apiStep env) inputs hstart
  exact hrun.trans hstops

/-! ### An order during a kill switch -/

private def marketBuy : DispatchRequest := bridgeOrder none (some "client-1")

private def enableRequest : ControlRequest :=
  { principal := ⟨"root", .admin⟩
    action := .enableKillSwitch
    reason := "incident" }

private def killSwitchRun : List ApiInput :=
  [⟨0, .control enableRequest⟩, ⟨1000000, .dispatch marketBuy fun _ => .notObject⟩]

/-- An admin enables the kill switch; a second later the gate is blocked by it, and the order the
bridge dispatches reaches the exchange adapter, which accepts it. -/
theorem order_created_during_kill_switch :
    ¬ Throughout (apiStep simulatedEnv) GateRespected {} killSwitchRun ∧
      (run (apiStep simulatedEnv) {} killSwitchRun).calls.map (fun call =>
        (call.payload.commandId, (call.riskControls.evaluateOrderAllowed call.now).1)) =
        [("cmd-1", ⟨false, [.killSwitch]⟩)] ∧
      (dispatchExecutionCommand simulatedEnv (fun _ => .notObject)
        marketBuy).response.toOption.map (·.status) = some "submitted" := by
  have hcalls : (run (apiStep simulatedEnv) {} killSwitchRun).calls.map (fun call =>
      (call.payload.commandId, (call.riskControls.evaluateOrderAllowed call.now).1)) =
      [("cmd-1", ⟨false, [.killSwitch]⟩)] := by decide +kernel
  refine ⟨fun ht => ?_, hcalls, by decide +kernel⟩
  obtain ⟨call, hcall, hgate⟩ := List.map_eq_singleton_iff.mp hcalls
  have hallowed := ht.last call (by rw [hcall]; exact List.mem_singleton_self call)
  have hblocked : (call.riskControls.evaluateOrderAllowed call.now).1 = ⟨false, [.killSwitch]⟩ :=
    (Prod.mk.inj hgate).2
  rw [hblocked] at hallowed
  cases hallowed

end OpenTrader.Api
