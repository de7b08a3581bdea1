import OpenTrader.Base.Envelope

/-!
# Notification events

Library `Notification`. The records of `services/notification_service/models.py:8-47` and the
intake, `services/notification_service/event_intake.py:13-87`.
-/

namespace OpenTrader.Notification
open Base

/-! ### Records -/

/-- `NotificationSeverity`. -/
inductive NotificationSeverity where
  | info
  | warning
  | critical
  deriving DecidableEq

namespace NotificationSeverity

/-- `severity.value`. -/
def value : NotificationSeverity → String
  | .info => "INFO"
  | .warning => "WARNING"
  | .critical => "CRITICAL"

/-- `severity_rank`. -/
def rank : NotificationSeverity → ℕ
  | .info => 1
  | .warning => 2
  | .critical => 3

/-- `NotificationSeverity(text)` for one of the three texts. -/
def ofText (text : String) : Option NotificationSeverity :=
  if text = "INFO" then some .info
  else if text = "WARNING" then some .warning
  else if text = "CRITICAL" then some .critical
  else none

/-- A severity is read back from its text. -/
@[simp] theorem ofText_value (severity : NotificationSeverity) :
    ofText severity.value = some severity := by
  cases severity <;> decide

end NotificationSeverity

/-- `NotificationEvent`. -/
structure NotificationEvent where
  notificationEventId : String
  traceId : String
  decisionId : String
  mode : String
  eventType : String
  severity : NotificationSeverity
  idempotencyKey : String
  emittedAt : String
  service : String
  payload : Payload

/-! ### Severity -/

/-- `text.startswith(start)`. -/
def startsWithText (text start : String) : Bool := start.toList.isPrefixOf text.toList

/-- `_declared_severity`; `event_intake.py:81-87`. -/
def declaredSeverity (payload : Payload) : Option NotificationSeverity := do
  let declared ← (payload.get? "severity").bind PayloadValue.asText
  NotificationSeverity.ofText (upper (strip declared))

/-- The severity of a risk event by its type. -/
def riskSeverity (lowered : String) : NotificationSeverity :=
  if containsText "kill_switch" lowered || containsText "tripped" lowered then .critical
  else .warning

/-- `classify_severity`; `event_intake.py:45-78`. -/
def classifySeverity (eventType : String) (payload : Payload) : NotificationSeverity :=
  let lowered := lower eventType
  if startsWithText lowered "risk." then riskSeverity lowered
  else if startsWithText lowered "notify.risk." then
    (declaredSeverity payload).getD (riskSeverity lowered)
  else if startsWithText lowered "system." || startsWithText lowered "notify.system." then .critical
  else if startsWithText lowered "oms.order." then
    if ["rejected", "cancel", "expired"].any (containsText · lowered) then .warning else .info
  else if startsWithText lowered "agent.decision" then
    if containsText "rejected" lowered then .warning else .info
  else (declaredSeverity payload).getD .info

/-! ### Intake -/

/-- `NotificationEventIntake.normalize`; the header is text once it is validated;
`event_intake.py:16-42`. -/
def normalize (uuid5 : Uuid5) (envelope : Envelope Payload) :
    Except EnvelopeValidationError NotificationEvent := do
  validateEnvelope envelope
  let eventType := envelope.eventType.getD ""
  let idempotencyKey := envelope.idempotencyKey.getD ""
  let payload := envelope.payload.getD ⟨[]⟩
  let severity := classifySeverity eventType payload
  return {
    notificationEventId :=
      uuid5.text ("notify:" ++ idempotencyKey ++ ":" ++ eventType ++ ":" ++ severity.value)
    traceId := envelope.traceId.getD ""
    decisionId := envelope.decisionId.getD ""
    mode := envelope.mode.getD ""
    eventType
    severity
    idempotencyKey
    emittedAt := envelope.emittedAt.getD ""
    service := envelope.service.getD "unknown"
    payload }

end OpenTrader.Notification
