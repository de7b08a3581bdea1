import OpenTrader.Base.Fallible
import OpenTrader.Notification.Router

/-!
# From a source event to the router

Library `Notification`. The bridge of `services/notification_service/publishers.py:17-127`, the
intake and the preference filter composed. The bridge puts the payload of a source event one level
deeper, where the filter does not look for the strategy, and classifies the severity by the type of
the source event, while the intake classifies it by the type of the notification. The broker between
them is left out.
-/

namespace OpenTrader.Notification
open Base

/-! ### The bridge -/

/-- Name-based ids, which are valid UUIDs. -/
structure NameUuids extends Uuid5 where
  valid : ∀ name, isUuid (text name) = true

/-- What the bridge takes from outside in one publication: its service name, the clock and a fresh
key. -/
structure BridgeContext where
  ids : NameUuids
  serviceName : String := "notification_bridge"
  now : UtcStamp
  freshKey : String

/-- A notification envelope: the entries that are validated, and its severity. -/
structure NotificationEnvelope where
  envelope : Envelope Payload
  severity : NotificationSeverity

/-- `_safe_uuid`; `publishers.py:115-120`. -/
def safeUuid (ids : NameUuids) (value kind : String) : String :=
  if isUuid value then value else ids.text (kind ++ ":" ++ value)

/-- The payload of a source envelope, `{}` when it is no object. -/
def sourcePayload (source : Payload) : PayloadValue :=
  match source.get? "payload" with
  | some (.mapping entries printed) => .mapping entries printed
  | _ => .mapping [] "\x7b\x7d"

/-- The mode of a notification. -/
def notificationMode (source : Payload) : String :=
  let given := upper (strip (source.getText "mode" "REAL"))
  let mode := if given = "" then "REAL" else given
  if mode = "MOCK" ∨ mode = "REAL" then mode else "REAL"

/-- The notification of a source envelope. -/
def notificationEnvelope (context : BridgeContext) (source : Payload)
    (notificationEventType : String) : NotificationEnvelope :=
  let sourceKey := source.getText "idempotency_key" ""
  let idempotencyKey := if sourceKey = "" then context.freshKey else sourceKey
  let sourceEventType := source.getText "event_type" "unknown"
  let severity := classifySeverity sourceEventType (sourcePayload source).asPayload
  { envelope :=
      { traceId := some (safeUuid context.ids (source.getText "trace_id" "") "trace")
        decisionId := some (safeUuid context.ids (source.getText "decision_id" "") "decision")
        mode := some (notificationMode source)
        idempotencyKey := some ("notify:" ++ notificationEventType ++ ":" ++ idempotencyKey)
        eventType := some notificationEventType
        emittedAt := some (source.getText "emitted_at" context.now.text)
        payload := some ⟨[
          ("source_event_type", .text sourceEventType),
          ("source_service", .text (source.getText "service" "unknown")),
          ("source_payload", sourcePayload source),
          ("severity", .text severity.value)]⟩
        service := some context.serviceName }
    severity }

/-- `_publish_from_source`; `publishers.py:78-112`. -/
def publishFromSource (context : BridgeContext) (source : Payload)
    (notificationEventType : String) :
    Except EnvelopeValidationError NotificationEnvelope := do
  let notification := notificationEnvelope context source notificationEventType
  validateEnvelope notification.envelope
  return notification

/-- The methods that publish a source envelope. -/
inductive SourceChannel where
  | strategy
  | oms
  | risk
  deriving DecidableEq

/-- The notification type of `publish_strategy_event`, `publish_oms_event` and
`publish_risk_event`. -/
def SourceChannel.eventType : SourceChannel → String
  | .strategy => "notify.strategy.event"
  | .oms => "notify.oms.event"
  | .risk => "notify.risk.event"

/-- The payload of a system event. -/
def systemPayload (severity reason : String) (details : PayloadValue) : Payload where
  entries := [("reason", .text reason), ("details", details), ("severity", .text severity)]

/-- The source envelope of a system event; `printed` is what `str` prints of its payload. -/
def systemSource (context : BridgeContext) (traceId mode eventType severity reason : String)
    (details : PayloadValue) (printed : String) : Payload where
  entries := [
    ("trace_id", .text (safeUuid context.ids traceId "trace")),
    ("decision_id", .text (context.ids.text ("system:" ++ eventType ++ ":" ++ reason))),
    ("mode", .text mode),
    ("idempotency_key", .text ("system:" ++ eventType ++ ":" ++ reason)),
    ("event_type", .text eventType),
    ("emitted_at", .text context.now.text),
    ("payload", .mapping (systemPayload severity reason details).entries printed),
    ("service", .text "system_health")]

/-- A call of one of the publishing methods. -/
inductive BridgeCall where
  | source (channel : SourceChannel) (envelope : Payload)
  | systemHealth (traceId mode eventType : String) (severity : NotificationSeverity)
      (reason : String) (details : PayloadValue) (printed : String)

/-- What a call publishes; `publishers.py:30-76`. -/
def BridgeCall.publish (context : BridgeContext) :
    BridgeCall → Except EnvelopeValidationError NotificationEnvelope
  | .source channel envelope => publishFromSource context envelope channel.eventType
  | .systemHealth traceId mode eventType severity reason details printed =>
    publishFromSource context
      (systemSource context traceId mode eventType severity.value reason details printed)
      "notify.system.event"

/-- The event a call leads to, after the bridge and the intake. -/
def BridgeCall.event (context : BridgeContext) (call : BridgeCall) :
    Except EnvelopeValidationError NotificationEvent := do
  let published ← call.publish context
  normalize context.ids.toUuid5 published.envelope

/-! ### What arrives -/

section

variable {context : BridgeContext} {source : Payload} {notificationEventType : String}

private theorem publishFromSource_eq_ok_iff {published : NotificationEnvelope} :
    publishFromSource context source notificationEventType = .ok published ↔
      validateEnvelope (notificationEnvelope context source notificationEventType).envelope =
        .ok () ∧
      published = notificationEnvelope context source notificationEventType := by
  constructor
  · intro h
    obtain ⟨_, hv, h⟩ := bind_eq_ok_iff.mp h
    exact ⟨hv, (pure_eq_ok_iff.mp h).symm⟩
  · rintro ⟨hv, rfl⟩
    exact bind_eq_ok_iff.mpr ⟨(), hv, rfl⟩

private theorem validate_notificationEnvelope
    (htype : strip notificationEventType ≠ "")
    (hemitted : isIsoDatetime (source.getText "emitted_at" context.now.text) = true) :
    validateEnvelope (notificationEnvelope context source notificationEventType).envelope =
      .ok () := by
  have huuid (value kind : String) : isUuid (safeUuid context.ids value kind) = true := by
    unfold safeUuid
    split
    · next h => exact h
    · exact context.ids.valid _
  have hmode : notificationMode source = "MOCK" ∨ notificationMode source = "REAL" := by
    unfold notificationMode
    dsimp only
    generalize (if upper (strip (source.getText "mode" "REAL")) = "" then "REAL"
      else upper (strip (source.getText "mode" "REAL"))) = mode
    by_cases h : mode = "MOCK" ∨ mode = "REAL"
    · rwa [if_pos h]
    · exact .inr (if_neg h)
  have hk (key : String) :
      strip ("notify:" ++ notificationEventType ++ ":" ++ key) ≠ "" := by
    rw [Ne, strip_eq_empty_iff]
    intro hblank
    have hletter := hblank 'n' (by simp [String.toList_append])
    exact absurd hletter (by decide)
  rw [validateEnvelope_ok_iff]
  refine ⟨huuid _ _, huuid _ _, ?_, ?_, ?_, hemitted, rfl⟩
  · exact hmode.imp (congrArg some) (congrArg some)
  · exact decide_eq_true (hk _)
  · exact decide_eq_true htype

private theorem event_of_publish (call : BridgeCall)
    (hcall : call.publish context = publishFromSource context source notificationEventType)
    (hv : validateEnvelope
      (notificationEnvelope context source notificationEventType).envelope = .ok ()) :
    ∃ event payload, call.event context = .ok event ∧ event.payload = payload ∧
      (notificationEnvelope context source notificationEventType).envelope.payload =
        some payload ∧
      event.severity = classifySeverity notificationEventType payload := by
  unfold BridgeCall.event
  rw [hcall, publishFromSource_eq_ok_iff.mpr ⟨hv, rfl⟩]
  change ∃ event payload, normalize _ _ = _ ∧ _
  unfold normalize
  rw [hv]
  exact ⟨_, _, rfl, rfl, rfl, rfl⟩

end

/-! ### The strategy filter -/

private theorem strategyId_of_event {context : BridgeContext} {channel : SourceChannel}
    {source : Payload} {event : NotificationEvent}
    (h : (BridgeCall.source channel source).event context = .ok event) :
    event.payload.getText "strategy_id" "" = "" := by
  obtain ⟨published, hpub, -⟩ := bind_eq_ok_iff.mp h
  obtain ⟨hv, -⟩ := publishFromSource_eq_ok_iff.mp hpub
  obtain ⟨event', payload, hev, rfl, hbody, -⟩ :=
    event_of_publish (.source channel source) rfl hv
  rw [h] at hev
  cases hev
  rw [← Option.some.inj hbody]
  simp [Payload.getText, Payload.get?]

/-- **Strategy filter.** An event of a strategy passes a preference without event types, whose
severity it meets, as its strategies say, exactly when there are none or they hold the empty text
and the strategy alike. -/
theorem strategy_filter_iff {context : BridgeContext} {channel : SourceChannel} {source : Payload}
    {event : NotificationEvent} {strategyId : PayloadValue} (pref : NotificationPreference)
    (hevent : (BridgeCall.source channel source).event context = .ok event)
    (_hstrategy : (sourcePayload source).asPayload.get? "strategy_id" = some strategyId)
    (htypes : pref.eventTypes = []) (hseverity : pref.minSeverity.rank ≤ event.severity.rank) :
    (matchesPreference pref event = true ↔
      pref.strategyIds = [] ∨ strategyId.print ∈ pref.strategyIds) ↔
      pref.strategyIds = [] ∨ ("" ∈ pref.strategyIds ↔ strategyId.print ∈ pref.strategyIds) := by
  unfold matchesPreference
  rw [if_neg (not_lt.mpr hseverity), if_neg (by simp [htypes]), strategyId_of_event hevent]
  by_cases hempty : pref.strategyIds = []
  · simp [hempty]
  · rw [if_pos hempty, decide_eq_true_iff]
    simp [hempty]

private theorem sampleTexts : isUuid "6f1c7b0e-6d5f-5c2a-9a55-0d8b8f6f3b11" = true ∧
    strip "6f1c7b0e-6d5f-5c2a-9a55-0d8b8f6f3b11" = "6f1c7b0e-6d5f-5c2a-9a55-0d8b8f6f3b11" ∧
    "6f1c7b0e-6d5f-5c2a-9a55-0d8b8f6f3b11" ≠ "" ∧
    isIsoDatetime "2026-03-01T09:00:00Z" = true := by
  decide +kernel

/-- A bridge, one of whose ids is as good as another here. -/
def sampleContext : BridgeContext where
  ids :=
    { text := fun _ => "6f1c7b0e-6d5f-5c2a-9a55-0d8b8f6f3b11"
      stripped := fun _ => sampleTexts.2.1
      nonempty := fun _ => sampleTexts.2.2.1
      valid := fun _ => sampleTexts.1 }
  now := ⟨"2026-03-01T09:00:00Z", sampleTexts.2.2.2⟩
  freshKey := "key-1"

/-- A filled order of the strategy `momentum`. -/
def filledOrder : Payload where
  entries := [("event_type", .text "oms.order.filled"),
    ("payload", .mapping [("strategy_id", .text "momentum")] "")]

private theorem channelTexts (channel : SourceChannel) :
    strip channel.eventType ≠ "" ∧
    startsWithText (lower channel.eventType) "risk." = false ∧
    startsWithText (lower channel.eventType) "system." = false ∧
    startsWithText (lower channel.eventType) "notify.system." = false ∧
    startsWithText (lower channel.eventType) "oms.order." = false ∧
    startsWithText (lower channel.eventType) "agent.decision" = false := by
  cases channel <;> decide +kernel

private theorem systemTexts : strip "notify.system.event" ≠ "" ∧
    startsWithText (lower "notify.system.event") "risk." = false ∧
    startsWithText (lower "notify.system.event") "notify.risk." = false ∧
    startsWithText (lower "notify.system.event") "notify.system." = true ∧
    ∀ severity : NotificationSeverity, upper (strip severity.value) = severity.value := by
  refine ⟨by decide +kernel, by decide +kernel, by decide +kernel, by decide +kernel, ?_⟩
  intro severity
  cases severity <;> decide +kernel

private theorem exists_event_filledOrder : ∃ event,
    (BridgeCall.source .oms filledOrder).event sampleContext = .ok event := by
  have hv : validateEnvelope (notificationEnvelope sampleContext filledOrder
      SourceChannel.oms.eventType).envelope = .ok () :=
    validate_notificationEnvelope (channelTexts .oms).1 sampleContext.now.valid
  obtain ⟨event, -, hev, -⟩ := event_of_publish (.source .oms filledOrder) rfl hv
  exact ⟨event, hev⟩

private theorem rank_info_le (severity : NotificationSeverity) :
    NotificationSeverity.info.rank ≤ severity.rank := by
  cases severity <;> decide

/-- A preference for other strategies refuses the order. -/
theorem strategy_filter_other : ∃ event,
    (BridgeCall.source .oms filledOrder).event sampleContext = .ok event ∧
      (matchesPreference { userId := "user-1", strategyIds := ["carry"] } event = true ↔
        ["carry"] = [] ∨ "momentum" ∈ ["carry"]) := by
  obtain ⟨event, hevent⟩ := exists_event_filledOrder
  have hstrategy : (sourcePayload filledOrder).asPayload.get? "strategy_id" =
      some (.text "momentum") := rfl
  refine ⟨event, hevent, ?_⟩
  exact (strategy_filter_iff { userId := "user-1", strategyIds := ["carry"] } hevent hstrategy rfl
    (rank_info_le event.severity)).mpr (.inr (by simp [PayloadValue.print]))

/-- A preference for the strategy refuses its own order. -/
theorem strategy_filter_refuses_own : ∃ event,
    (BridgeCall.source .oms filledOrder).event sampleContext = .ok event ∧
      matchesPreference { userId := "user-1", strategyIds := ["momentum"] } event = false := by
  obtain ⟨event, hevent⟩ := exists_event_filledOrder
  refine ⟨event, hevent, ?_⟩
  unfold matchesPreference
  rw [if_neg (not_lt.mpr (rank_info_le event.severity)), strategyId_of_event hevent]
  simp

/-! ### Severity -/

/-- The severity of the event is the one in the envelope, and for a system event the declared one.
-/
def BridgeCall.SeveritySurvives (context : BridgeContext) (call : BridgeCall) : Prop :=
  ∀ published, call.publish context = .ok published →
    ∃ event, call.event context = .ok event ∧ event.severity = published.severity ∧
      match call with
      | .source _ _ => True
      | .systemHealth _ _ _ severity _ _ _ => event.severity = severity

/-- A system event is declared critical, and its type makes it so. -/
def BridgeCall.IsCritical : BridgeCall → Prop
  | .source _ _ => True
  | .systemHealth _ _ eventType severity reason details _ =>
    severity = .critical ∧
      classifySeverity eventType (systemPayload severity.value reason details) = .critical

private theorem declaredSeverity_of_published (severity : NotificationSeverity)
    (first second third : PayloadValue) :
    declaredSeverity ⟨[("source_event_type", first), ("source_service", second),
      ("source_payload", third), ("severity", .text severity.value)]⟩ = some severity := by
  obtain ⟨-, -, -, -, htexts⟩ := systemTexts
  simp [declaredSeverity, Payload.get?, PayloadValue.asText, htexts severity]

private theorem classifySeverity_channel (channel : SourceChannel) {payload : Payload}
    {severity : NotificationSeverity} (h : declaredSeverity payload = some severity) :
    classifySeverity channel.eventType payload = severity := by
  obtain ⟨-, hrisk, hsystem, hnotify, ho, hdec⟩ := channelTexts channel
  unfold classifySeverity
  simp [h, hrisk, hsystem, hnotify, ho, hdec]

private theorem classifySeverity_system (payload : Payload) :
    classifySeverity "notify.system.event" payload = .critical := by
  obtain ⟨-, hrisk, hnotify, hsystem, -⟩ := systemTexts
  unfold classifySeverity
  simp [hrisk, hnotify, hsystem]

private theorem systemSource_reads (context : BridgeContext)
    (traceId mode eventType severity reason : String) (details : PayloadValue) (printed : String) :
    let source := systemSource context traceId mode eventType severity reason details printed
    source.getText "event_type" "unknown" = eventType ∧
      source.getText "emitted_at" context.now.text = context.now.text ∧
      (sourcePayload source).asPayload = systemPayload severity reason details := by
  refine ⟨?_, ?_, ?_⟩
  · simp [systemSource, Payload.getText, Payload.get?, PayloadValue.print]
  · simp [systemSource, Payload.getText, Payload.get?, PayloadValue.print]
  · simp [sourcePayload, systemSource, Payload.get?, PayloadValue.asPayload]

/-- A system event is always published, with the severity of its own type, and arrives as critical.
-/
private theorem event_systemHealth (context : BridgeContext) (traceId mode eventType : String)
    (severity : NotificationSeverity) (reason : String) (details : PayloadValue)
    (printed : String) :
    let call := BridgeCall.systemHealth traceId mode eventType severity reason details printed
    ∃ published event, call.publish context = .ok published ∧ call.event context = .ok event ∧
      published.severity =
        classifySeverity eventType (systemPayload severity.value reason details) ∧
      event.severity = .critical := by
  intro call
  obtain ⟨htype, hemitted, hbody⟩ :=
    systemSource_reads context traceId mode eventType severity.value reason details printed
  have hv : validateEnvelope (notificationEnvelope context
      (systemSource context traceId mode eventType severity.value reason details printed)
      "notify.system.event").envelope = .ok () :=
    validate_notificationEnvelope systemTexts.1 (by rw [hemitted]; exact context.now.valid)
  obtain ⟨event, payload, hev, -, -, hseverity⟩ := event_of_publish call rfl hv
  rw [classifySeverity_system] at hseverity
  refine ⟨_, event, publishFromSource_eq_ok_iff.mpr ⟨hv, rfl⟩, hev, ?_, hseverity⟩
  rw [← hbody, ← htype]
  rfl

/-- **Severity.** The severity of an event is the one the bridge put in its envelope, and the one a
system event was declared with, exactly when the event comes from a source channel, or is a system
event that is declared critical and critical by its type. -/
theorem severity_survives_iff (context : BridgeContext) (call : BridgeCall) :
    call.SeveritySurvives context ↔ call.IsCritical := by
  cases call with
  | source channel source =>
    refine iff_of_true ?_ trivial
    intro published hpublish
    obtain ⟨hvalid, rfl⟩ := publishFromSource_eq_ok_iff.mp hpublish
    obtain ⟨event, payload, hevent, -, hpayload, hseverity⟩ :=
      event_of_publish (.source channel source) rfl hvalid
    refine ⟨event, hevent, ?_, trivial⟩
    rw [hseverity, ← Option.some.inj hpayload]
    exact classifySeverity_channel channel (declaredSeverity_of_published _ _ _ _)
  | systemHealth traceId mode eventType severity reason details printed =>
    obtain ⟨published, event, hpublish, hevent, hclassified, hcritical⟩ :=
      event_systemHealth context traceId mode eventType severity reason details printed
    constructor
    · intro h
      obtain ⟨event', hevent', hbridge, hdeclared⟩ := h published hpublish
      rw [hevent] at hevent'
      cases hevent'
      rw [hcritical] at hbridge hdeclared
      exact ⟨hdeclared.symm, hclassified.symm.trans hbridge.symm⟩
    · rintro ⟨hdeclared, htype⟩ other hother
      rw [hpublish] at hother
      cases hother
      exact ⟨event, hevent, by rw [hcritical, hclassified, htype], hcritical.trans hdeclared.symm⟩

/-- The warning of a worker that has lost its websocket arrives as critical;
`services/workers/runtime_pipeline.py:175-183`. -/
theorem connectivity_warning_critical : ∃ event,
    (BridgeCall.systemHealth "6f1c7b0e-6d5f-5c2a-9a55-0d8b8f6f3b11" "REAL"
      "system.exchange.connectivity_issue" .warning "ConnectionError"
      (.mapping [("symbol", .text "BTC/USDT"), ("fallback", .text "rest")] "") "").event
        sampleContext = .ok event ∧ event.severity = .critical := by
  obtain ⟨-, event, -, hevent, -, hcritical⟩ := event_systemHealth sampleContext
    "6f1c7b0e-6d5f-5c2a-9a55-0d8b8f6f3b11" "REAL" "system.exchange.connectivity_issue" .warning
    "ConnectionError" (.mapping [("symbol", .text "BTC/USDT"), ("fallback", .text "rest")] "") ""
  exact ⟨event, hevent, hcritical⟩

end OpenTrader.Notification
