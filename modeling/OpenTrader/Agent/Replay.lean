import Mathlib.Data.Prod.Lex
import OpenTrader.Base.KeyOrder

/-!
# Decision replay

Library `Agent`. `services/agent_orchestrator/replay_service.py:12-374` with the records it reads of
`services/llm_gateway/persistence.py:7-23` and `services/agent_orchestrator/memory_layer.py:8-17`.
Payloads are JSON values; numbers that the records only carry are scalars of any kind. SHA-256 is a
parameter.
-/

namespace OpenTrader.Agent
open Base

/-! ### Records -/

/-- `DecisionTraceRecord`. -/
structure DecisionTraceRecord where
  decisionId : String
  traceId : String
  strategyId : String
  mode : String
  status : String
  startedAt : String
  completedAt : Option String

/-- `AgentRunRecord`. -/
structure AgentRunRecord where
  agentRunId : String
  decisionId : String
  agentName : String
  inputRef : Option String
  outputRef : Option String
  latencyMs : JsonScalar
  status : String
  startedAt : String
  completedAt : Option String

/-- `AgentMessageRecord`. -/
structure AgentMessageRecord where
  messageId : String
  agentRunId : String
  role : String
  payloadJson : KeyedValue
  createdAt : String

/-- `LLMCallRecord`. -/
structure LlmCallRecord where
  llmCallId : String
  traceId : String
  decisionId : String
  strategyId : String
  agentName : String
  provider : String
  model : String
  promptPayload : KeyedValue
  responsePayload : KeyedValue
  promptTokens : ℤ
  completionTokens : ℤ
  totalTokens : ℤ
  latencyMs : JsonScalar
  estimatedCost : JsonScalar
  createdAt : String

/-- The part of `DecisionMemoryRecord` that the replay reads. -/
structure DecisionMemoryRecord where
  summary : KeyedValue
  lifecycle : List KeyedValue

/-- `ReplayTraceStore`: what each of its methods answers. -/
structure ReplayTraceStore where
  readDecisionTrace : String → Option DecisionTraceRecord
  listAgentRuns : String → List AgentRunRecord
  listAgentMessages : String → List AgentMessageRecord
  listLlmCalls : String → List LlmCallRecord

/-- `DecisionReplayService`; the long-term store is what its `read_decision_summary` answers. -/
structure DecisionReplayService where
  traceStore : ReplayTraceStore
  longTermStore : Option (String → Option DecisionMemoryRecord) := none

/-- `ReplayGraphNode`. -/
structure ReplayGraphNode where
  nodeId : String
  nodeType : String
  label : String
  payload : JsonValue

/-- `ReplayGraphEdge`. -/
structure ReplayGraphEdge where
  fromNodeId : String
  toNodeId : String
  relation : String
  deriving DecidableEq

/-- `DecisionReplayResult`. -/
structure DecisionReplayResult where
  decisionId : String
  traceId : String
  strategyId : String
  mode : String
  status : String
  summary : JsonValue
  lifecycle : List JsonValue
  agentRuns : List JsonValue
  llmCalls : List JsonValue
  graphNodes : List ReplayGraphNode
  graphEdges : List ReplayGraphEdge
  deterministicDigest : String
  diff : Option JsonValue

/-- `DecisionReplayNotFoundError`. -/
inductive ReplayError where
  | notFound (message : String)
  deriving DecidableEq

/-! ### Values -/

/-- A text or `None`. -/
def optionalText (text : Option String) : JsonValue :=
  match text with
  | none => .scalar .null
  | some text => .text text

variable (sha256 : String → String) (value : JsonValue) (record : AgentMessageRecord)

/-- `_ensure_mapping`; `replay_service.py:358-362`. -/
def ensureMapping : JsonValue :=
  match value.normalize with
  | .mapping entries => .mapping entries
  | other => .mapping [("value", other)]

/-- A mapping with no entry, or no mapping. -/
def isEmptyMapping : Bool :=
  match value with
  | .mapping (_ :: _) => false
  | _ => true

/-- `payload.get("status") == status`. -/
def hasStatus (status : String) (payload : JsonValue) : Bool :=
  match payload with
  | .mapping entries =>
    match entries.find? (·.1 = "status") with
    | some (_, .text value) => value = status
    | _ => false
  | _ => false

/-- `_run_sort_key`. -/
def runSortKey (record : AgentRunRecord) : String ×ₗ String ×ₗ String :=
  toLex (record.startedAt, toLex (record.agentName, record.agentRunId))

/-- `_message_sort_key`. -/
def messageSortKey : String ×ₗ String :=
  toLex (record.createdAt, record.messageId)

/-- `_llm_call_sort_key`. -/
def llmCallSortKey (record : LlmCallRecord) : String ×ₗ String :=
  toLex (record.createdAt, record.llmCallId)

/-- `_agent_message_payload`; `replay_service.py:328-335`. -/
def agentMessagePayload : JsonValue :=
  .mapping
    [("message_id", .text record.messageId),
      ("agent_run_id", .text record.agentRunId),
      ("role", .text record.role),
      ("payload_json", ensureMapping record.payloadJson.1),
      ("created_at", .text record.createdAt)]

/-- `_llm_call_payload`; `replay_service.py:338-355`. -/
def llmCallPayload (record : LlmCallRecord) : JsonValue :=
  .mapping
    [("llm_call_id", .text record.llmCallId),
      ("trace_id", .text record.traceId),
      ("decision_id", .text record.decisionId),
      ("strategy_id", .text record.strategyId),
      ("agent_name", .text record.agentName),
      ("provider", .text record.provider),
      ("model", .text record.model),
      ("prompt_payload", ensureMapping record.promptPayload.1),
      ("response_payload", ensureMapping record.responsePayload.1),
      ("prompt_tokens", .scalar (.int record.promptTokens)),
      ("completion_tokens", .scalar (.int record.completionTokens)),
      ("total_tokens", .scalar (.int record.totalTokens)),
      ("latency_ms", .scalar record.latencyMs),
      ("estimated_cost", .scalar record.estimatedCost),
      ("created_at", .text record.createdAt)]

/-- The trace of the decision as a payload. -/
def decisionPayload (trace : DecisionTraceRecord) : JsonValue :=
  .mapping
    [("decision_id", .text trace.decisionId),
      ("trace_id", .text trace.traceId),
      ("strategy_id", .text trace.strategyId),
      ("mode", .text trace.mode),
      ("status", .text trace.status),
      ("started_at", .text trace.startedAt),
      ("completed_at", optionalText trace.completedAt)]

/-- The payload of a run with its messages, sorted; `replay_service.py:156-172`. -/
def runPayload (messages : List AgentMessageRecord) (run : AgentRunRecord) : JsonValue :=
  .mapping
    [("agent_run_id", .text run.agentRunId),
      ("decision_id", .text run.decisionId),
      ("agent_name", .text run.agentName),
      ("input_ref", optionalText run.inputRef),
      ("output_ref", optionalText run.outputRef),
      ("latency_ms", .scalar run.latencyMs),
      ("status", .text run.status),
      ("started_at", .text run.startedAt),
      ("completed_at", optionalText run.completedAt),
      ("messages", .seq .list ((sortBy messageSortKey messages).map agentMessagePayload))]

/-- The part of a run that its node shows. -/
def runNodePayload (run : AgentRunRecord) : JsonValue :=
  .mapping
    [("agent_run_id", .text run.agentRunId),
      ("agent_name", .text run.agentName),
      ("status", .text run.status),
      ("started_at", .text run.startedAt),
      ("completed_at", optionalText run.completedAt)]

/-- `asdict(node)`. -/
def ReplayGraphNode.asDict (node : ReplayGraphNode) : JsonValue :=
  .mapping
    [("node_id", .text node.nodeId), ("node_type", .text node.nodeType),
      ("label", .text node.label), ("payload", node.payload)]

/-- `asdict(edge)`. -/
def ReplayGraphEdge.asDict (edge : ReplayGraphEdge) : JsonValue :=
  .mapping
    [("from_node_id", .text edge.fromNodeId), ("to_node_id", .text edge.toNodeId),
      ("relation", .text edge.relation)]

/-! ### The replay -/

/-- What the replay is made of. -/
structure Replay where
  trace : DecisionTraceRecord
  summary : JsonValue
  lifecycle : List JsonValue
  runs : List AgentRunRecord
  /-- The payloads of the runs, in the same order. -/
  runsPayload : List JsonValue
  calls : List LlmCallRecord

namespace Replay

variable (replay : Replay)

/-- The id of the node of the decision. -/
def decisionNodeId : String := "decision:" ++ replay.trace.decisionId

/-- `llm_payload`. -/
def llmPayload : List JsonValue := replay.calls.map llmCallPayload

/-- `graph_nodes`; `replay_service.py:115-142,175-189,207-215`. -/
def graphNodes : List ReplayGraphNode :=
  [⟨replay.decisionNodeId, "decision_trace", "Decision " ++ replay.trace.decisionId,
      decisionPayload replay.trace⟩] ++
    (if isEmptyMapping replay.summary then []
      else [⟨"memory:" ++ replay.trace.decisionId, "memory_summary", "Long-term summary",
        ensureMapping replay.summary⟩]) ++
    (replay.runs.map fun run =>
      ⟨"agent_run:" ++ run.agentRunId, "agent_run", run.agentName, runNodePayload run⟩) ++
    replay.calls.map fun call =>
      ⟨"llm_call:" ++ call.llmCallId, "llm_call", call.agentName, llmCallPayload call⟩

/-- `graph_edges`; `replay_service.py:131,143-149,190-196,216-222`. -/
def graphEdges : List ReplayGraphEdge :=
  (if isEmptyMapping replay.summary then []
    else [⟨replay.decisionNodeId, "memory:" ++ replay.trace.decisionId, "has_summary"⟩]) ++
    (replay.runs.map fun run =>
      ⟨replay.decisionNodeId, "agent_run:" ++ run.agentRunId, "has_run"⟩) ++
    replay.calls.map fun call =>
      ⟨replay.decisionNodeId, "llm_call:" ++ call.llmCallId, "has_llm_call"⟩

/-- `replay_payload`; `replay_service.py:224-240`. -/
def payload : JsonValue :=
  .mapping
    [("decision", decisionPayload replay.trace),
      ("summary", ensureMapping replay.summary),
      ("lifecycle", .seq .list replay.lifecycle),
      ("agent_runs", .seq .list replay.runsPayload),
      ("llm_calls", .seq .list replay.llmPayload),
      ("graph_nodes", .seq .list (replay.graphNodes.map ReplayGraphNode.asDict)),
      ("graph_edges", .seq .list (replay.graphEdges.map ReplayGraphEdge.asDict))]

end Replay

/-- `_stable_digest`; `replay_service.py:268-271`. -/
def stableDigest : String :=
  sha256 (String.ofList value.canonicalText)

/-- `_compute_replay_diff`; `replay_service.py:274-313`. The payloads of
LLM calls have no status. -/
def computeReplayDiff (originalStatus : String) (replayRuns replayLlmCalls : List JsonValue) :
    Option JsonValue :=
  let failedRuns := replayRuns.countP (hasStatus "failed")
  let errorCalls := replayLlmCalls.countP (hasStatus "error")
  let issues :=
    (if failedRuns ≠ 0 then [toString failedRuns ++ " agent run(s) failed during replay"]
      else []) ++
    (if replayRuns.isEmpty then ["No agent runs found in replay trace"] else []) ++
    (if errorCalls ≠ 0 then
        [toString errorCalls ++ " LLM call(s) errored during original execution"]
      else []) ++
    (if originalStatus = "failed" ∧ failedRuns = 0 ∧ errorCalls = 0 then
        ["Original decision failed but replay found no failures"]
      else [])
  if issues.isEmpty then none
  else
    some (.mapping
      [("has_differences", .scalar (.bool true)),
        ("issues", .seq .list (issues.map .text)),
        ("original_status", .text originalStatus),
        ("replay_run_count", .scalar (.int replayRuns.length)),
        ("replay_llm_call_count", .scalar (.int replayLlmCalls.length)),
        ("failed_run_count", .scalar (.int failedRuns)),
        ("error_call_count", .scalar (.int errorCalls))])

/-- The result of a replay; `replay_service.py:241-265`. -/
def Replay.result (replay : Replay) : DecisionReplayResult where
  decisionId := replay.trace.decisionId
  traceId := replay.trace.traceId
  strategyId := replay.trace.strategyId
  mode := replay.trace.mode
  status := replay.trace.status
  summary := ensureMapping replay.summary
  lifecycle := replay.lifecycle
  agentRuns := replay.runsPayload
  llmCalls := replay.llmPayload
  graphNodes := replay.graphNodes
  graphEdges := replay.graphEdges
  deterministicDigest := stableDigest sha256 replay.payload
  diff := computeReplayDiff replay.trace.status replay.runsPayload replay.llmPayload

namespace DecisionReplayService

variable (service : DecisionReplayService)

/-- What the long-term store has archived of the decision. -/
def archived (decisionId : String) : Option DecisionMemoryRecord :=
  service.longTermStore.bind fun store => store decisionId

/-- The parts of the replay; `replay_service.py:106-205`. -/
def reconstruct (decisionId : String) (trace : DecisionTraceRecord) : Replay :=
  let archived := service.archived decisionId
  let runs := sortBy runSortKey (service.traceStore.listAgentRuns decisionId)
  { trace
    summary := (archived.map fun record => ensureMapping record.summary.1).getD (.mapping [])
    lifecycle := (archived.map fun record =>
      record.lifecycle.map fun item => ensureMapping item.1).getD []
    runs
    runsPayload := runs.map fun run =>
      runPayload (service.traceStore.listAgentMessages run.agentRunId) run
    calls := sortBy llmCallSortKey (service.traceStore.listLlmCalls decisionId) }

/-- `replay_decision` up to the result; `replay_service.py:101-240`. -/
def replayOf (decisionId : String) : Except ReplayError Replay :=
  match service.traceStore.readDecisionTrace decisionId with
  | none => .error (.notFound ("Decision trace not found: " ++ decisionId))
  | some trace => .ok (service.reconstruct decisionId trace)

/-- `replay_decision`; `replay_service.py:101-265`. -/
def replayDecision (sha256 : String → String) (decisionId : String) :
    Except ReplayError DecisionReplayResult :=
  (service.replayOf decisionId).map (Replay.result sha256)

end DecisionReplayService

end OpenTrader.Agent
