import OpenTrader.Agent.Replay
import OpenTrader.Base.Fallible

/-!
# Replays do not depend on the order of storage

Library `Agent`. The replay sorts runs, messages and LLM calls by keys that end in their ids, and
the digest sorts the keys of every mapping. So stores that differ in order give the same replay, and
replays with the same digest have the same payload.
-/

namespace OpenTrader.Agent
open Base JsonValue

/-! ### Stores that differ in order -/

/-- The same message, with the keys of its payload in another order. -/
def AgentMessageRecord.Alike (message message' : AgentMessageRecord) : Prop :=
  ∃ payloadJson : KeyedValue, message' = { message with payloadJson } ∧
    Reorders message.payloadJson.1 payloadJson.1

/-- The same LLM call, with the keys of its payloads in another order. -/
def LlmCallRecord.Alike (call call' : LlmCallRecord) : Prop :=
  ∃ promptPayload responsePayload : KeyedValue,
    call' = { call with promptPayload, responsePayload } ∧
      Reorders call.promptPayload.1 promptPayload.1 ∧
      Reorders call.responsePayload.1 responsePayload.1

/-- The same archived summary and lifecycle, with their keys in another order. -/
structure DecisionMemoryRecord.Alike (record record' : DecisionMemoryRecord) : Prop where
  summary : Reorders record.summary.1 record'.summary.1
  lifecycle : List.Forall₂ (fun item item' : KeyedValue => Reorders item.1 item'.1)
    record.lifecycle record'.lifecycle

/-- The stores have the same records of a decision, in any order of runs, of the messages of each
run, of LLM calls and of the keys of every mapping. -/
structure DecisionReplayService.Alike (service service' : DecisionReplayService)
    (decisionId : String) : Prop where
  trace : service'.traceStore.readDecisionTrace decisionId =
    service.traceStore.readDecisionTrace decisionId
  runs : (service.traceStore.listAgentRuns decisionId).Perm
    (service'.traceStore.listAgentRuns decisionId)
  messages : ∀ run ∈ service.traceStore.listAgentRuns decisionId,
    PermAlike AgentMessageRecord.Alike (service.traceStore.listAgentMessages run.agentRunId)
      (service'.traceStore.listAgentMessages run.agentRunId)
  calls : PermAlike LlmCallRecord.Alike (service.traceStore.listLlmCalls decisionId)
    (service'.traceStore.listLlmCalls decisionId)
  archived : Option.Rel DecisionMemoryRecord.Alike (service.archived decisionId)
    (service'.archived decisionId)

/-- The runs of a decision, the messages of each of them and the LLM calls have distinct ids. -/
structure DecisionReplayService.DistinctIds (service : DecisionReplayService)
    (decisionId : String) : Prop where
  runs : ((service.traceStore.listAgentRuns decisionId).map (·.agentRunId)).Nodup
  messages : ∀ run ∈ service.traceStore.listAgentRuns decisionId,
    ((service.traceStore.listAgentMessages run.agentRunId).map (·.messageId)).Nodup
  calls : ((service.traceStore.listLlmCalls decisionId).map (·.llmCallId)).Nodup

/-- The same node, with the keys of its payload in another order. -/
structure ReplayGraphNode.Alike (node node' : ReplayGraphNode) : Prop where
  labels : (node'.nodeId, node'.nodeType, node'.label) = (node.nodeId, node.nodeType, node.label)
  payload : Reorders node.payload node'.payload

/-- The same result, with the keys of its mappings in another order. -/
structure DecisionReplayResult.Alike (result result' : DecisionReplayResult) : Prop where
  decision : (result'.decisionId, result'.traceId, result'.strategyId, result'.mode,
    result'.status) = (result.decisionId, result.traceId, result.strategyId, result.mode,
    result.status)
  digest : result'.deterministicDigest = result.deterministicDigest
  diff : result'.diff = result.diff
  summary : Reorders result.summary result'.summary
  lifecycle : List.Forall₂ Reorders result.lifecycle result'.lifecycle
  agentRuns : List.Forall₂ Reorders result.agentRuns result'.agentRuns
  llmCalls : List.Forall₂ Reorders result.llmCalls result'.llmCalls
  graphNodes : List.Forall₂ ReplayGraphNode.Alike result.graphNodes result'.graphNodes
  graphEdges : result'.graphEdges = result.graphEdges

/-- The payload behind the digest of a result; its decision is that of the first node. -/
def DecisionReplayResult.payload (result : DecisionReplayResult) : JsonValue :=
  .mapping
    [("decision", (result.graphNodes.head?.map (·.payload)).getD (.mapping [])),
      ("summary", result.summary),
      ("lifecycle", .seq .list result.lifecycle),
      ("agent_runs", .seq .list result.agentRuns),
      ("llm_calls", .seq .list result.llmCalls),
      ("graph_nodes", .seq .list (result.graphNodes.map ReplayGraphNode.asDict)),
      ("graph_edges", .seq .list (result.graphEdges.map ReplayGraphEdge.asDict))]

/-! ### Payloads -/

private def isMapping : JsonValue → Bool
  | .mapping _ => true
  | _ => false

private theorem isMapping_sortKeys (x : JsonValue) :
    isMapping (sortKeys x.normalize) = isMapping x := by
  cases x <;> simp [isMapping]

private theorem isEmptyMapping_sortKeys (x : JsonValue) :
    isEmptyMapping (sortKeys x.normalize) = isEmptyMapping x := by
  cases x with
  | scalar | text | seq => simp [isEmptyMapping]
  | mapping entries =>
    rw [normalize_mapping, sortKeys_mapping]
    have hlen := (perm_sortBy Prod.fst
      ((entries.map fun e => (e.1, e.2.normalize)).map fun e => (e.1, e.2.sortKeys))).length_eq
    simp only [List.length_map] at hlen
    cases entries with
    | nil =>
      rw [List.eq_nil_of_length_eq_zero hlen]
    | cons entry entries =>
      obtain ⟨first, rest, hsorted⟩ := List.exists_cons_of_length_eq_add_one hlen
      rw [hsorted]
      rfl

variable {x : JsonValue}

private theorem ensureMapping_of_isMapping (h : isMapping x.normalize = true) :
    ensureMapping x = x.normalize := by
  unfold ensureMapping
  cases hx : x.normalize with
  | mapping entries => rfl
  | scalar | text | seq => simp [hx, isMapping] at h

private theorem ensureMapping_of_not_isMapping (h : ¬ isMapping x.normalize = true) :
    ensureMapping x = .mapping [("value", x.normalize)] := by
  unfold ensureMapping
  cases hx : x.normalize with
  | mapping entries => simp [hx, isMapping] at h
  | scalar | text | seq => rfl

private theorem sameValue_ensureMapping {y : JsonValue} (h : SameValue x y) :
    SameValue (ensureMapping x) (ensureMapping y) := by
  have hmapping : isMapping x.normalize = isMapping y.normalize := by
    rw [← isMapping_sortKeys x.normalize, ← isMapping_sortKeys y.normalize, normalize_normalize,
      normalize_normalize, h.sorted]
  by_cases hx : isMapping x.normalize = true
  · rw [ensureMapping_of_isMapping hx, ensureMapping_of_isMapping (hmapping ▸ hx)]
    exact h.normalize
  · rw [ensureMapping_of_not_isMapping hx, ensureMapping_of_not_isMapping (hmapping ▸ hx)]
    exact .mapping (.cons ⟨rfl, h.normalize⟩ .nil)

private theorem isEmptyMapping_eq {y : JsonValue} (h : SameValue x y) :
    isEmptyMapping x = isEmptyMapping y := by
  rw [← isEmptyMapping_sortKeys x, ← isEmptyMapping_sortKeys y, h.sorted]

private theorem sameValue_agentMessagePayload {message message' : AgentMessageRecord}
    (h : message.Alike message') :
    SameValue (agentMessagePayload message) (agentMessagePayload message') := by
  obtain ⟨payloadJson, rfl, hbody⟩ := h
  have hsame := sameValue_ensureMapping (.of_reorders message.payloadJson.2 hbody)
  refine .mapping ?_
  simp only [List.forall₂_cons, List.forall₂_nil_left_iff, true_and, and_true]
  exact ⟨.refl _, .refl _, .refl _, hsame, .refl _⟩

private theorem sameValue_llmCallPayload {call call' : LlmCallRecord} (h : call.Alike call') :
    SameValue (llmCallPayload call) (llmCallPayload call') := by
  obtain ⟨promptPayload, responsePayload, rfl, hprompt, hresp⟩ := h
  have hprompt := sameValue_ensureMapping (.of_reorders call.promptPayload.2 hprompt)
  have hresp := sameValue_ensureMapping (.of_reorders call.responsePayload.2 hresp)
  refine .mapping ?_
  simp only [List.forall₂_cons, List.forall₂_nil_left_iff, true_and, and_true]
  exact ⟨.refl _, .refl _, .refl _, .refl _, .refl _, .refl _, .refl _, hprompt, hresp,
    .refl _, .refl _, .refl _, .refl _, .refl _, .refl _⟩

private theorem sameValue_runPayload {messages messages' : List AgentMessageRecord}
    (h : List.Forall₂ AgentMessageRecord.Alike (sortBy messageSortKey messages)
      (sortBy messageSortKey messages')) (run : AgentRunRecord) :
    SameValue (runPayload messages run) (runPayload messages' run) := by
  have hmessages : SameValue
      (.seq .list ((sortBy messageSortKey messages).map agentMessagePayload))
      (.seq .list ((sortBy messageSortKey messages').map agentMessagePayload)) := by
    refine .seq ?_
    rw [List.forall₂_map_left_iff, List.forall₂_map_right_iff]
    exact h.imp fun _ _ => sameValue_agentMessagePayload
  refine .mapping ?_
  simp only [List.forall₂_cons, List.forall₂_nil_left_iff, true_and, and_true]
  exact ⟨.refl _, .refl _, .refl _, .refl _, .refl _, .refl _, .refl _, .refl _, .refl _,
    hmessages⟩

/-! ### Replays of the same parts -/

/-- The parts of two replays are the same, up to the order of keys. -/
structure Replay.Alike (replay replay' : Replay) : Prop where
  trace : replay'.trace = replay.trace
  summary : SameValue replay.summary replay'.summary
  lifecycle : List.Forall₂ SameValue replay.lifecycle replay'.lifecycle
  runs : replay'.runs = replay.runs
  runsPayload : List.Forall₂ SameValue replay.runsPayload replay'.runsPayload
  failed : replay'.runsPayload.map (hasStatus "failed") =
    replay.runsPayload.map (hasStatus "failed")
  calls : List.Forall₂ LlmCallRecord.Alike replay.calls replay'.calls

namespace Replay.Alike

variable {replay replay' : Replay}

private theorem llmPayload (h : replay.Alike replay') :
    List.Forall₂ SameValue replay.llmPayload replay'.llmPayload := by
  unfold Replay.llmPayload
  rw [List.forall₂_map_left_iff, List.forall₂_map_right_iff]
  exact h.calls.imp fun _ _ => sameValue_llmCallPayload

private theorem graphNodes (h : replay.Alike replay') :
    List.Forall₂ (fun node node' : ReplayGraphNode =>
      (node'.nodeId, node'.nodeType, node'.label) = (node.nodeId, node.nodeType, node.label) ∧
        SameValue node.payload node'.payload) replay.graphNodes replay'.graphNodes := by
  unfold Replay.graphNodes Replay.decisionNodeId
  rw [h.trace, h.runs, ← isEmptyMapping_eq h.summary]
  refine List.rel_append (List.rel_append (List.rel_append ?_ ?_) ?_) ?_
  · exact .cons ⟨rfl, .refl _⟩ .nil
  · split
    · exact .nil
    · exact .cons ⟨rfl, sameValue_ensureMapping h.summary⟩ .nil
  · exact List.forall₂_same.mpr fun node _ => ⟨rfl, .refl _⟩
  · rw [List.forall₂_map_left_iff, List.forall₂_map_right_iff]
    refine h.calls.imp fun call call' hcall => ⟨?_, sameValue_llmCallPayload hcall⟩
    obtain ⟨_, _, rfl, -⟩ := hcall
    rfl

private theorem graphEdges (h : replay.Alike replay') : replay'.graphEdges = replay.graphEdges := by
  have hedges : List.Forall₂ Eq
      (replay.calls.map fun call => (⟨replay.decisionNodeId, "llm_call:" ++ call.llmCallId,
        "has_llm_call"⟩ : ReplayGraphEdge))
      (replay'.calls.map fun call => ⟨replay.decisionNodeId, "llm_call:" ++ call.llmCallId,
        "has_llm_call"⟩) := by
    rw [List.forall₂_map_left_iff, List.forall₂_map_right_iff]
    refine h.calls.imp fun call call' hcall => ?_
    obtain ⟨_, _, rfl, -⟩ := hcall
    rfl
  rw [List.forall₂_eq_eq_eq] at hedges
  have hnode : replay'.decisionNodeId = replay.decisionNodeId := by
    rw [Replay.decisionNodeId, Replay.decisionNodeId, h.trace]
  unfold Replay.graphEdges
  rw [hnode, h.trace, h.runs, ← isEmptyMapping_eq h.summary, ← hedges]

private theorem payload (h : replay.Alike replay') : SameValue replay.payload replay'.payload := by
  have hnodes : SameValue (.seq .list (replay.graphNodes.map ReplayGraphNode.asDict))
      (.seq .list (replay'.graphNodes.map ReplayGraphNode.asDict)) := by
    refine .seq ?_
    rw [List.forall₂_map_left_iff, List.forall₂_map_right_iff]
    refine h.graphNodes.imp fun node node' hnode => ?_
    obtain ⟨hlabels, hbody⟩ := hnode
    simp only [Prod.mk.injEq] at hlabels
    obtain ⟨hid, htype, hlabel⟩ := hlabels
    unfold ReplayGraphNode.asDict
    rw [hid, htype, hlabel]
    refine .mapping ?_
    simp only [List.forall₂_cons, List.forall₂_nil_left_iff, true_and, and_true]
    exact ⟨.refl _, .refl _, .refl _, hbody⟩
  unfold Replay.payload
  rw [h.trace, h.graphEdges]
  refine .mapping ?_
  simp only [List.forall₂_cons, List.forall₂_nil_left_iff, true_and, and_true]
  exact ⟨.refl _, sameValue_ensureMapping h.summary, .seq h.lifecycle, .seq h.runsPayload,
    .seq h.llmPayload, hnodes, .refl _⟩

end Replay.Alike

private theorem computeReplayDiff_congr {status : String} {runs runs' calls calls' : List JsonValue}
    (hruns : runs'.map (hasStatus "failed") = runs.map (hasStatus "failed"))
    (hcalls : calls'.map (hasStatus "error") = calls.map (hasStatus "error")) :
    computeReplayDiff status runs' calls' = computeReplayDiff status runs calls := by
  have hcount (p : JsonValue → Bool) (l : List JsonValue) : l.countP p = (l.map p).countP id := by
    rw [List.countP_map]
    rfl
  have hlen : runs'.length = runs.length := by
    simpa using congrArg List.length hruns
  have hlen' : calls'.length = calls.length := by
    simpa using congrArg List.length hcalls
  have hempty : runs'.isEmpty = runs.isEmpty := by
    rw [Bool.eq_iff_iff, List.isEmpty_iff_length_eq_zero, List.isEmpty_iff_length_eq_zero, hlen]
  unfold computeReplayDiff
  simp only [hcount, hruns, hcalls, hlen, hlen', hempty]

private theorem hasStatus_llmCallPayload (status : String) (call : LlmCallRecord) :
    hasStatus status (llmCallPayload call) = false := by
  simp [hasStatus, llmCallPayload]

private theorem hasStatus_runPayload (status : String) (messages : List AgentMessageRecord)
    (run : AgentRunRecord) :
    hasStatus status (runPayload messages run) = decide (run.status = status) := by
  simp [hasStatus, runPayload]

private theorem Replay.Alike.result {replay replay' : Replay} (h : replay.Alike replay')
    (sha256 : String → String) : (replay.result sha256).Alike (replay'.result sha256) where
  decision := by simp only [Replay.result, h.trace]
  digest := by
    simp only [Replay.result, stableDigest]
    rw [h.payload.canonicalText_eq]
  diff := by
    simp only [Replay.result, h.trace]
    refine computeReplayDiff_congr h.failed ?_
    have hn (calls : List LlmCallRecord) : (calls.map llmCallPayload).map (hasStatus "error") =
        List.replicate calls.length false := by
      rw [List.map_map, List.map_eq_replicate_iff]
      exact fun call _ => hasStatus_llmCallPayload "error" call
    rw [Replay.llmPayload, Replay.llmPayload, hn, hn, h.calls.length_eq]
  summary := (sameValue_ensureMapping h.summary).reorders
  lifecycle := h.lifecycle.imp fun _ _ hitem => hitem.reorders
  agentRuns := h.runsPayload.imp fun _ _ hitem => hitem.reorders
  llmCalls := h.llmPayload.imp fun _ _ hitem => hitem.reorders
  graphNodes := h.graphNodes.imp fun _ _ hnode => ⟨hnode.1, hnode.2.reorders⟩
  graphEdges := h.graphEdges

/-! ### Stores that differ in order have the same replay -/

section

variable {service service' : DecisionReplayService} {decisionId : String}

private theorem eq_of_id_eq {α : Type} {items : List α} {id : α → String}
    (h : (items.map id).Nodup) : ∀ a ∈ items, ∀ b ∈ items, id a = id b → a = b :=
  fun _ ha _ hb hab => List.inj_on_of_nodup_map h ha hb hab

private theorem runSortKey_id {a b : AgentRunRecord} (h : runSortKey a = runSortKey b) :
    a.agentRunId = b.agentRunId := by
  have hpair := congrArg (fun key => (ofLex (ofLex key).2).2) h
  exact hpair

private theorem sortBy_runs (h : service.Alike service' decisionId)
    (hids : service.DistinctIds decisionId) :
    sortBy runSortKey (service'.traceStore.listAgentRuns decisionId) =
      sortBy runSortKey (service.traceStore.listAgentRuns decisionId) := by
  refine (sortBy_eq_of_perm h.runs fun a ha b hb hab => ?_).symm
  exact eq_of_id_eq hids.runs a ha b hb (runSortKey_id hab)

private theorem sameValue_runPayload_listed (h : service.Alike service' decisionId)
    (hids : service.DistinctIds decisionId) {run : AgentRunRecord}
    (hrun : run ∈ service.traceStore.listAgentRuns decisionId) :
    SameValue (runPayload (service.traceStore.listAgentMessages run.agentRunId) run)
      (runPayload (service'.traceStore.listAgentMessages run.agentRunId) run) := by
  refine sameValue_runPayload ((h.messages run hrun).forall₂_sortBy ?_ ?_) run
  · rintro message message' ⟨_, rfl, -⟩
    rfl
  · intro a ha b hb hab
    exact eq_of_id_eq (hids.messages run hrun) a ha b hb
      (congrArg (fun key : String ×ₗ String => (ofLex key).2) hab)

private theorem alike_sortedCalls (h : service.Alike service' decisionId)
    (hids : service.DistinctIds decisionId) :
    List.Forall₂ LlmCallRecord.Alike
      (sortBy llmCallSortKey (service.traceStore.listLlmCalls decisionId))
      (sortBy llmCallSortKey (service'.traceStore.listLlmCalls decisionId)) := by
  refine h.calls.forall₂_sortBy ?_ ?_
  · rintro call call' ⟨_, _, rfl, -⟩
    rfl
  · intro a ha b hb hab
    exact eq_of_id_eq hids.calls a ha b hb
      (congrArg (fun key : String ×ₗ String => (ofLex key).2) hab)

private theorem alike_reconstruct (h : service.Alike service' decisionId)
    (hids : service.DistinctIds decisionId) (trace : DecisionTraceRecord) :
    (service.reconstruct decisionId trace).Alike (service'.reconstruct decisionId trace) := by
  have hruns := sortBy_runs h hids
  have harchived := h.archived
  unfold DecisionReplayService.reconstruct
  generalize service.archived decisionId = archived at harchived ⊢
  generalize service'.archived decisionId = archived' at harchived ⊢
  constructor
  case trace => rfl
  case runs => exact hruns
  case calls => exact alike_sortedCalls h hids
  case summary =>
    cases harchived with
    | none => exact .refl _
    | some hrec =>
      exact sameValue_ensureMapping (.of_reorders (Subtype.property _) hrec.summary)
  case lifecycle =>
    cases harchived with
    | none => exact .nil
    | some hrec =>
      simp only [Option.map_some, Option.getD_some]
      rw [List.forall₂_map_left_iff, List.forall₂_map_right_iff]
      exact hrec.lifecycle.imp fun item _ hitem =>
        sameValue_ensureMapping (.of_reorders item.2 hitem)
  case runsPayload =>
    simp only [hruns]
    rw [List.forall₂_map_left_iff, List.forall₂_map_right_iff]
    exact List.forall₂_same.mpr fun run hrun =>
      sameValue_runPayload_listed h hids ((perm_sortBy _ _).mem_iff.mp hrun)
  case failed =>
    simp only [hruns, List.map_map]
    refine List.map_congr_left fun run _ => ?_
    simp only [Function.comp_apply, hasStatus_runPayload]

private theorem alike_replayDecision (h : service.Alike service' decisionId)
    (hids : service.DistinctIds decisionId) (sha256 : String → String) :
    (∀ e, service.replayDecision sha256 decisionId = .error e →
        service'.replayDecision sha256 decisionId = .error e) ∧
      ∀ result, service.replayDecision sha256 decisionId = .ok result →
        ∃ result', service'.replayDecision sha256 decisionId = .ok result' ∧
          result.Alike result' := by
  unfold DecisionReplayService.replayDecision DecisionReplayService.replayOf
  rw [h.trace]
  cases service.traceStore.readDecisionTrace decisionId with
  | none =>
    refine ⟨fun e he => he, fun result hres => ?_⟩
    cases hres
  | some trace =>
    refine ⟨fun e he => ?_, fun result hres => ?_⟩
    · cases he
    · cases hres
      exact ⟨_, rfl, (alike_reconstruct h hids trace).result sha256⟩

end

/-- **Replays.** Stores that differ in the order of runs, messages, LLM calls and keys give the same
result, up to the order of keys, with the same digest; and replays with the same digest have the
same normalized payload, up to the order of keys. -/
theorem replay_order_independent {sha256 : String → String} (hsha : Function.Injective sha256) :
    (∀ (service service' : DecisionReplayService) (decisionId : String),
      service.Alike service' decisionId → service.DistinctIds decisionId →
        (∀ e, service.replayDecision sha256 decisionId = .error e →
            service'.replayDecision sha256 decisionId = .error e) ∧
          ∀ result, service.replayDecision sha256 decisionId = .ok result →
            ∃ result', service'.replayDecision sha256 decisionId = .ok result' ∧
              result.Alike result') ∧
      ∀ (service service' : DecisionReplayService) (decisionId decisionId' : String)
        (result result' : DecisionReplayResult),
          service.replayDecision sha256 decisionId = .ok result →
          service'.replayDecision sha256 decisionId' = .ok result' →
          result.deterministicDigest = result'.deterministicDigest →
            Reorders result.payload.normalize result'.payload.normalize := by
  refine ⟨fun _ _ _ h hids => alike_replayDecision h hids sha256, ?_⟩
  intro _ _ _ _ _ _ hresult hresult' hdigest
  obtain ⟨replay, -, rfl⟩ := map_eq_ok_iff.mp hresult
  obtain ⟨replay', -, rfl⟩ := map_eq_ok_iff.mp hresult'
  exact @reorders_of_canonicalText_eq replay.payload replay'.payload
    (String.ofList_injective (hsha hdigest))

/-- A run of an agent. -/
def agentRun (agentRunId agentName : String) : AgentRunRecord where
  agentRunId := agentRunId
  decisionId := "d-1"
  agentName := agentName
  inputRef := none
  outputRef := none
  latencyMs := .int 12
  status := "completed"
  startedAt := "2026-03-01T09:00:00Z"
  completedAt := none

private theorem keyed_quote :
    Keyed (.mapping [("bid", .scalar (.int 99)), ("ask", .scalar (.int 101))]) ∧
      Keyed (.mapping [("ask", .scalar (.int 101)), ("bid", .scalar (.int 99))]) := by
  simp [keyed_mapping_iff, Keyed.scalar]

/-- The two sides of a quote, in one of two orders. -/
def quotePayload (bidFirst : Bool) : KeyedValue :=
  if bidFirst then ⟨_, keyed_quote.1⟩ else ⟨_, keyed_quote.2⟩

/-- A store with two runs, the first of them with a message. -/
def quoteStore (runs : List AgentRunRecord) (bidFirst : Bool) : DecisionReplayService where
  traceStore :=
    { readDecisionTrace := fun _ => some ⟨"d-1", "t-1", "momentum", "MOCK", "completed",
        "2026-03-01T09:00:00Z", none⟩
      listAgentRuns := fun _ => runs
      listAgentMessages := fun agentRunId =>
        [⟨"m-1", agentRunId, "input", quotePayload bidFirst, "2026-03-01T09:00:00Z"⟩]
      listLlmCalls := fun _ => [] }

/-- The runs and the keys of the messages come in the other order, and the digest is the same. -/
theorem replay_of_reordered_store : ∃ result result',
    (quoteStore [agentRun "r-1" "market", agentRun "r-2" "planner"] true).replayDecision id "d-1" =
        .ok result ∧
      (quoteStore [agentRun "r-2" "planner", agentRun "r-1" "market"] false).replayDecision id
        "d-1" = .ok result' ∧
      result'.deterministicDigest = result.deterministicDigest := by
  have hquote : Reorders (quotePayload true).1 (quotePayload false).1 :=
    Relation.ReflTransGen.single (.entries (List.Perm.swap ..))
  have halike : (quoteStore [agentRun "r-1" "market", agentRun "r-2" "planner"] true).Alike
      (quoteStore [agentRun "r-2" "planner", agentRun "r-1" "market"] false) "d-1" :=
    { trace := rfl
      runs := List.Perm.swap ..
      messages := fun run _ => ⟨_, List.Perm.refl _, .cons ⟨quotePayload false, rfl, hquote⟩ .nil⟩
      calls := ⟨[], List.Perm.refl _, .nil⟩
      archived := .none }
  have hids : (quoteStore [agentRun "r-1" "market", agentRun "r-2" "planner"] true).DistinctIds
      "d-1" :=
    { runs := by decide
      messages := fun run _ => List.nodup_singleton _
      calls := List.nodup_nil }
  obtain ⟨result', hresult', halike'⟩ :=
    ((replay_order_independent Function.injective_id).1 _ _ _ halike hids).2 _ rfl
  exact ⟨_, result', rfl, hresult', halike'.digest⟩

end OpenTrader.Agent
